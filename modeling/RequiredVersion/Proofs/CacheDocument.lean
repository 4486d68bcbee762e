import RequiredVersion.Proofs.JsonDocument
import RequiredVersion.Proofs.SortedMap
import RequiredVersion.Proofs.Storing

/-! # Cache documents

The document of a cache is read back as the entries of the cache, if each of its data is read back
from its own document (`decodeEntries?_document`).  So loading a cache that has been saved gives a
cache with the same entries (`load_save`). -/

namespace RequiredVersion

/-! ### Maps -/

theorem RawJson.map?_obj {α β : Type} {name : β → String} {encode : β → Json} {value : β → α}
    {read : RawJson → Option α} {l : List β} (h : ∀ b ∈ l, read (encode b).raw = some (value b)) :
    RawJson.map? read (Json.obj (l.map (fun b => (name b, encode b)))).raw =
      some (.ofList (l.map (fun b => (name b, value b)))) := by
  have hmembers : (l.map (fun b => (Json.units (name b), (encode b).raw))).mapM
      (fun (m : RawText × RawJson) => do
        let k ← key? m.1
        let v ← read m.2
        pure (k, v)) = some (l.map (fun b => (name b, value b))) := by
    refine mapM_map_eq_some (fun b hb => ?_)
    simp only [key?_units, h b hb, Option.bind_eq_bind, Option.bind_some, Option.pure_def]
  rw [Json.raw, rawMembers_eq_map, List.map_map, map?]
  exact congrArg (Option.map SortedMap.ofList) hmembers

theorem RawJson.map?_toJson {α : Type} {encode : α → Json} {read : RawJson → Option α}
    (m : SortedMap String α) (h : ∀ e ∈ m.entries, read (encode e.2).raw = some e.2) :
    RawJson.map? read (m.toJson encode).raw = some m := by
  rw [SortedMap.toJson, map?_obj h]
  exact congrArg some ((congrArg _ (List.map_id _)).trans (SortedMap.ofList_entries m))

/-- Are data read back from their document? -/
def Format.RoundTrips {α : Type} (format : Format α) (data : α) : Prop :=
  (RawJson.ofText? (format.encode data).pretty).bind format.decode = some data

namespace Cache

variable {α : Type} {format : Format α}

theorem entryOfRaw?_entryToJson {e : CacheEntry α} (h : format.RoundTrips e.data) :
    entryOfRaw? format (entryToJson format e).raw = some e := by
  rw [Format.RoundTrips, RawJson.ofText?_pretty, Option.bind_some] at h
  let fields : RawJson.Fields :=
    ⟨[("key", .str (Json.units e.key)), ("data", (format.encode e.data).raw)]⟩
  have hfields : (entryToJson format e).raw.fields? ["key", "data"] = some fields := by
    rw [entryToJson, Json.raw, RawJson.fields?, RawJson.objectFields?, RawJson.rawMembers_eq_map,
      RawJson.mapM_map_eq_some (fun m _ => by rw [RawJson.key?_units]; rfl)]
    rfl
  have hkey : fields.required? "key" RawJson.text? = some e.key := RawJson.key?_units e.key
  have hdata : fields.required? "data" format.decode = some e.data := h
  rw [entryOfRaw?, hfields]
  simp only [Option.bind_eq_bind, Option.bind_some, hkey, hdata]

/-- **A cache document is read back**, if its data are. -/
theorem decodeEntries?_document {c : Cache α}
    (h : ∀ k e, c.entries.get? k = some e → format.RoundTrips e.data) :
    decodeEntries? format (c.document format).toUTF8 = some c.entries := by
  rw [decodeEntries?, document, RawJson.ofBytes?_pretty, Option.bind_some]
  exact RawJson.map?_toJson c.entries (fun e he =>
    entryOfRaw?_entryToJson (h e.1 e.2 (SortedMap.mem_entries_iff.mp he)))

/-! ### Saving and loading -/

variable {c : Cache α} {path : Path} {s s' : Session}

theorem read_of_save (hpath : c.path = some path)
    (h : (c.save format).outcome.run s = (.ok (), s')) :
    s'.files.readBytes path = .ok (c.document format).toUTF8 := by
  rw [save_eq format hpath] at h
  obtain ⟨_, s₁, hstore, hnote⟩ := Run.run_bind_ok h
  cases hnote
  exact congrArg (Except.map Content.toBytes) (Run.read_of_store hstore)

theorem load_of_read {bytes : ByteArray} {entries : SortedMap String (CacheEntry α)}
    (hread : s.files.readBytes path = .ok bytes)
    (hentries : decodeEntries? format bytes = some entries) :
    ∃ s', (load format path).outcome.run s = (.ok ⟨some path, entries, true, .empty⟩, s') := by
  unfold load
  rw [Run.run_bind, Run.run_files]
  dsimp only
  rw [hread]
  dsimp only
  rw [hentries]
  exact ⟨_, rfl⟩

/-- A cache is loaded from a file that can be read or is missing.  It is empty, or its entries are those
of the document. -/
theorem load_ok (h : (load format path).outcome.run s = (.ok c, s')) :
    s'.files = s.files ∧ c.path = some path ∧
      (s.files.readBytes path = .error .notFound ∨ ∃ bytes, s.files.readBytes path = .ok bytes) ∧
      (c.entries = .empty ∨ ∃ bytes, decodeEntries? format bytes = some c.entries) := by
  unfold load at h
  rw [Run.run_bind, Run.run_files] at h
  dsimp only at h
  split at h
  · next bytes hread =>
      split at h
      · next entries hdecode =>
          cases h
          exact ⟨rfl, rfl, .inr ⟨bytes, hread⟩, .inr ⟨bytes, hdecode⟩⟩
      · cases h
        exact ⟨rfl, rfl, .inr ⟨bytes, hread⟩, .inl rfl⟩
  · next hread =>
      cases h
      exact ⟨rfl, rfl, .inl hread, .inl rfl⟩
  · cases h

theorem files_load (format : Format α) (path : Path) (s : Session) :
    ((load format path).outcome.run s).2.files = s.files := by
  refine (?_ : Run.Keeps (· = s.files) (load format path)) s rfl
  unfold load
  refine .bind .files (fun fs => ?_)
  dsimp only
  split
  · split
    · exact .bind (.pure _) (fun _ => .bind (.note _ _ _) (fun _ => .pure _))
    · exact .bind (.note _ _ _) (fun _ => .bind (.pure _) (fun _ =>
        .bind (.note _ _ _) (fun _ => .pure _)))
  · exact .bind (.pure _) (fun _ => .bind (.note _ _ _) (fun _ => .pure _))
  · exact .bind (.throw _) (fun _ => .bind (.note _ _ _) (fun _ => .pure _))

/-- **A cache that has been saved is loaded** with the same entries. -/
theorem load_save (hpath : c.path = some path) (hsave : (c.save format).outcome.run s = (.ok (), s'))
    (h : ∀ k e, c.entries.get? k = some e → format.RoundTrips e.data) :
    ∃ s'', (load format path).outcome.run s' = (.ok ⟨some path, c.entries, true, .empty⟩, s'') :=
  load_of_read (read_of_save hpath hsave) (decodeEntries?_document h)

end Cache

end RequiredVersion
