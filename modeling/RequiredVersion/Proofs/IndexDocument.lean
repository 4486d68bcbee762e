import RequiredVersion.Proofs.CacheDocument
import RequiredVersion.Proofs.TableVersions

/-! # Index documents

The document of an index is read back as the index (`Index.decode?_document`), if its versions are
read from texts.  This is shown from the inside out: for versions, lifespans, classes and tables, of
each what a reader makes of its document.  Of a written object the members that are fields of a record
are read, wherever they stand, and the others are passed over (`RawJson.fields?_obj`).

An index is read only if all of its document is readable with a limited nesting, so that is shown for
each part as well (`Index.isSome_value?`). -/

namespace RequiredVersion

/-! ### Records -/

theorem Json.names_optional (name : String) (o : Option Json) :
    ((optional name o).map (·.1)).Sublist [name] := by
  cases o with
  | none => exact List.nil_sublist _
  | some v => exact List.Sublist.refl _

theorem Json.lookup_optional (name : String) (o : Option Json) (other : String) :
    (optional name o).lookup other = if other = name then o else none := by
  cases o with
  | none => exact (ite_self none).symm
  | some v =>
      rw [optional, List.lookup_cons]
      by_cases h : other = name
      · rw [if_pos h, h, beq_self_eq_true]
      · rw [if_neg h, beq_false_of_ne h]
        rfl

theorem Json.forall_mem_optional {P : Json → Prop} {name : String} {o : Option Json}
    (h : ∀ v, o = some v → P v) : ∀ m ∈ optional name o, P m.2 := by
  intro m hm
  cases o with
  | none => cases hm
  | some v =>
      cases List.mem_singleton.mp hm
      exact h v rfl

namespace RawJson

variable {α : Type} {members : List (String × Json)} {names : List String} {name : String}

/-- The members of a written object, as the fields of a record. -/
def Fields.ofMembers (members : List (String × Json)) : Fields :=
  ⟨members.map (fun m => (m.1, m.2.raw))⟩

/-- The members of an object that are fields of a record. -/
def ownMembers (names : List String) (members : List (String × Json)) : List (String × Json) :=
  members.filter (fun m => names.contains m.1)

theorem lookup_ownMembers (names : List String) (members : List (String × Json)) (h : name ∈ names) :
    (ownMembers names members).lookup name = members.lookup name := by
  induction members with
  | nil => rfl
  | cons m ms ih =>
      rw [ownMembers] at ih
      rw [ownMembers, List.filter_cons, List.lookup_cons]
      by_cases hm : name = m.1
      · rw [if_pos (List.contains_iff_mem.mpr (hm ▸ h)), List.lookup_cons, hm, beq_self_eq_true]
      · rw [beq_false_of_ne hm]
        split
        · rw [List.lookup_cons, beq_false_of_ne hm]
          exact ih
        · exact ih

/-- Of a written object the members that are fields of a record are read, if none is repeated. -/
theorem objectFields?_rawMembers (names : List String) (h : (members.map (·.1)).Nodup) :
    objectFields? names (Json.rawMembers members) = some (.ofMembers (ownMembers names members)) := by
  have hparts : (Json.rawMembers members).mapM (fun m => (key? m.1).map (fun k => (k, m.2))) =
      some (members.map (fun m => (m.1, m.2.raw))) := by
    rw [rawMembers_eq_map]
    exact mapM_map_eq_some (fun m _ => by rw [key?_units]; rfl)
  have hown : (members.map (fun m => (m.1, m.2.raw))).filter (fun p => names.contains p.1) =
      (ownMembers names members).map (fun m => (m.1, m.2.raw)) := List.filter_map
  have hnodup : (((ownMembers names members).map (fun m => (m.1, m.2.raw))).map (·.1)).Nodup := by
    rw [List.map_map]
    exact h.sublist (List.filter_sublist.map Prod.fst)
  rw [objectFields?, hparts]
  dsimp only [Option.bind_eq_bind, Option.bind_some]
  rw [hown, if_pos hnodup, Fields.ofMembers]

theorem fields?_obj (names : List String) (h : (members.map (·.1)).Nodup) :
    (Json.obj members).raw.fields? names = some (.ofMembers (ownMembers names members)) := by
  rw [Json.raw, fields?]
  exact objectFields?_rawMembers names h

theorem get?_ofMembers (members : List (String × Json)) (name : String) :
    (Fields.ofMembers members).get? name = (members.lookup name).map Json.raw := by
  induction members with
  | nil => rfl
  | cons m ms ih =>
      rw [Fields.get?, Fields.ofMembers] at ih
      rw [Fields.get?, Fields.ofMembers, List.map_cons, List.find?_cons, List.lookup_cons]
      by_cases h : m.1 = name
      · rw [h, beq_self_eq_true]
        rfl
      · rw [beq_false_of_ne h, beq_false_of_ne (Ne.symm h)]
        exact ih

theorem getD?_ofMembers {v : Json} {fallback : α} {read : RawJson → Option α}
    (h : members.lookup name = some v) :
    (Fields.ofMembers members).getD? name fallback read = read v.raw := by
  rw [Fields.getD?, get?_ofMembers, h]
  rfl

theorem getD?_ofMembers_none {fallback : α} {read : RawJson → Option α}
    (h : members.lookup name = none) :
    (Fields.ofMembers members).getD? name fallback read = some fallback := by
  rw [Fields.getD?, get?_ofMembers, h]
  rfl

/-- A field that is written is read, also where other members stand beside it. -/
theorem required?_ownMembers {v : Json} {read : RawJson → Option α} (hname : name ∈ names)
    (h : members.lookup name = some v) :
    (Fields.ofMembers (ownMembers names members)).required? name read = read v.raw := by
  rw [Fields.required?, get?_ofMembers, lookup_ownMembers names members hname, h]
  rfl

/-! ### Nesting -/

theorem isSome_value?_text (room : Nat) (s : String) : ((Json.str s).raw.value? room).isSome := by
  rw [Json.raw, value?, key?_units]
  rfl

theorem isSome_memberValues? {room : Nat} : ∀ {members : List (String × Json)},
    (∀ m ∈ members, (m.2.raw.value? room).isSome) →
      (memberValues? room (Json.rawMembers members)).isSome
  | [], _ => rfl
  | (k, v) :: ms, h => by
      obtain ⟨hv, hms⟩ := List.forall_mem_cons.mp h
      obtain ⟨v', hv'⟩ := Option.isSome_iff_exists.mp hv
      obtain ⟨ms', hms'⟩ := Option.isSome_iff_exists.mp (isSome_memberValues? hms)
      rw [Json.rawMembers, memberValues?, key?_units, hv', hms']
      rfl

theorem isSome_value?_obj {room : Nat} (hroom : 0 < room)
    (h : ∀ m ∈ members, (m.2.raw.value? room).isSome) :
    ((Json.obj members).raw.value? (room + 1)).isSome := by
  rw [Json.raw, value?, if_neg (by omega), Option.isSome_map]
  exact isSome_memberValues? h

theorem isSome_value?_map {encode : α → Json} {room : Nat} (hroom : 0 < room)
    (h : ∀ a, ((encode a).raw.value? room).isSome) (m : SortedMap String α) :
    ((m.toJson encode).raw.value? (room + 1)).isSome := by
  refine isSome_value?_obj hroom (fun member hmember => ?_)
  obtain ⟨e, _, rfl⟩ := List.mem_map.mp hmember
  exact h e.2

end RawJson

open RawJson (ownMembers lookup_ownMembers objectFields?_rawMembers fields?_obj required?_ownMembers
  getD?_ofMembers getD?_ofMembers_none isSome_value?_text isSome_value?_obj isSome_value?_map)

/-! ### Versions and lifespans -/

theorem Version.ofRaw?_raw {v : Version} (h : v.IsRead) : ofRaw? v.toJson.raw = some v := by
  rw [toJson, Json.raw, ofRaw?, RawJson.text?, RawJson.key?_units, Option.bind_some,
    parse?_text h.written]

theorem Version.getD?_ofMembers {members : List (String × Json)} {name : String} {o : Option Version}
    (ho : ∀ v, o = some v → v.IsRead) (h : members.lookup name = o.map toJson) :
    (RawJson.Fields.ofMembers members).getD? name none (RawJson.nullable? ofRaw?) = some o := by
  cases o with
  | none => exact getD?_ofMembers_none h
  | some v =>
      have hread := ofRaw?_raw (ho v rfl)
      rw [RawJson.getD?_ofMembers h]
      exact congrArg (Option.map some) hread

theorem Version.isSome_value? (v : Version) (room : Nat) : (v.toJson.raw.value? room).isSome :=
  isSome_value?_text room v.text

theorem Version.isSome_value?_optional {name : String} (o : Option Version) (room : Nat) :
    ∀ m ∈ Json.optional name (o.map toJson), (m.2.raw.value? room).isSome := by
  refine Json.forall_mem_optional (P := fun v => (v.raw.value? room).isSome) (fun v hv => ?_)
  obtain ⟨w, _, rfl⟩ := Option.map_eq_some_iff.mp hv
  exact w.isSome_value? room

namespace Lifespan

theorem ofRaw?_obj {a : Lifespan} (h : a.IsRead) {members : List (String × Json)}
    (hnodup : (members.map (·.1)).Nodup) (hsince : members.lookup "since" = some a.since.toJson)
    (hdeprecated : members.lookup "deprecated" = a.deprecated.map Version.toJson) :
    ofRaw? (Json.obj members).raw = some a := by
  have hdeprecated := Version.getD?_ofMembers h.deprecated
    ((lookup_ownMembers ["since", "deprecated"] members (by decide)).trans hdeprecated)
  rw [ofRaw?, fields?_obj _ hnodup]
  simp only [Option.bind_eq_bind, Option.bind_some]
  rw [required?_ownMembers (by decide) hsince, Version.ofRaw?_raw h.since, hdeprecated]
  rfl

theorem ofRaw?_raw {a : Lifespan} (h : a.IsRead) : ofRaw? a.toJson.raw = some a := by
  have hnames : ["since", "deprecated"].Nodup := by decide
  exact ofRaw?_obj h (hnames.sublist ((Json.names_optional _ _).cons_cons _)) rfl
    (Json.lookup_optional _ _ _)

theorem isSome_value? (a : Lifespan) (room : Nat) : (a.toJson.raw.value? (room + 2)).isSome := by
  refine isSome_value?_obj (by omega) (fun m hm => ?_)
  rcases List.mem_cons.mp hm with rfl | hm
  · exact a.since.isSome_value? _
  · exact Version.isSome_value?_optional _ _ m hm

theorem mapOfRaw?_raw {m : SortedMap String Lifespan} (h : m.ForAll IsRead) :
    mapOfRaw? (mapToJson m).raw = some m :=
  RawJson.map?_toJson m (fun e he => ofRaw?_raw (h e.1 e.2 (SortedMap.mem_entries_iff.mp he)))

theorem isSome_value?_map (m : SortedMap String Lifespan) (room : Nat) :
    ((mapToJson m).raw.value? (room + 3)).isSome :=
  RawJson.isSome_value?_map (by omega) (fun a => a.isSome_value? room) m

end Lifespan

/-! ### Tables -/

namespace ClassEntry

/-- The members of a class. -/
def members (e : ClassEntry) : List (String × Json) :=
  Json.optional "since" (e.since.map Version.toJson) ++
    Json.optional "deprecated" (e.deprecated.map Version.toJson) ++
    Json.optional "method" (if e.methods.isEmpty then none else some (Lifespan.mapToJson e.methods))

theorem toJson_eq (e : ClassEntry) : e.toJson = .obj e.members := by
  rw [toJson, members]
  cases e.methods.isEmpty <;> rfl

theorem names_members (e : ClassEntry) :
    (e.members.map (·.1)).Sublist ["since", "deprecated", "method"] := by
  rw [members, List.map_append, List.map_append]
  exact ((Json.names_optional _ _).append (Json.names_optional _ _)).append (Json.names_optional _ _)

theorem lookup_members (e : ClassEntry) :
    e.members.lookup "since" = e.since.map Version.toJson ∧
      e.members.lookup "deprecated" = e.deprecated.map Version.toJson ∧
      e.members.lookup "method" =
        if e.methods.isEmpty then none else some (Lifespan.mapToJson e.methods) := by
  simp [members, List.lookup_append, Json.lookup_optional]

theorem ofRaw?_obj {e : ClassEntry} (hsince : ∀ v, e.since = some v → v.IsRead)
    (hdeprecated : ∀ v, e.deprecated = some v → v.IsRead) {members : List (String × Json)}
    (hnodup : (members.map (·.1)).Nodup)
    (since : members.lookup "since" = e.since.map Version.toJson)
    (deprecated : members.lookup "deprecated" = e.deprecated.map Version.toJson)
    (methods : (members.lookup "method" = none ∧ e.methods = .empty) ∨
      ∃ v, members.lookup "method" = some v ∧ Lifespan.mapOfRaw? v.raw = some e.methods) :
    ofRaw? (Json.obj members).raw = some e := by
  let names := ["since", "deprecated", "method"]
  rw [← lookup_ownMembers names members (by decide)] at since deprecated methods
  have hmethods : (RawJson.Fields.ofMembers (ownMembers names members)).getD? "method" .empty
      Lifespan.mapOfRaw? = some e.methods := by
    rcases methods with ⟨hlookup, hempty⟩ | ⟨v, hlookup, hread⟩
    · rw [getD?_ofMembers_none hlookup, hempty]
    · rw [getD?_ofMembers hlookup, hread]
  rw [ofRaw?, fields?_obj _ hnodup]
  simp only [Option.bind_eq_bind, Option.bind_some]
  rw [Version.getD?_ofMembers hsince since, Version.getD?_ofMembers hdeprecated deprecated, hmethods]
  rfl

theorem ofRaw?_raw {e : ClassEntry} (h : e.IsRead) : ofRaw? e.toJson.raw = some e := by
  obtain ⟨hsince, hdeprecated, hmethod⟩ := e.lookup_members
  rw [toJson_eq]
  refine ofRaw?_obj h.since h.deprecated (List.Nodup.sublist e.names_members (by decide)) hsince
    hdeprecated ?_
  cases hempty : e.methods.isEmpty with
  | true =>
      rw [hempty, if_pos rfl] at hmethod
      exact .inl ⟨hmethod, SortedMap.eq_of_entries (List.isEmpty_iff.mp hempty)⟩
  | false =>
      rw [hempty, if_neg (by simp)] at hmethod
      exact .inr ⟨_, hmethod, Lifespan.mapOfRaw?_raw h.methods⟩

theorem isSome_value? (e : ClassEntry) (room : Nat) : (e.toJson.raw.value? (room + 4)).isSome := by
  rw [toJson_eq]
  refine isSome_value?_obj (by omega) (fun m hm => ?_)
  rcases List.mem_append.mp hm with hm | hm
  · rcases List.mem_append.mp hm with hm | hm
    · exact Version.isSome_value?_optional _ _ m hm
    · exact Version.isSome_value?_optional _ _ m hm
  · refine Json.forall_mem_optional (P := fun v => (v.raw.value? (room + 3)).isSome) ?_ m hm
    intro v hv
    split at hv
    · cases hv
    · cases hv
      exact Lifespan.isSome_value?_map e.methods room

end ClassEntry

namespace SymbolTable

/-- The hooks are read from their two maps, wherever they stand. -/
theorem hooksOfRaw?_obj {actions filters : SortedMap String Lifespan} {members : List (String × Json)}
    (hnodup : (members.map (·.1)).Nodup)
    (hactions : ∃ v, members.lookup "do_action" = some v ∧ Lifespan.mapOfRaw? v.raw = some actions)
    (hfilters : ∃ v, members.lookup "apply_filters" = some v ∧
      Lifespan.mapOfRaw? v.raw = some filters) :
    hooksOfRaw? (Json.obj members).raw = some (actions, filters) := by
  obtain ⟨v, hlookup, hactions⟩ := hactions
  obtain ⟨w, hlookup', hfilters⟩ := hfilters
  rw [← lookup_ownMembers ["do_action", "apply_filters"] members (by decide)] at hlookup hlookup'
  rw [hooksOfRaw?, fields?_obj _ hnodup]
  simp only [Option.bind_eq_bind, Option.bind_some]
  rw [getD?_ofMembers hlookup, hactions, getD?_ofMembers hlookup', hfilters]
  rfl

/-- Members that a table is read from. -/
structure IsReadFrom (t : SymbolTable) (members : List (String × Json)) : Prop where
  constants : ∃ v, members.lookup "constant" = some v ∧ Lifespan.mapOfRaw? v.raw = some t.constants
  functions : ∃ v, members.lookup "function" = some v ∧ Lifespan.mapOfRaw? v.raw = some t.functions
  classes : ∃ v, members.lookup "class" = some v ∧
    RawJson.map? ClassEntry.ofRaw? v.raw = some t.classes
  hooks : ∃ v, members.lookup "hook" = some v ∧ hooksOfRaw? v.raw = some (t.actions, t.filters)

theorem IsReadFrom.ofFields? {t : SymbolTable} {members : List (String × Json)}
    (h : t.IsReadFrom members) : ofFields? (.ofMembers members) = some t := by
  obtain ⟨_, hconstant, hconstants⟩ := h.constants
  obtain ⟨_, hfunction, hfunctions⟩ := h.functions
  obtain ⟨_, hclass, hclasses⟩ := h.classes
  obtain ⟨_, hhook, hhooks⟩ := h.hooks
  rw [SymbolTable.ofFields?]
  simp only [Option.bind_eq_bind, Option.bind_some, getD?_ofMembers hconstant, hconstants,
    getD?_ofMembers hfunction, hfunctions, getD?_ofMembers hclass, hclasses, getD?_ofMembers hhook,
    hhooks]

theorem IsReadFrom.own {t : SymbolTable} {members : List (String × Json)} (h : t.IsReadFrom members)
    {names : List String} (hnames : fieldNames ⊆ names) : t.IsReadFrom (ownMembers names members) := by
  obtain ⟨hconstants, hfunctions, hclasses, hhooks⟩ := h
  have hlookup : ∀ name ∈ fieldNames,
      (ownMembers names members).lookup name = members.lookup name :=
    fun name hname => lookup_ownMembers names members (hnames hname)
  constructor
  · rwa [hlookup "constant" (by decide)]
  · rwa [hlookup "function" (by decide)]
  · rwa [hlookup "class" (by decide)]
  · rwa [hlookup "hook" (by decide)]

/-- A table is read from its parts, wherever they stand and whatever stands beside them. -/
theorem IsReadFrom.ofRaw? {t : SymbolTable} {members : List (String × Json)} (h : t.IsReadFrom members)
    (hnodup : (members.map (·.1)).Nodup) : ofRaw? (Json.obj members).raw = some t := by
  rw [SymbolTable.ofRaw?, fields?_obj _ hnodup]
  exact (h.own (List.Subset.refl _)).ofFields?

theorem IsRead.isReadFrom {t : SymbolTable} (h : t.IsRead) {members : List (String × Json)}
    (hmembers : ∀ name ∈ fieldNames, members.lookup name = t.members.lookup name) :
    t.IsReadFrom members := by
  constructor
  · exact ⟨_, hmembers "constant" (by decide), Lifespan.mapOfRaw?_raw h.constants⟩
  · exact ⟨_, hmembers "function" (by decide), Lifespan.mapOfRaw?_raw h.functions⟩
  · refine ⟨_, hmembers "class" (by decide), RawJson.map?_toJson t.classes (fun e he => ?_)⟩
    exact ClassEntry.ofRaw?_raw (h.classes e.1 e.2 (SortedMap.mem_entries_iff.mp he))
  · have hnames : ["do_action", "apply_filters"].Nodup := by decide
    exact ⟨_, hmembers "hook" (by decide), hooksOfRaw?_obj hnames
      ⟨_, rfl, Lifespan.mapOfRaw?_raw h.actions⟩ ⟨_, rfl, Lifespan.mapOfRaw?_raw h.filters⟩⟩

theorem ofRaw?_raw {t : SymbolTable} (h : t.IsRead) : ofRaw? t.toJson.raw = some t := by
  have hnames : fieldNames.Nodup := by decide
  exact (h.isReadFrom (fun _ _ => rfl)).ofRaw? hnames

theorem roundTrips {t : SymbolTable} (h : t.IsRead) : Format.symbols.RoundTrips t := by
  rw [Format.RoundTrips, RawJson.ofText?_pretty, Option.bind_some]
  exact ofRaw?_raw h

theorem isSome_value?_members (t : SymbolTable) (room : Nat) :
    ∀ m ∈ t.members, (m.2.raw.value? (room + 5)).isSome := by
  have hhooks : ((Json.obj [("do_action", Lifespan.mapToJson t.actions),
      ("apply_filters", Lifespan.mapToJson t.filters)]).raw.value? (room + 5)).isSome := by
    refine isSome_value?_obj (by omega) (fun m hm => ?_)
    rcases List.mem_pair.mp hm with rfl | rfl
    · exact Lifespan.isSome_value?_map _ _
    · exact Lifespan.isSome_value?_map _ _
  simp only [members, List.forall_mem_cons]
  exact ⟨Lifespan.isSome_value?_map _ _, Lifespan.isSome_value?_map _ _,
    isSome_value?_map (by omega) (fun e => e.isSome_value? room) _, hhooks, by simp⟩

end SymbolTable

/-! ### Indexes -/

namespace Index

/-- The members of an index. -/
def members (i : Index) : List (String × Json) :=
  Json.optional releaseName (i.release.map Version.toJson) ++ i.symbols.members

theorem lookup_members (i : Index) :
    i.members.lookup releaseName = i.release.map Version.toJson ∧
      ∀ name ∈ SymbolTable.fieldNames, i.members.lookup name = i.symbols.members.lookup name := by
  constructor
  · rw [members, List.lookup_append, Json.lookup_optional, if_pos rfl]
    exact Option.or_none
  · intro name hname
    have hne : name ≠ releaseName := by
      rintro rfl
      exact absurd hname (by decide)
    rw [members, List.lookup_append, Json.lookup_optional, if_neg hne, Option.none_or]

theorem isSome_value? (i : Index) (room : Nat) : (i.toJson.raw.value? (room + 6)).isSome := by
  refine isSome_value?_obj (by omega) (fun m hm => ?_)
  rcases List.mem_append.mp hm with hm | hm
  · exact Version.isSome_value?_optional _ _ m hm
  · exact i.symbols.isSome_value?_members room m hm

theorem ofRaw?_raw {i : Index} (h : i.IsRead) : ofRaw? i.toJson.raw = some i := by
  obtain ⟨hrelease, hsymbols⟩ := i.lookup_members
  obtain ⟨value, hvalue⟩ := Option.isSome_iff_exists.mp (i.isSome_value? (RawJson.depthLimit - 6))
  have hnodup : (i.members.map (·.1)).Nodup := by
    have hnames : (releaseName :: SymbolTable.fieldNames).Nodup := by decide
    rw [members, List.map_append]
    exact hnames.sublist ((Json.names_optional _ _).append (List.Sublist.refl _))
  have hfields := objectFields?_rawMembers (releaseName :: SymbolTable.fieldNames) hnodup
  rw [← lookup_ownMembers (releaseName :: SymbolTable.fieldNames) _ List.mem_cons_self] at hrelease
  have htable := (h.symbols.isReadFrom hsymbols).own (List.subset_cons_self releaseName _)
  change RawJson.value? RawJson.depthLimit (.obj (Json.rawMembers i.members)) = some value at hvalue
  change ofRaw? (.obj (Json.rawMembers i.members)) = some i
  rw [ofRaw?, hvalue, hfields]
  simp only [Option.bind_eq_bind, Option.bind_some, Version.getD?_ofMembers h.release hrelease,
    htable.ofFields?]

/-- **The document of an index is read back.** -/
theorem decode?_document {i : Index} (h : i.IsRead) : decode? i.document.toUTF8 = some i := by
  rw [decode?, document, RawJson.ofBytes?_pretty, Option.bind_some, ofRaw?_raw h]

/-! ### Saving and loading -/

section store
variable {i : Index} {path : Path} {s s' : Session}

theorem readBytes_of_save (h : (i.save path).outcome.run s = (.ok (), s')) :
    s'.files.readBytes path = .ok i.document.toUTF8 := by
  rw [save_eq] at h
  obtain ⟨_, s₁, hstore, hnote⟩ := Run.run_bind_ok h
  cases hnote
  exact congrArg (Except.map Content.toBytes) (Run.read_of_store hstore)

theorem load_of_readBytes {bytes : ByteArray} (hread : s.files.readBytes path = .ok bytes)
    (hdecode : decode? bytes = some i) :
    ∃ s', (load path).outcome.run s = (.ok (some i), s') := by
  rw [load, Run.run_bind, Run.run_files]
  dsimp only
  rw [hread]
  dsimp only
  rw [hdecode]
  exact ⟨_, rfl⟩

theorem files_load (path : Path) (s : Session) :
    ((load path).outcome.run s).2.files = s.files := by
  refine (?_ : Run.Keeps (· = s.files) (load path)) s rfl
  unfold load
  refine .bind .files (fun fs => ?_)
  split
  · exact .pure _
  · exact .throw _
  · split
    · exact .throw _
    · exact .bind (.note _ _ _) (fun _ => .pure _)

theorem load_ok (h : (load path).outcome.run s = (.ok (some i), s')) :
    s'.files = s.files ∧ ∃ bytes, s.files.readBytes path = .ok bytes ∧ decode? bytes = some i := by
  rw [load, Run.run_bind, Run.run_files] at h
  dsimp only at h
  split at h
  · cases h
  · cases h
  · next bytes hread =>
      split at h
      · cases h
      · next index hdecode =>
          obtain ⟨_, s₁, hnote, h⟩ := Run.run_bind_ok h
          cases hnote
          cases h
          exact ⟨rfl, bytes, hread, hdecode⟩

end store

/-- **An index that is saved is loaded as it was.**  If all its versions are read from texts, what is
written is the document of the index, the document stands for this index, and loading gives it.  So
it is with every index that was loaded: saved and loaded again it is the same. -/
theorem load_eq_of_save (i : Index) :
    (i.IsRead → decode? i.document.toUTF8 = some i ∧
      ∀ path s s', (i.save path).outcome.run s = (.ok (), s') →
        s'.files.readBytes path = .ok i.document.toUTF8 ∧
          ∃ s'', (load path).outcome.run s' = (.ok (some i), s'')) ∧
    ∀ source s₀ s₁, (load source).outcome.run s₀ = (.ok (some i), s₁) →
      ∀ path s s', (i.save path).outcome.run s = (.ok (), s') →
        ∃ s'', (load path).outcome.run s' = (.ok (some i), s'') := by
  have hsaved : i.IsRead → ∀ path s s', (i.save path).outcome.run s = (.ok (), s') →
      ∃ s'', (load path).outcome.run s' = (.ok (some i), s'') := fun hi path s s' h =>
    load_of_readBytes (readBytes_of_save h) (decode?_document hi)
  refine ⟨fun hi => ⟨decode?_document hi, fun path s s' h => ⟨readBytes_of_save h, ?_⟩⟩, ?_⟩
  · exact hsaved hi path s s' h
  · intro source s₀ s₁ hload
    obtain ⟨_, bytes, _, hdecode⟩ := load_ok hload
    exact hsaved (isRead_of_decode? hdecode)

/-- A release with a suffix, names that are empty or have quotes, backslashes, controls and letters
beyond ASCII, a class with nothing but a method, one with nothing but the version that deprecates it,
and one with nothing at all. -/
theorem load_eq_of_save_odd_names :
    let v : Version := ⟨[6, 8], some ⟨.rc, 1, "RC1"⟩⟩
    let i : Index := ⟨some v, {
      constants := .ofList [("", ⟨v, none⟩)]
      functions := .ofList [("\"\\\n\x01é😀", ⟨v, some v⟩)]
      classes := .ofList [("A", ⟨none, none, .ofList [("__construct", ⟨v, none⟩)]⟩),
        ("B", ⟨none, some v, .empty⟩), ("C", .empty)]
      actions := .empty
      filters := .ofList [("\x7b$type\x7d_title", ⟨v, none⟩)] }⟩
    let path : Path := ⟨"data/since_data.json"⟩
    i.IsRead ∧ ∃ s', (i.save path).outcome.run (Session.start .empty) = (.ok (), s') ∧
      ∃ s'', (load path).outcome.run s' = (.ok (some i), s'') := by
  intro v i path
  have hv : v.IsRead := ⟨"6.8-RC1", by cbv⟩
  have hsome : ∀ w, some v = some w → w.IsRead := fun w h => Option.some.inj h ▸ hv
  have hnone : ∀ w : Version, none = some w → w.IsRead := fun w h => by cases h
  have hi : i.IsRead := {
    release := hsome
    symbols := {
      constants := .ofList (List.forall_mem_singleton.mpr ⟨hv, hnone⟩)
      functions := .ofList (List.forall_mem_singleton.mpr ⟨hv, hsome⟩)
      classes := .ofList (List.forall_mem_cons.mpr
        ⟨⟨hnone, hnone, .ofList (List.forall_mem_singleton.mpr ⟨hv, hnone⟩)⟩, List.forall_mem_cons.mpr
          ⟨⟨hnone, hsome, .empty⟩, List.forall_mem_singleton.mpr ClassEntry.isRead_empty⟩⟩)
      actions := .empty
      filters := .ofList (List.forall_mem_singleton.mpr ⟨hv, hnone⟩) } }
  have hrun : (i.save path).outcome.run (Session.start .empty) =
      (.ok (), ((i.save path).outcome.run (Session.start .empty)).2) :=
    Prod.ext (by decide +kernel) rfl
  exact ⟨hi, _, hrun, (((load_eq_of_save i).1 hi).2 path _ _ hrun).2⟩

end Index

end RequiredVersion
