import RequiredVersion.Proofs.IndexDocument

/-! # Usage documents

The usages of a file are read back from their document (`Usage.roundTrips`), if their lines are numbers
of 64 bits.  A reference is written with a tag for its kind, and the tag decides which members make up
the reference; the line stands among them and is passed over.  So a cache of usages is loaded as it was
saved, and so is a cache of tables (`Cache.load_saved_entries`). -/

namespace RequiredVersion

open RawJson (ownMembers lookup_ownMembers objectFields?_rawMembers required?_ownMembers)

/-! ### Numbers -/

theorem Number.ofLiteral?_decimal {n : Nat} (h : n < Text.wordBound) :
    ofLiteral? (Text.decimal n) = some (.int n) := by
  have hdigits : ∀ c ∈ Text.decimal n, c.isDigit = true := fun c hc => Text.isDigit_of_mem_decimal hc
  have htake : (Text.decimal n).takeWhile Char.isDigit = Text.decimal n :=
    List.takeWhile_eq_self_iff.mpr hdigits
  have hdrop : (Text.decimal n).dropWhile Char.isDigit = [] := List.dropWhile_eq_nil_iff.mpr hdigits
  have hvalue := Text.natOfDigits_decimal n
  cases hcs : Text.decimal n with
  | nil => exact absurd hcs (Text.decimal_ne_nil n)
  | cons c cs =>
      rw [hcs] at hdigits htake hdrop hvalue
      have hsign : c ≠ '-' := by
        rintro rfl
        exact absurd (hdigits '-' List.mem_cons_self) (by decide)
      unfold ofLiteral?
      split
      next negative ds hmatch =>
        split at hmatch
        · next heq => exact absurd (List.cons.inj heq).1 hsign
        · cases hmatch
          simp only [htake, hdrop, hvalue]
          simp [h]

namespace RawJson

variable {α : Type}

theorem text?_raw (s : String) : text? (Json.str s).raw = some s := key?_units s

theorem word?_raw {n : Nat} (h : n < Text.wordBound) : word? (Json.nat n).raw = some n := by
  have hliteral : Number.ofLiteral? (Number.int n).chars = some (.int (.ofNat n)) :=
    Number.ofLiteral?_decimal h
  rw [Json.nat, Json.raw, word?, hliteral]

theorem isSome_value?_nat {n : Nat} (h : n < Text.wordBound) (room : Nat) :
    ((Json.nat n).raw.value? room).isSome := by
  have hliteral : Number.ofLiteral? (Number.int n).chars = some (.int n) :=
    Number.ofLiteral?_decimal h
  rw [Json.nat, Json.raw, value?, hliteral]
  rfl

theorem rawItems_eq_map (items : List Json) : Json.rawItems items = items.map Json.raw := by
  induction items with
  | nil => rfl
  | cons v vs ih => rw [Json.rawItems, ih, List.map_cons]

theorem list?_arr {encode : α → Json} {read : RawJson → Option α} {l : List α}
    (h : ∀ a ∈ l, read (encode a).raw = some a) :
    list? read (Json.arr (l.map encode)).raw = some l := by
  have hitems : (l.map (fun a => (encode a).raw)).mapM read = some (l.map id) := mapM_map_eq_some h
  rw [Json.raw, list?, rawItems_eq_map, List.map_map]
  rw [List.map_id] at hitems
  exact hitems

end RawJson

open RawJson (text?_raw)

/-! ### References -/

namespace Reference

/-- The kind of a reference, as its tag names it. -/
def kind : Reference → String
  | .function _ => "function"
  | .classType _ => "class"
  | .method _ _ => "method"
  | .constant _ => "constant"
  | .hook _ _ => "hook"

theorem kindOfRaw?_kind (r : Reference) : kindOfRaw? (Json.str r.kind).raw = some r.kind := by
  have hkind : kindNames.contains r.kind = true := by cases r <;> rfl
  rw [Json.raw, kindOfRaw?, RawJson.key?_units, Option.filter_some, hkind, if_pos rfl]

theorem familyOfRaw?_name (f : HookFamily) : familyOfRaw? (Json.str f.name).raw = some f := by
  rw [Json.raw, familyOfRaw?, RawJson.key?_units, Option.bind_some]
  cases f <;> decide

/-- The members of a usage: those of its reference, and its line. -/
def membersAt (r : Reference) (line : Json) : List (String × Json) := r.members ++ [("line", line)]

section members
variable (r : Reference) (line : Json)

theorem nodup_membersAt : ((r.membersAt line).map (·.1)).Nodup := by
  cases r with
  | method owner name => cases owner <;> simp [membersAt, members, Json.optional]
  | _ => simp [membersAt, members]

theorem lookup_membersAt_type : (r.membersAt line).lookup "type" = some (.str r.kind) := by
  cases r <;> rfl

theorem lookup_membersAt_line : (r.membersAt line).lookup "line" = some line := by
  cases r with
  | method owner name => cases owner <;> rfl
  | _ => rfl

/-- The members of a usage that are fields of a record. -/
theorem fields?_membersAt (names : List String) :
    (RawJson.obj (Json.rawMembers (r.membersAt line))).fields? names =
      some (.ofMembers (ownMembers names (r.membersAt line))) :=
  objectFields?_rawMembers names (r.nodup_membersAt line)

theorem lookup_membersAt_class (owner : Option String) (name : String) :
    ((method owner name).membersAt line).lookup "class" = owner.map .str := by
  cases owner <;> rfl

theorem getD?_class (owner : Option String) (name : String) :
    (RawJson.Fields.ofMembers (ownMembers ["class", "method"]
      ((method owner name).membersAt line))).getD? "class" none
        (RawJson.nullable? RawJson.text?) = some owner := by
  have hlookup := lookup_membersAt_class line owner name
  rw [← lookup_ownMembers ["class", "method"] _ (by decide)] at hlookup
  cases owner with
  | none => exact RawJson.getD?_ofMembers_none hlookup
  | some s =>
      rw [RawJson.getD?_ofMembers hlookup]
      exact congrArg (Option.map some) (text?_raw s)

theorem ofRecord?_name {kind name : String} (hmethod : kind ≠ "method") (hhook : kind ≠ "hook")
    (hname : (r.membersAt line).lookup "name" = some (.str name)) :
    ofRecord? kind (.obj (Json.rawMembers (r.membersAt line))) =
      some (if kind = "function" then .function name
        else if kind = "class" then .classType name else .constant name) := by
  rw [ofRecord?, if_neg hmethod, if_neg hhook, fields?_membersAt]
  simp only [Option.bind_eq_bind, Option.bind_some]
  rw [required?_ownMembers (by decide) hname, text?_raw, Option.bind_some]

/-- The names that a reference is made of are read back by its kind. -/
theorem ofRecord?_membersAt :
    ofRecord? r.kind (.obj (Json.rawMembers (r.membersAt line))) = some r := by
  cases r with
  | function name => exact ofRecord?_name (.function name) line (by simp [kind]) (by simp [kind]) rfl
  | classType name => exact ofRecord?_name (.classType name) line (by simp [kind]) (by simp [kind]) rfl
  | constant name => exact ofRecord?_name (.constant name) line (by simp [kind]) (by simp [kind]) rfl
  | method owner name =>
      have hname : ((method owner name).membersAt line).lookup "method" = some (.str name) := by
        cases owner <;> rfl
      rw [kind, ofRecord?, if_pos rfl, fields?_membersAt]
      simp only [Option.bind_eq_bind, Option.bind_some]
      rw [getD?_class, Option.bind_some, required?_ownMembers (by decide) hname, text?_raw,
        Option.bind_some]
  | hook family name =>
      have hkind : ((hook family name).membersAt line).lookup "kind" = some (.str family.name) := rfl
      have hname : ((hook family name).membersAt line).lookup "name" = some (.str name) := rfl
      rw [kind, ofRecord?, if_neg (by decide), if_pos rfl, fields?_membersAt]
      simp only [Option.bind_eq_bind, Option.bind_some]
      rw [required?_ownMembers (by decide) hkind, familyOfRaw?_name, Option.bind_some,
        required?_ownMembers (by decide) hname, text?_raw, Option.bind_some]

theorem ofRaw?_membersAt : ofRaw? (.obj (Json.rawMembers (r.membersAt line))) = some r := by
  have htag : RawJson.objectFields? ["type"] (Json.rawMembers (r.membersAt line)) = _ :=
    r.fields?_membersAt line ["type"]
  rw [ofRaw?, htag]
  simp only [Option.bind_eq_bind, Option.bind_some]
  rw [required?_ownMembers (by decide) (r.lookup_membersAt_type line), kindOfRaw?_kind,
    Option.bind_some, ofRecord?_membersAt]

theorem isSome_value?_members (room : Nat) : ∀ m ∈ r.members, (m.2.raw.value? room).isSome := by
  cases r with
  | method owner name =>
      cases owner <;> simp [members, Json.optional, RawJson.isSome_value?_text]
  | _ => simp [members, RawJson.isSome_value?_text]

end members

end Reference

/-! ### Usages -/

namespace Usage

/-- **A usage is read back**, where there is room for one level of nesting. -/
theorem ofRaw?_raw {u : Usage} (hline : u.line < Text.wordBound) {room : Nat} (hroom : 0 < room) :
    ofRaw? (room + 1) u.toJson.raw = some u := by
  have hvalue : (u.toJson.raw.value? (room + 1)).isSome := by
    refine RawJson.isSome_value?_obj hroom (fun m hm => ?_)
    rcases List.mem_append.mp hm with hm | hm
    · exact u.reference.isSome_value?_members room m hm
    · rw [List.mem_singleton.mp hm]
      exact RawJson.isSome_value?_nat hline room
  obtain ⟨v, hvalue⟩ := Option.isSome_iff_exists.mp hvalue
  have hraw : u.toJson.raw = .obj (Json.rawMembers (u.reference.membersAt (.nat u.line))) := by
    rw [toJson, Json.raw, Reference.membersAt]
  have hfields : RawJson.objectFields? ["line"]
      (Json.rawMembers (u.reference.membersAt (.nat u.line))) = _ :=
    u.reference.fields?_membersAt (.nat u.line) ["line"]
  rw [hraw] at hvalue ⊢
  rw [ofRaw?, hvalue, hfields]
  simp only [Option.bind_eq_bind, Option.bind_some]
  rw [required?_ownMembers (by decide) (u.reference.lookup_membersAt_line _),
    RawJson.word?_raw hline, Option.bind_some, Reference.ofRaw?_membersAt, Option.bind_some]

theorem roundTrips {us : List Usage} (h : ∀ u ∈ us, u.line < Text.wordBound) :
    Format.usages.RoundTrips us := by
  rw [Format.RoundTrips, RawJson.ofText?_pretty, Option.bind_some]
  exact RawJson.list?_arr (fun u hu => ofRaw?_raw (h u hu) (by decide))

end Usage

/-! ### Caches -/

namespace Cache

/-- Is a cache loaded as it is saved?  Its document stands for its entries, and after it was saved its
file holds this document and is loaded as a cache with these entries. -/
structure IsReadBack {α : Type} (format : Format α) (c : Cache α) : Prop where
  decode : decodeEntries? format (c.document format).toUTF8 = some c.entries
  read : ∀ path s s', c.path = some path → (c.save format).outcome.run s = (.ok (), s') →
    s'.files.readBytes path = .ok (c.document format).toUTF8
  load : ∀ path s s', c.path = some path → (c.save format).outcome.run s = (.ok (), s') →
    ∃ s'', (load format path).outcome.run s' = (.ok ⟨some path, c.entries, true, .empty⟩, s'')

theorem isReadBack {α : Type} {format : Format α} {c : Cache α}
    (h : c.entries.ForAll (fun e => format.RoundTrips e.data)) : c.IsReadBack format where
  decode := decodeEntries?_document h
  read _ _ _ hpath hsave := read_of_save hpath hsave
  load _ _ _ hpath hsave := load_save hpath hsave h

/-- **A cache is loaded as it was saved.**  Whatever the paths and the keys of its entries are, so it is
with a cache of tables whose versions were read from texts, and with a cache of usages of any kind, whose
lines are numbers of 64 bits. -/
theorem load_saved_entries :
    (∀ c : Cache SymbolTable, c.entries.ForAll (fun e => e.data.IsRead) → c.IsReadBack .symbols) ∧
    ∀ c : Cache (List Usage), c.entries.ForAll (fun e => ∀ u ∈ e.data, u.line < Text.wordBound) →
      c.IsReadBack .usages := by
  constructor
  · intro c hc
    exact isReadBack (fun k e he => SymbolTable.roundTrips (hc k e he))
  · intro c hc
    exact isReadBack (fun k e he => Usage.roundTrips (hc k e he))

/-- A table with a name that needs escapes, and usages of all kinds with such names, a method without a
class and one whose class is empty, and the greatest line. -/
theorem load_saved_entries_all_kinds :
    let path : Path := ⟨"data/cache.json"⟩
    let v : Version := ⟨[6, 8], some ⟨.rc, 1, "RC1"⟩⟩
    let tables : Cache SymbolTable := ⟨some path, .ofList [("src/\"a\".php",
      ⟨"\x01", SymbolTable.empty.insert (.method "\\A" "__construct") ⟨v, some v⟩⟩)], true, .empty⟩
    let usages : Cache (List Usage) := ⟨some path, .ofList [("", ⟨"", []⟩), ("é😀\n.php",
      ⟨"k", [⟨.function "\"\\", 0⟩, ⟨.classType "", 1⟩, ⟨.method none "m", 2⟩,
        ⟨.method (some "") "line", 3⟩, ⟨.constant "type", 4⟩,
        ⟨.hook .filter "\x7b$type\x7d_title", 18446744073709551615⟩]⟩)], true, .empty⟩
    let s := Session.start .empty
    (tables.entries.ForAll (fun e => e.data.IsRead) ∧
      ∃ s₁ s₂, (tables.save .symbols).outcome.run s = (.ok (), s₁) ∧
        (load .symbols path).outcome.run s₁ = (.ok tables, s₂)) ∧
    usages.entries.ForAll (fun e => ∀ u ∈ e.data, u.line < Text.wordBound) ∧
      ∃ s₁ s₂, (usages.save .usages).outcome.run s = (.ok (), s₁) ∧
        (load .usages path).outcome.run s₁ = (.ok usages, s₂) := by
  intro path v tables usages s
  have hv : v.IsRead := ⟨"6.8-RC1", by cbv⟩
  have hspan : Lifespan.IsRead ⟨v, some v⟩ := ⟨hv, fun w h => Option.some.inj h ▸ hv⟩
  have htable : (SymbolTable.empty.insert (.method "\\A" "__construct") ⟨v, some v⟩).IsRead :=
    SymbolTable.isRead_empty.insert _ hspan
  have htables : tables.entries.ForAll (fun e => e.data.IsRead) :=
    .ofList (fun e he => by rw [List.mem_singleton.mp he]; exact htable)
  have husages : usages.entries.ForAll (fun e => ∀ u ∈ e.data, u.line < Text.wordBound) :=
    .ofList (by decide +kernel)
  have hrun : (tables.save .symbols).outcome.run s =
      (.ok (), ((tables.save .symbols).outcome.run s).2) := Prod.ext (by decide +kernel) rfl
  have hrun' : (usages.save .usages).outcome.run s =
      (.ok (), ((usages.save .usages).outcome.run s).2) := Prod.ext (by decide +kernel) rfl
  obtain ⟨s₂, hload⟩ := (load_saved_entries.1 tables htables).load path _ _ rfl hrun
  obtain ⟨s₃, hload'⟩ := (load_saved_entries.2 usages husages).load path _ _ rfl hrun'
  exact ⟨⟨htables, _, s₂, hrun, hload⟩, husages, _, s₃, hrun', hload'⟩

end Cache

end RequiredVersion
