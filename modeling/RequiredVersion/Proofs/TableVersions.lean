import RequiredVersion.Cache.Store
import RequiredVersion.Proofs.Declarations
import RequiredVersion.Proofs.VersionText

/-! # Where the versions of a table come from

The versions of an index are all read from texts: from doc comments where declarations are collected
(`Declaration.isRead_collect`), from documents where an index or the tables of a cache are loaded
(`Index.isRead_of_decode?`, `Cache.isRead_of_decodeEntries?`).  `IsRead` says this of a version and of
all that holds versions; insertions and merges keep it. -/

namespace RequiredVersion

/-! ### The property -/

/-- A version that is read from some text. -/
def Version.IsRead (v : Version) : Prop := ∃ text, Version.parse text = .ok v

/-- All versions of a lifespan are read from texts. -/
structure Lifespan.IsRead (a : Lifespan) : Prop where
  since : a.since.IsRead
  deprecated : ∀ v, a.deprecated = some v → v.IsRead

/-- All versions of a class and its methods are read from texts. -/
structure ClassEntry.IsRead (e : ClassEntry) : Prop where
  since : ∀ v, e.since = some v → v.IsRead
  deprecated : ∀ v, e.deprecated = some v → v.IsRead
  methods : e.methods.ForAll Lifespan.IsRead

/-- All versions of a table are read from texts. -/
structure SymbolTable.IsRead (t : SymbolTable) : Prop where
  constants : t.constants.ForAll Lifespan.IsRead
  functions : t.functions.ForAll Lifespan.IsRead
  classes : t.classes.ForAll ClassEntry.IsRead
  actions : t.actions.ForAll Lifespan.IsRead
  filters : t.filters.ForAll Lifespan.IsRead

/-- All versions of an index are read from texts. -/
structure Index.IsRead (i : Index) : Prop where
  release : ∀ v, i.release = some v → v.IsRead
  symbols : i.symbols.IsRead

namespace Version

theorem isRead_of_ofChars? {cs : List Char} {v : Version} (h : ofChars? cs = some v) : v.IsRead :=
  ⟨String.ofList cs, parse_eq_ok_iff.mpr (by rwa [String.toList_ofList])⟩

theorem IsRead.written {v : Version} (h : v.IsRead) : v.Written := by
  obtain ⟨text, h⟩ := h
  exact written_of_ofChars? (parse_eq_ok_iff.mp h)

end Version

/-! ### Tables -/

namespace ClassEntry

theorem isRead_empty : empty.IsRead where
  since _ h := by cases h
  deprecated _ h := by cases h
  methods := .empty

variable {e newer : ClassEntry}

theorem IsRead.annotate (he : e.IsRead) {a : Lifespan} (ha : a.IsRead) : (e.annotate a).IsRead where
  since _ h := Option.some.inj h ▸ ha.since
  deprecated := ha.deprecated
  methods := he.methods

theorem IsRead.merge (he : e.IsRead) (hnewer : newer.IsRead) : (e.merge newer).IsRead := by
  have hmethods := he.methods.union hnewer.methods
  unfold ClassEntry.merge
  dsimp only
  split
  · next since hsince =>
      exact ⟨fun v h => Option.some.inj h ▸ hnewer.since _ hsince, hnewer.deprecated, hmethods⟩
  · exact ⟨he.since, he.deprecated, hmethods⟩

end ClassEntry

namespace SymbolTable

theorem isRead_empty : empty.IsRead := ⟨.empty, .empty, .empty, .empty, .empty⟩

variable {t newer : SymbolTable}

theorem IsRead.classEntry (ht : t.IsRead) (name : String) : (t.classEntry name).IsRead := by
  rw [SymbolTable.classEntry, SortedMap.getD]
  cases hget : t.classes.get? name with
  | none => exact ClassEntry.isRead_empty
  | some e => exact ht.classes name e hget

theorem IsRead.insert (ht : t.IsRead) (s : Symbol) {a : Lifespan} (ha : a.IsRead) :
    (t.insert s a).IsRead := by
  cases s with
  | constant name => exact { ht with constants := ht.constants.insert name ha }
  | function name => exact { ht with functions := ht.functions.insert name ha }
  | classType name =>
      exact { ht with classes := ht.classes.insert name ((ht.classEntry name).annotate ha) }
  | method owner name =>
      have he := ht.classEntry owner
      exact { ht with
        classes := ht.classes.insert owner { he with methods := he.methods.insert name ha } }
  | hook family name =>
      cases family with
      | action => exact { ht with actions := ht.actions.insert name ha }
      | filter => exact { ht with filters := ht.filters.insert name ha }

theorem IsRead.merge (ht : t.IsRead) (hnewer : newer.IsRead) : (t.merge newer).IsRead where
  constants := ht.constants.union hnewer.constants
  functions := ht.functions.union hnewer.functions
  classes name e h := by
    rw [get?_classes_merge, Option.or_eq_some_iff, Option.map_eq_some_iff] at h
    rcases h with ⟨e', he', rfl⟩ | ⟨_, h⟩
    · exact (ht.classEntry name).merge (hnewer.classes name e' he')
    · exact ht.classes name e h
  actions := ht.actions.union hnewer.actions
  filters := ht.filters.union hnewer.filters

end SymbolTable

/-! ### Declarations -/

theorem Lifespan.isRead_of_ofDoc? {doc : String} {a : Lifespan} (h : ofDoc? doc = some a) :
    a.IsRead := by
  have htagged : ∀ {tag v}, taggedVersion? tag doc.toList = some v → v.IsRead := by
    intro tag v hv
    obtain ⟨cs, _, hcs⟩ := Option.bind_eq_some_iff.mp hv
    exact Version.isRead_of_ofChars? hcs
  obtain ⟨since, hsince, rfl⟩ := Option.map_eq_some_iff.mp h
  exact ⟨htagged hsince, fun v hv => htagged hv⟩

namespace Declaration

variable {confirms : Capability → String → Bool} {source : List Char}

theorem isRead_of_lifespan? {group : Option String} {c : Cursor} {a : Lifespan}
    (h : lifespan? source group c = some a) : a.IsRead := by
  rw [lifespan?_eq, Option.or_eq_some_iff] at h
  rcases h with h | ⟨_, h⟩
  all_goals
    obtain ⟨doc, _, hdoc⟩ := Option.bind_eq_some_iff.mp h
    exact Lifespan.isRead_of_ofDoc? hdoc

theorem isRead_record {c : Cursor} {s : State} (hs : s.symbols.IsRead) :
    (record source c s).symbols.IsRead := by
  unfold record
  split
  · split
    · exact hs
    · split
      · exact hs
      · next a ha => exact hs.insert _ (isRead_of_lifespan? ha)
  · exact hs

/-- **The versions of collected declarations are read** from the comments of the source. -/
theorem isRead_collect (confirms : Capability → String → Bool) (source : List Char) (root : Node) :
    (collect confirms source root).symbols.IsRead := by
  rw [collect_eq_walk, collector]
  refine Cursor.walk_induction (P := fun s : State => s.symbols.IsRead) (fun c s hs => ?_)
    (fun c s hs => ?_) root SymbolTable.isRead_empty
  · refine isRead_record ?_
    rwa [symbols_openScopes]
  · rwa [show (leave c s).symbols = s.symbols from symbols_leave c s]

end Declaration

/-! ### Documents -/

namespace RawJson

variable {α β : Type} {P : α → Prop} {read : RawJson → Option α}

theorem Fields.getD?_eq_some {fs : Fields} {name : String} {fallback a : α}
    (h : fs.getD? name fallback read = some a) : a = fallback ∨ ∃ r, read r = some a := by
  unfold Fields.getD? at h
  split at h
  · next r _ => exact .inr ⟨r, h⟩
  · exact .inl (Option.some.inj h).symm

theorem Fields.required?_eq_some {fs : Fields} {name : String} {a : α}
    (h : fs.required? name read = some a) : ∃ r, read r = some a := by
  obtain ⟨r, _, hr⟩ := Option.bind_eq_some_iff.mp h
  exact ⟨r, hr⟩

theorem nullable?_eq_some {r : RawJson} {a : α} (h : nullable? read r = some (some a)) :
    read r = some a := by
  unfold nullable? at h
  split at h
  · cases h
  · obtain ⟨b, hb, hba⟩ := Option.map_eq_some_iff.mp h
    rw [hb, Option.some.inj hba]

theorem exists_of_mapM {f : β → Option α} : ∀ {l : List β} {l' : List α}, l.mapM f = some l' →
    ∀ a ∈ l', ∃ b ∈ l, f b = some a
  | [], _, h => by
      rw [List.mapM_nil] at h
      cases h
      exact fun a ha => absurd ha List.not_mem_nil
  | b :: l, l', h => by
      rw [List.mapM_cons] at h
      obtain ⟨first, hfirst, h⟩ := Option.bind_eq_some_iff.mp h
      obtain ⟨rest, hrest, h⟩ := Option.bind_eq_some_iff.mp h
      cases h
      intro a ha
      rcases List.mem_cons.mp ha with rfl | ha
      · exact ⟨b, List.mem_cons_self, hfirst⟩
      · obtain ⟨b', hb', hread⟩ := exists_of_mapM hrest a ha
        exact ⟨b', List.mem_cons_of_mem _ hb', hread⟩

theorem forAll_of_map? (hread : ∀ r a, read r = some a → P a) {r : RawJson} {m : SortedMap String α}
    (h : map? read r = some m) : m.ForAll P := by
  unfold map? at h
  split at h
  · obtain ⟨l, hl, rfl⟩ := Option.map_eq_some_iff.mp h
    refine .ofList (fun e he => ?_)
    obtain ⟨member, _, hmember⟩ := exists_of_mapM hl e he
    obtain ⟨k, _, hmember⟩ := Option.bind_eq_some_iff.mp hmember
    obtain ⟨v, hv, hmember⟩ := Option.bind_eq_some_iff.mp hmember
    cases hmember
    exact hread _ _ hv
  · cases h

/-- A field that holds a map, or nothing. -/
theorem forAll_of_getD? (hread : ∀ r a, read r = some a → P a) {fs : Fields} {name : String}
    {m : SortedMap String α} (h : fs.getD? name .empty (map? read) = some m) : m.ForAll P := by
  rcases Fields.getD?_eq_some h with rfl | ⟨r, hr⟩
  · exact .empty
  · exact forAll_of_map? hread hr

end RawJson

open RawJson (Fields.getD?_eq_some Fields.required?_eq_some nullable?_eq_some forAll_of_map?
  forAll_of_getD?)

theorem Version.isRead_of_ofRaw? {r : RawJson} {v : Version} (h : ofRaw? r = some v) : v.IsRead := by
  obtain ⟨text, _, htext⟩ := Option.bind_eq_some_iff.mp h
  exact ⟨text, parse_eq_ok_iff.mpr htext⟩

theorem Version.isRead_of_getD? {fs : RawJson.Fields} {name : String} {o : Option Version}
    (h : fs.getD? name none (RawJson.nullable? ofRaw?) = some o) : ∀ v, o = some v → v.IsRead := by
  rintro v rfl
  rcases Fields.getD?_eq_some h with hnone | ⟨r, hr⟩
  · cases hnone
  · exact isRead_of_ofRaw? (nullable?_eq_some hr)

theorem Lifespan.isRead_of_ofRaw? {r : RawJson} {a : Lifespan} (h : ofRaw? r = some a) :
    a.IsRead := by
  obtain ⟨fs, _, h⟩ := Option.bind_eq_some_iff.mp h
  obtain ⟨since, hsince, h⟩ := Option.bind_eq_some_iff.mp h
  obtain ⟨deprecated, hdeprecated, h⟩ := Option.bind_eq_some_iff.mp h
  cases h
  obtain ⟨r, hr⟩ := Fields.required?_eq_some hsince
  exact ⟨Version.isRead_of_ofRaw? hr, Version.isRead_of_getD? hdeprecated⟩

theorem Lifespan.isRead_of_getD? {fs : RawJson.Fields} {name : String}
    {m : SortedMap String Lifespan} (h : fs.getD? name .empty mapOfRaw? = some m) :
    m.ForAll IsRead := by
  unfold mapOfRaw? at h
  exact forAll_of_getD? (fun _ _ => isRead_of_ofRaw?) h

theorem ClassEntry.isRead_of_ofRaw? {r : RawJson} {e : ClassEntry} (h : ofRaw? r = some e) :
    e.IsRead := by
  obtain ⟨fs, _, h⟩ := Option.bind_eq_some_iff.mp h
  obtain ⟨since, hsince, h⟩ := Option.bind_eq_some_iff.mp h
  obtain ⟨deprecated, hdeprecated, h⟩ := Option.bind_eq_some_iff.mp h
  obtain ⟨methods, hmethods, h⟩ := Option.bind_eq_some_iff.mp h
  cases h
  exact ⟨Version.isRead_of_getD? hsince, Version.isRead_of_getD? hdeprecated,
    Lifespan.isRead_of_getD? hmethods⟩

namespace SymbolTable

theorem isRead_of_hooksOfRaw? {r : RawJson}
    {hooks : SortedMap String Lifespan × SortedMap String Lifespan} (h : hooksOfRaw? r = some hooks) :
    hooks.1.ForAll Lifespan.IsRead ∧ hooks.2.ForAll Lifespan.IsRead := by
  obtain ⟨fs, _, h⟩ := Option.bind_eq_some_iff.mp h
  obtain ⟨actions, hactions, h⟩ := Option.bind_eq_some_iff.mp h
  obtain ⟨filters, hfilters, h⟩ := Option.bind_eq_some_iff.mp h
  cases h
  exact ⟨Lifespan.isRead_of_getD? hactions, Lifespan.isRead_of_getD? hfilters⟩

theorem isRead_of_ofFields? {fs : RawJson.Fields} {t : SymbolTable} (h : ofFields? fs = some t) :
    t.IsRead := by
  obtain ⟨constants, hconstants, h⟩ := Option.bind_eq_some_iff.mp h
  obtain ⟨functions, hfunctions, h⟩ := Option.bind_eq_some_iff.mp h
  obtain ⟨classes, hclasses, h⟩ := Option.bind_eq_some_iff.mp h
  obtain ⟨hooks, hhooks, h⟩ := Option.bind_eq_some_iff.mp h
  cases h
  have hread : hooks.1.ForAll Lifespan.IsRead ∧ hooks.2.ForAll Lifespan.IsRead := by
    rcases Fields.getD?_eq_some hhooks with rfl | ⟨r, hr⟩
    · exact ⟨.empty, .empty⟩
    · exact isRead_of_hooksOfRaw? hr
  exact ⟨Lifespan.isRead_of_getD? hconstants, Lifespan.isRead_of_getD? hfunctions,
    forAll_of_getD? (fun _ _ => ClassEntry.isRead_of_ofRaw?) hclasses, hread.1, hread.2⟩

theorem isRead_of_ofRaw? {r : RawJson} {t : SymbolTable} (h : ofRaw? r = some t) : t.IsRead := by
  obtain ⟨fs, _, h⟩ := Option.bind_eq_some_iff.mp h
  exact isRead_of_ofFields? h

end SymbolTable

/-- **The versions of an index that is decoded are read** from the texts in the document. -/
theorem Index.isRead_of_decode? {bytes : ByteArray} {i : Index} (h : decode? bytes = some i) :
    i.IsRead := by
  obtain ⟨r, _, h⟩ := Option.bind_eq_some_iff.mp h
  unfold ofRaw? at h
  split at h
  · obtain ⟨_, _, h⟩ := Option.bind_eq_some_iff.mp h
    obtain ⟨fs, _, h⟩ := Option.bind_eq_some_iff.mp h
    obtain ⟨release, hrelease, h⟩ := Option.bind_eq_some_iff.mp h
    obtain ⟨symbols, hsymbols, h⟩ := Option.bind_eq_some_iff.mp h
    cases h
    exact ⟨Version.isRead_of_getD? hrelease, SymbolTable.isRead_of_ofFields? hsymbols⟩
  · cases h

/-- The same of the tables of a cache. -/
theorem Cache.isRead_of_decodeEntries? {bytes : ByteArray}
    {entries : SortedMap String (CacheEntry SymbolTable)}
    (h : decodeEntries? .symbols bytes = some entries) :
    entries.ForAll (fun e => e.data.IsRead) := by
  obtain ⟨r, _, h⟩ := Option.bind_eq_some_iff.mp h
  refine forAll_of_map? (fun r e he => ?_) h
  obtain ⟨fs, _, he⟩ := Option.bind_eq_some_iff.mp he
  obtain ⟨key, _, he⟩ := Option.bind_eq_some_iff.mp he
  obtain ⟨data, hdata, he⟩ := Option.bind_eq_some_iff.mp he
  cases he
  obtain ⟨r, hr⟩ := Fields.required?_eq_some hdata
  exact SymbolTable.isRead_of_ofRaw? hr

end RequiredVersion
