import RequiredVersion.Document.Trees
import RequiredVersion.Proofs.IndexDocument
import RequiredVersion.Proofs.Report
import RequiredVersion.Proofs.ReportLayout

/-! # Report documents

The document of a report has the layout of an index, with the places of each use beside the versions.
Read as a table it gives the lifespans of the report (`Report.ofRaw?_toJson`): the members that an index
does not have are passed over.  The places can be read off the document as well
(`Report.placesIn?_toJson`), since the text of a place ends with its line.  So a report is determined by
its document (`Report.toJson_lossless`). -/

namespace RequiredVersion

theorem Json.get?_obj (members : List (String × Json)) (name : String) :
    (Json.obj members).get? name = members.lookup name := by
  induction members with
  | nil => rfl
  | cons m ms ih =>
      rw [Json.get?] at ih
      rw [Json.get?, List.find?_cons, List.lookup_cons]
      by_cases h : m.1 = name
      · rw [h, beq_self_eq_true]
        rfl
      · rw [beq_false_of_ne h, beq_false_of_ne (Ne.symm h)]
        exact ih

/-! ### Places -/

namespace Location

/-- The place that a text stands for: its line is what follows the last colon. -/
def ofText? (s : String) : Option Location :=
  match s.toList.reverse.dropWhile (· != ':') with
  | [] => none
  | _ :: file => some ⟨String.ofList file.reverse,
      Text.natOfDigits (s.toList.reverse.takeWhile (· != ':')).reverse⟩

/-- A place is read back, whatever the name of its file is, since no digit is a colon. -/
theorem ofText?_text (l : Location) : ofText? l.text = some l := by
  have hchars : l.text.toList.reverse =
      (Text.decimal l.line).reverse ++ ':' :: l.file.toList.reverse := by
    simp [text, Text.decimalText, String.toList_append]
  have hdigits : ∀ c ∈ (Text.decimal l.line).reverse, (c != ':') = true := by
    intro c hc
    have hdigit := Text.isDigit_of_mem_decimal (List.mem_reverse.mp hc)
    rw [bne_iff_ne]
    rintro rfl
    exact absurd hdigit (by decide)
  have hcolon : ∀ c, (':' :: l.file.toList.reverse).head? = some c → (c != ':') = false := by
    intro c hc
    cases hc
    rfl
  have hdrop := Text.dropWhile_append_of_head hdigits hcolon
  have htake := Text.takeWhile_append_of_head hdigits hcolon
  rw [ofText?, hchars, hdrop, htake]
  dsimp only
  rw [List.reverse_reverse, List.reverse_reverse, Text.natOfDigits_decimal, String.ofList_toList]

end Location

/-- The places that a list of texts stands for. -/
def Json.places? : Json → Option (List Location)
  | .arr items => items.mapM (fun item => item.str?.bind Location.ofText?)
  | _ => none

theorem Hit.places?_placesJson (h : Hit) : h.placesJson.places? = some h.locations.keys := by
  have hitems : (h.locations.keys.map (fun l => Json.str l.text)).mapM
      (fun item => item.str?.bind Location.ofText?) = some (h.locations.keys.map id) :=
    RawJson.mapM_map_eq_some (fun l _ => l.ofText?_text)
  rw [placesJson, Json.texts, Json.places?, List.map_map]
  rw [List.map_id] at hitems
  exact hitems

namespace Hit

variable (h : Hit) (o : Option Json)

theorem lookup_members :
    (h.members (Json.optional "method" o)).lookup "_where" = some h.placesJson ∧
      (h.members (Json.optional "method" o)).lookup "since" = some h.lifespan.since.toJson ∧
      (h.members (Json.optional "method" o)).lookup "deprecated" =
        h.lifespan.deprecated.map Version.toJson ∧
      (h.members (Json.optional "method" o)).lookup "method" = o := by
  simp [members, List.lookup_append, List.lookup_cons, Json.lookup_optional]

theorem nodup_members : ((h.members (Json.optional "method" o)).map (·.1)).Nodup := by
  cases hdeprecated : h.lifespan.deprecated <;> cases o <;>
    simp [members, hdeprecated, Json.optional]

theorem ofRaw?_toJson (ha : h.lifespan.IsRead) : Lifespan.ofRaw? h.toJson.raw = some h.lifespan := by
  obtain ⟨_, hsince, hdeprecated, _⟩ := h.lookup_members none
  rw [toJson_eq]
  exact Lifespan.ofRaw?_obj ha (h.nodup_members none) hsince hdeprecated

end Hit

namespace Report

/-! ### Hits by name -/

section picked
variable (r : Report) {name? : Symbol → Option String} {symbol : String → Symbol} {α : Type}

theorem functional_picked (h : Picks name? symbol) (f : Hit → α) :
    SortedMap.Functional ((r.picked name?).map (fun p => (p.1, f p.2))) := by
  intro name v w hv hw
  rw [mem_picked r h] at hv hw
  exact Option.some.inj (hv.symm.trans hw)

theorem lookup_membersOf (h : Picks name? symbol) (name : String) :
    (r.membersOf name?).lookup name = (r.get? (symbol name)).map Hit.toJson := by
  apply Option.ext
  intro v
  rw [membersOf, SortedMap.lookup_eq_some_iff (r.functional_picked h _), mem_picked r h]

/-- The lifespans of the hits that are picked. -/
def lifespansOf (name? : Symbol → Option String) : SortedMap String Lifespan :=
  .ofList ((r.picked name?).map (fun p => (p.1, p.2.lifespan)))

theorem get?_lifespansOf (h : Picks name? symbol) (name : String) :
    (r.lifespansOf name?).get? name = r.lifespan? (symbol name) := by
  apply Option.ext
  intro a
  rw [lifespansOf, SortedMap.get?_ofList_eq_some_iff (r.functional_picked h _), mem_picked r h,
    lifespan?]

end picked

/-! ### Reports of versions that were read -/

/-- A report whose versions were read from texts. -/
structure IsRead (r : Report) : Prop where
  minimum : r.minimum.IsRead
  lifespans : ∀ s a, r.lifespan? s = some a → a.IsRead

theorem isRead_recordAll {floor : Version} {us : List Use} (hfloor : floor.IsRead)
    (hus : ∀ u ∈ us, u.lifespan.IsRead) : ((start floor).recordAll us).IsRead := by
  constructor
  · rw [minimum_recordAll]
    rcases List.mem_cons.mp (Version.joinAll_mem (start floor).minimum _) with hmem | hmem
    · rw [hmem]
      exact hfloor
    · obtain ⟨u, hu, heq⟩ := List.mem_map.mp hmem
      rw [← heq]
      exact (hus u hu).since
  · intro s a ha
    rw [lifespan?_recordAll, lifespan?_start, Option.none_or, Option.map_eq_some_iff] at ha
    obtain ⟨u, hu, rfl⟩ := ha
    exact hus u (List.mem_of_find?_eq_some hu)

section read
variable {r : Report} {name? : Symbol → Option String} {symbol : String → Symbol}

theorem mapOfRaw?_membersOf (hr : r.IsRead) (h : Picks name? symbol) :
    Lifespan.mapOfRaw? (Json.obj (r.membersOf name?)).raw = some (r.lifespansOf name?) := by
  rw [membersOf]
  refine RawJson.map?_obj (fun p hp => p.2.ofRaw?_toJson (hr.lifespans (symbol p.1) _ ?_))
  rw [lifespan?, ← mem_picked r h]
  exact List.mem_map_of_mem hp

/-! ### Classes -/

theorem lookup_classMembers (r : Report) (name : String) :
    (r.classMembers name).lookup "_where" = (r.get? (.classType name)).map Hit.placesJson ∧
      (r.classMembers name).lookup "since" =
        ((r.lifespan? (.classType name)).map Lifespan.since).map Version.toJson ∧
      (r.classMembers name).lookup "deprecated" =
        ((r.lifespan? (.classType name)).bind Lifespan.deprecated).map Version.toJson ∧
      (r.classMembers name).lookup "method" = r.methodsJson? name := by
  rw [classMembers, lifespan?]
  cases r.get? (.classType name) with
  | none => simp [Json.lookup_optional]
  | some h => exact h.lookup_members _

theorem nodup_classMembers (r : Report) (name : String) :
    ((r.classMembers name).map (·.1)).Nodup := by
  rw [classMembers]
  cases r.get? (.classType name) with
  | none => exact List.Nodup.sublist (Json.names_optional _ _) (List.nodup_singleton _)
  | some h => exact h.nodup_members _

/-- What a class is read as. -/
def classEntry (r : Report) (name : String) : ClassEntry where
  since := (r.lifespan? (.classType name)).map Lifespan.since
  deprecated := (r.lifespan? (.classType name)).bind Lifespan.deprecated
  methods := r.lifespansOf (methodName? name)

theorem ofRaw?_classMembers (hr : r.IsRead) (name : String) :
    ClassEntry.ofRaw? (Json.obj (r.classMembers name)).raw = some (r.classEntry name) := by
  obtain ⟨_, hsince, hdeprecated, hmethod⟩ := r.lookup_classMembers name
  have hmethods : Lifespan.mapOfRaw? (Json.obj (r.methodMembers name)).raw =
      some (r.lifespansOf (methodName? name)) := mapOfRaw?_membersOf hr (picks_methodName? name)
  refine ClassEntry.ofRaw?_obj (fun v hv => ?_) (fun v hv => ?_) (r.nodup_classMembers name) hsince
    hdeprecated ?_
  · obtain ⟨a, ha, rfl⟩ := Option.map_eq_some_iff.mp hv
    exact (hr.lifespans _ a ha).since
  · obtain ⟨a, ha, hv⟩ := Option.bind_eq_some_iff.mp hv
    exact (hr.lifespans _ a ha).deprecated v hv
  · rw [methodsJson?] at hmethod
    cases hempty : (r.methodMembers name).isEmpty with
    | true =>
        -- without methods the member is left out, which is read as an empty map
        rw [hempty, if_pos rfl] at hmethod
        rw [List.isEmpty_iff.mp hempty] at hmethods
        exact .inl ⟨hmethod, (Option.some.inj hmethods).symm⟩
    | false =>
        rw [hempty, if_neg (by simp)] at hmethod
        exact .inr ⟨_, hmethod, hmethods⟩

end read

/-! ### Tables -/

/-- The table that a report is read as. -/
def table (r : Report) : SymbolTable where
  constants := r.lifespansOf constantName?
  functions := r.lifespansOf functionName?
  classes := .ofList (r.classNames.map (fun name => (name, r.classEntry name)))
  actions := r.lifespansOf (hookName? .action)
  filters := r.lifespansOf (hookName? .filter)

section table
variable (r : Report)

theorem functional_classes {α : Type} (f : String → α) :
    SortedMap.Functional (r.classNames.map (fun name => (name, f name))) := by
  intro name v w hv hw
  obtain ⟨_, _, heq⟩ := List.mem_map.mp hv
  obtain ⟨_, _, heq'⟩ := List.mem_map.mp hw
  cases heq
  cases heq'
  rfl

/-- A class that is not written is one of which nothing is known. -/
theorem classEntry_of_not_mem {name : String} (h : name ∉ r.classNames) :
    r.classEntry name = .empty := by
  obtain ⟨hclass, hmethods⟩ := r.get?_of_not_mem h
  have hempty : r.lifespansOf (methodName? name) = .empty := by
    apply SortedMap.ext_get?
    intro method
    rw [get?_lifespansOf r (picks_methodName? name), lifespan?, hmethods]
    rfl
  rw [classEntry, lifespan?, hclass, hempty]
  rfl

theorem classEntry_table (name : String) : r.table.classEntry name = r.classEntry name := by
  rw [SymbolTable.classEntry, SortedMap.getD]
  by_cases hmem : name ∈ r.classNames
  · have hget : r.table.classes.get? name = some (r.classEntry name) :=
      (SortedMap.get?_ofList_eq_some_iff (r.functional_classes _)).mpr
        (List.mem_map.mpr ⟨name, hmem, rfl⟩)
    rw [hget]
    rfl
  · have hget : r.table.classes.get? name = none := by
      rw [Option.eq_none_iff_forall_ne_some]
      intro e he
      obtain ⟨_, hname, heq⟩ := List.mem_map.mp
        ((SortedMap.get?_ofList_eq_some_iff (r.functional_classes _)).mp he)
      cases heq
      exact hmem hname
    rw [hget, r.classEntry_of_not_mem hmem]
    rfl

/-- The table has the lifespans of the report, and no others. -/
theorem get?_table (s : Symbol) : r.table.get? s = r.lifespan? s := by
  cases s with
  | constant name => exact r.get?_lifespansOf picks_constantName? name
  | function name => exact r.get?_lifespansOf picks_functionName? name
  | classType name =>
      rw [SymbolTable.get?, classEntry_table, ClassEntry.lifespan?, classEntry]
      cases r.lifespan? (.classType name) <;> rfl
  | method owner name =>
      rw [SymbolTable.get?, classEntry_table]
      exact r.get?_lifespansOf (picks_methodName? owner) name
  | hook family name =>
      cases family with
      | action => exact r.get?_lifespansOf (picks_hookName? .action) name
      | filter => exact r.get?_lifespansOf (picks_hookName? .filter) name

end table

/-- **The document of a report is read as a table** with the lifespans of the report. -/
theorem ofRaw?_toJson {r : Report} (hr : r.IsRead) : SymbolTable.ofRaw? r.toJson.raw = some r.table := by
  have hnames : ["@wp_min", "class", "constant", "function", "hook"].Nodup := by decide
  have hhooks : ["apply_filters", "do_action"].Nodup := by decide
  rw [toJson_eq]
  refine SymbolTable.IsReadFrom.ofRaw? ⟨?_, ?_, ?_, ?_⟩ hnames
  · exact ⟨_, rfl, mapOfRaw?_membersOf hr picks_constantName?⟩
  · exact ⟨_, rfl, mapOfRaw?_membersOf hr picks_functionName?⟩
  · exact ⟨_, rfl, RawJson.map?_obj (fun name _ => ofRaw?_classMembers hr name)⟩
  · exact ⟨_, rfl, SymbolTable.hooksOfRaw?_obj hhooks
      ⟨_, rfl, mapOfRaw?_membersOf hr (picks_hookName? .action)⟩
      ⟨_, rfl, mapOfRaw?_membersOf hr (picks_hookName? .filter)⟩⟩

/-! ### Places in a document -/

/-- What a document has for a symbol. -/
def entryIn? (document : Json) : Symbol → Option Json
  | .constant name => (document.get? "constant").bind (Json.get? name)
  | .function name => (document.get? "function").bind (Json.get? name)
  | .classType name => (document.get? "class").bind (Json.get? name)
  | .method owner name =>
    (((document.get? "class").bind (Json.get? owner)).bind (Json.get? "method")).bind (Json.get? name)
  | .hook family name =>
    ((document.get? "hook").bind (Json.get? family.name)).bind (Json.get? name)

/-- The places that a document has for a symbol. -/
def placesIn? (document : Json) (s : Symbol) : Option (List Location) :=
  ((entryIn? document s).bind (Json.get? "_where")).bind Json.places?

section places
variable (r : Report)

theorem where_membersOf {name? : Symbol → Option String} {symbol : String → Symbol}
    (h : Picks name? symbol) (name : String) :
    ((Json.obj (r.membersOf name?)).get? name).bind (Json.get? "_where") =
      (r.get? (symbol name)).map Hit.placesJson := by
  rw [Json.get?_obj, lookup_membersOf r h]
  cases r.get? (symbol name) with
  | none => rfl
  | some hit =>
      rw [Option.map_some, Option.bind_some, hit.toJson_eq, Json.get?_obj]
      exact (hit.lookup_members none).1

theorem get?_classes (name : String) :
    (Json.obj (r.classNames.map (fun name => (name, .obj (r.classMembers name))))).get? name =
      if name ∈ r.classNames then some (.obj (r.classMembers name)) else none := by
  rw [Json.get?_obj]
  apply Option.ext
  intro v
  rw [SortedMap.lookup_eq_some_iff (r.functional_classes _), List.mem_map]
  constructor
  · rintro ⟨_, hmem, heq⟩
    cases heq
    rw [if_pos hmem]
  · intro hv
    split at hv
    · next hmem => exact ⟨name, hmem, by rw [Option.some.inj hv]⟩
    · cases hv

theorem where_classes (name : String) :
    ((Json.obj (r.classNames.map (fun name => (name, .obj (r.classMembers name))))).get? name).bind
      (Json.get? "_where") = (r.get? (.classType name)).map Hit.placesJson := by
  rw [get?_classes]
  by_cases hmem : name ∈ r.classNames
  · rw [if_pos hmem, Option.bind_some, Json.get?_obj, (r.lookup_classMembers name).1]
  · rw [if_neg hmem, (r.get?_of_not_mem hmem).1]
    rfl

theorem where_methods (owner name : String) :
    ((((Json.obj (r.classNames.map (fun name => (name, .obj (r.classMembers name))))).get? owner).bind
      (Json.get? "method")).bind (Json.get? name)).bind (Json.get? "_where") =
      (r.get? (.method owner name)).map Hit.placesJson := by
  have hmethods : ((Json.obj (r.methodMembers owner)).get? name).bind (Json.get? "_where") =
      (r.get? (.method owner name)).map Hit.placesJson :=
    r.where_membersOf (picks_methodName? owner) name
  rw [get?_classes]
  by_cases hmem : owner ∈ r.classNames
  · rw [if_pos hmem, Option.bind_some, Json.get?_obj, (r.lookup_classMembers owner).2.2.2, methodsJson?,
      ← hmethods]
    cases r.methodMembers owner <;> rfl
  · rw [if_neg hmem, (r.get?_of_not_mem hmem).2]
    rfl

/-- The places of a hit stand in the document, and those of nothing else. -/
theorem placesIn?_toJson (s : Symbol) :
    placesIn? r.toJson s = (r.get? s).map (fun hit => hit.locations.keys) := by
  have hwhere : (entryIn? r.toJson s).bind (Json.get? "_where") =
      (r.get? s).map Hit.placesJson := by
    rw [toJson_eq]
    cases s with
    | constant name => exact r.where_membersOf picks_constantName? name
    | function name => exact r.where_membersOf picks_functionName? name
    | classType name => exact r.where_classes name
    | method owner name => exact r.where_methods owner name
    | hook family name =>
        cases family with
        | action => exact r.where_membersOf (picks_hookName? .action) name
        | filter => exact r.where_membersOf (picks_hookName? .filter) name
  rw [placesIn?, hwhere]
  cases r.get? s with
  | none => rfl
  | some hit => exact hit.places?_placesJson

end places

/-! ### Reports and their documents -/

theorem usedAt_iff (r : Report) (s : Symbol) (l : Location) :
    r.UsedAt s l ↔ ∃ places, placesIn? r.toJson s = some places ∧ l ∈ places := by
  rw [placesIn?_toJson]
  constructor
  · rintro ⟨hit, hget, hl⟩
    exact ⟨hit.locations.keys, by rw [hget]; rfl, SortedMap.mem_keys_iff.mpr ⟨(), hl⟩⟩
  · rintro ⟨places, hplaces, hl⟩
    obtain ⟨hit, hget, rfl⟩ := Option.map_eq_some_iff.mp hplaces
    obtain ⟨_, hl⟩ := SortedMap.mem_keys_iff.mp hl
    exact ⟨hit, hget, hl⟩

theorem eq_of_toJson_eq {r r' : Report} (hr : r.IsRead) (hr' : r'.IsRead)
    (h : r.toJson = r'.toJson) : r = r' := by
  apply ext_views
  · have hminimum : some r.minimum.toJson = some r'.minimum.toJson := congrArg (Json.get? "@wp_min") h
    have htext : r.minimum.text = r'.minimum.text := Json.str.inj (Option.some.inj hminimum)
    exact Version.text_injective hr'.minimum.written hr.minimum.written htext
  · intro s
    have htable : some r.table = some r'.table := by
      rw [← ofRaw?_toJson hr, ← ofRaw?_toJson hr', h]
    rw [← get?_table, ← get?_table, Option.some.inj htable]
  · intro s l
    rw [usedAt_iff, usedAt_iff, h]

/-- **A report is lossless.**  Take the report of any uses whose versions were read from texts.  Its
document is read as a table, which has the lifespans of the hits and nothing for other symbols; the
member `@wp_min` is read as the minimum; and the places of each hit can be read off the document, where no
other symbol has places.  So reports with the same document are equal. -/
theorem toJson_lossless (floor : Version) (us : List Use) (hfloor : floor.IsRead)
    (hus : ∀ u ∈ us, u.lifespan.IsRead) :
    let r := (start floor).recordAll us
    (∃ t, (RawJson.ofText? r.toJson.pretty).bind SymbolTable.ofRaw? = some t ∧
      ∀ s, t.get? s = (r.get? s).map Hit.lifespan) ∧
    (∃ text, r.toJson.get? "@wp_min" = some (.str text) ∧ Version.parse text = .ok r.minimum) ∧
    (∀ s, placesIn? r.toJson s = (r.get? s).map (fun hit => hit.locations.keys)) ∧
    ∀ floor' us', floor'.IsRead → (∀ u ∈ us', u.lifespan.IsRead) →
      ((start floor').recordAll us').toJson = r.toJson → (start floor').recordAll us' = r := by
  intro r
  have hr : r.IsRead := isRead_recordAll hfloor hus
  refine ⟨⟨r.table, ?_, r.get?_table⟩, ⟨r.minimum.text, rfl, ?_⟩, r.placesIn?_toJson, ?_⟩
  · rw [RawJson.ofText?_pretty, Option.bind_some, ofRaw?_toJson hr]
  · exact Version.parse_eq_ok_iff.mpr (Version.parse?_text hr.minimum.written)
  · intro floor' us' hfloor' hus' h
    exact eq_of_toJson_eq (isRead_recordAll hfloor' hus') hr h

/-- A file with a colon in its name, a class that is used and has a method that is, one of which only a
method is used, and names that the document has for other things.  Recording the uses again in another
order gives the same document, and the same report. -/
theorem toJson_lossless_odd_names :
    let v : Version := ⟨[6, 8], some ⟨.rc, 1, "RC1"⟩⟩
    let floor : Version := ⟨[5], none⟩
    let us : List Use := [⟨.method "A" "m", ⟨v, none⟩, ⟨"a:1", 2⟩⟩,
      ⟨.classType "_where", ⟨v, some v⟩, ⟨"", 0⟩⟩, ⟨.method "_where" "since", ⟨v, none⟩, ⟨"b", 7⟩⟩,
      ⟨.hook .filter "@wp_min", ⟨v, none⟩, ⟨"a:1", 2⟩⟩]
    let r := (start floor).recordAll us
    floor.IsRead ∧ (∀ u ∈ us, u.lifespan.IsRead) ∧
      (∃ t, (RawJson.ofText? r.toJson.pretty).bind SymbolTable.ofRaw? = some t ∧
        t.get? (.method "A" "m") = some ⟨v, none⟩ ∧ t.get? (.classType "A") = none ∧
        t.get? (.classType "_where") = some ⟨v, some v⟩) ∧
      (∃ text, r.toJson.get? "@wp_min" = some (.str text) ∧ Version.parse text = .ok v) ∧
      placesIn? r.toJson (.method "A" "m") = some [⟨"a:1", 2⟩] ∧
      (start floor).recordAll (us.reverse ++ us) = r := by
  intro v floor us r
  have hv : v.IsRead := ⟨"6.8-RC1", by cbv⟩
  have hfloor : floor.IsRead := ⟨"5", by cbv⟩
  have hsome : ∀ w, some v = some w → w.IsRead := fun w h => Option.some.inj h ▸ hv
  have hnone : ∀ w : Version, none = some w → w.IsRead := fun w h => by cases h
  have hus : ∀ u ∈ us, u.lifespan.IsRead := by
    simp only [us, List.forall_mem_cons]
    exact ⟨⟨hv, hnone⟩, ⟨hv, hsome⟩, ⟨hv, hnone⟩, ⟨hv, hnone⟩, fun _ h => by cases h⟩
  have hus' : ∀ u ∈ us.reverse ++ us, u.lifespan.IsRead := by
    intro u hu
    exact hus u (by simpa using hu)
  obtain ⟨⟨t, ht, hget⟩, ⟨text, htext, hparse⟩, hplaces, heq⟩ := toJson_lossless floor us hfloor hus
  have hminimum : r.minimum = v := by cbv
  refine ⟨hfloor, hus, ⟨t, ht, ?_, ?_, ?_⟩, ⟨text, htext, hminimum ▸ hparse⟩, ?_, ?_⟩
  · rw [hget]
    decide +kernel
  · rw [hget]
    decide +kernel
  · rw [hget]
    decide +kernel
  · rw [hplaces]
    decide +kernel
  · exact heq floor _ hfloor hus' (by cbv)

end Report

end RequiredVersion
