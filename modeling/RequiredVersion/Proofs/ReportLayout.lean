import Mathlib.Data.List.Induction
import RequiredVersion.Proofs.SortedMap
import RequiredVersion.Report

/-! # The layout of a report

Hits are put into the sections of a document one after the other, and what is written for a class and
for its methods shares one slot.  `Report.toJson_eq` says what comes of it: a section has the hits of its
kind under their names, in ascending order, and a class has its own members and then one for its methods.
What holds from hit to hit is that the sections are those of the hits so far (`Report.Sections.Holds`). -/

namespace RequiredVersion

/-! ### Lists of pairs -/

namespace SortedMap

variable {κ α : Type}

/-- A list of pairs with no more than one value for a key. -/
def Functional (l : List (κ × α)) : Prop := ∀ k v w, (k, v) ∈ l → (k, w) ∈ l → v = w

theorem Functional.sublist {l l' : List (κ × α)} (h : Functional l) (hl : l'.Sublist l) :
    Functional l' :=
  fun k v w hv hw => h k v w (hl.subset hv) (hl.subset hw)

theorem lookup_eq_some_iff [DecidableEq κ] {l : List (κ × α)} (h : Functional l) {k : κ} {v : α} :
    l.lookup k = some v ↔ (k, v) ∈ l := by
  induction l with
  | nil => simp
  | cons e l ih =>
      rw [List.lookup_cons, List.mem_cons]
      by_cases hk : k = e.1
      · rw [hk, beq_self_eq_true]
        constructor
        · intro hv
          rw [← Option.some.inj hv]
          exact .inl rfl
        · intro hv
          exact congrArg some (h e.1 e.2 v List.mem_cons_self (List.mem_cons.mpr hv))
      · have hne : (k, v) ≠ e := fun he => hk (congrArg Prod.fst he)
        rw [beq_false_of_ne hk]
        simp only [hne, false_or]
        exact ih (h.sublist (List.sublist_cons_self e l))

variable [Ord κ] [Std.TransOrd κ] [Std.LawfulEqOrd κ]

theorem ofList_concat (l : List (κ × α)) (e : κ × α) :
    ofList (l ++ [e]) = (ofList l).insert e.1 e.2 := by
  rw [ofList, List.foldl_append]
  rfl

theorem get?_ofList_eq_some_iff {l : List (κ × α)} (h : Functional l) {k : κ} {v : α} :
    (ofList l).get? k = some v ↔ (k, v) ∈ l := by
  induction l using List.reverseRecOn with
  | nil => simp [ofList, empty, get?, lookupEntry]
  | append_singleton l e ih =>
      have ih := ih (h.sublist (List.sublist_append_left l [e]))
      rw [ofList_concat, List.mem_append, List.mem_singleton]
      by_cases hk : k = e.1
      · rw [hk, get?_insert_self]
        constructor
        · intro hv
          rw [← Option.some.inj hv]
          exact .inr rfl
        · intro hv
          exact congrArg some (h e.1 e.2 v (by simp) (by simpa using hv))
      · have hne : (k, v) ≠ e := fun he => hk (congrArg Prod.fst he)
        rw [get?_insert_of_ne _ _ hk, ih]
        simp only [hne, or_false]

omit [Std.TransOrd κ] [Std.LawfulEqOrd κ] in
theorem isEmpty_insertEntry (k : κ) (v : α) (l : List (κ × α)) : (insertEntry k v l).isEmpty = false := by
  unfold insertEntry
  split
  · rfl
  · split <;> rfl

theorem entries_foldl_insert_eq : ∀ (l : List (κ × α)) (m : SortedMap κ α),
    (l.foldl (fun m e => m.insert e.1 e.2) m).entries =
      l.foldl (fun entries e => insertEntry e.1 e.2 entries) m.entries
  | [], _ => rfl
  | e :: l, m => entries_foldl_insert_eq l (m.insert e.1 e.2)

end SortedMap

/-! ### Members of a hit -/

namespace Hit

/-- The members of a hit, with those of its methods if it is a class. -/
def members (h : Hit) (methods : List (String × Json)) : List (String × Json) :=
  [("_where", h.placesJson)] ++
    Json.optional "deprecated" (h.lifespan.deprecated.map Version.toJson) ++
    methods ++ [("since", h.lifespan.since.toJson)]

variable (h : Hit)

theorem entries_fields : h.fields.entries = h.members [] := by
  unfold fields members
  cases h.lifespan.deprecated <;> rfl

theorem toJson_eq : h.toJson = .obj (h.members []) := congrArg Json.obj h.entries_fields

theorem insertEntry_members (o : Option Json) (v : Json) :
    SortedMap.insertEntry "method" v (h.members (Json.optional "method" o)) = h.members [("method", v)] := by
  unfold members
  cases h.lifespan.deprecated <;> cases o <;> rfl

theorem lookupEntry_members (o : Option Json) :
    SortedMap.lookupEntry "method" (h.members (Json.optional "method" o)) = o := by
  unfold members
  cases h.lifespan.deprecated <;> cases o <;> rfl

theorem foldl_insertEntry_members (o : Option Json) :
    (h.members []).foldl (fun ms e => SortedMap.insertEntry e.1 e.2 ms) (Json.optional "method" o) =
      h.members (Json.optional "method" o) := by
  have hwhere : compare "_where" "method" = .lt := by decide
  have hdeprecated : compare "deprecated" "_where" = .gt ∧ compare "deprecated" "method" = .lt := by decide
  have hsince : compare "since" "_where" = .gt ∧ compare "since" "deprecated" = .gt ∧
    compare "since" "method" = .gt := by decide
  unfold members
  cases h.lifespan.deprecated <;> cases o <;>
    simp [Json.optional, SortedMap.insertEntry, hwhere, hdeprecated, hsince]

end Hit

/-! ### Hits by name -/

theorem Symbol.compare_concat (a b : String) : ∀ ks : List String,
    compare (ks ++ [a]) (ks ++ [b]) = compare a b
  | [] => by
      change List.compareLex _ _ _ = _
      rw [List.nil_append, List.nil_append, List.compareLex_cons_cons]
      cases compare a b <;> rfl
  | k :: ks => by
      change List.compareLex _ _ _ = _
      rw [List.cons_append, List.cons_append, List.compareLex_cons_cons, Std.ReflOrd.compare_self]
      exact compare_concat a b ks

namespace Report

/-- `name?` gives a name to the symbols that `symbol` makes of names, and to no others; and the names
order these symbols. -/
structure Picks (name? : Symbol → Option String) (symbol : String → Symbol) : Prop where
  eq_some_iff : ∀ s name, name? s = some name ↔ s = symbol name
  sortKey_eq : ∃ ks, ∀ name, (symbol name).sortKey = ks ++ [name]

def constantName? : Symbol → Option String
  | .constant name => some name
  | _ => none

def functionName? : Symbol → Option String
  | .function name => some name
  | _ => none

def methodName? (owner : String) : Symbol → Option String
  | .method o name => if o = owner then some name else none
  | _ => none

def hookName? (family : HookFamily) : Symbol → Option String
  | .hook f name => if f = family then some name else none
  | _ => none

theorem picks_constantName? : Picks constantName? .constant := by
  refine ⟨fun s name => ?_, ["0"], fun _ => rfl⟩
  cases s <;> simp [constantName?]

theorem picks_functionName? : Picks functionName? .function := by
  refine ⟨fun s name => ?_, ["1"], fun _ => rfl⟩
  cases s <;> simp [functionName?]

theorem picks_methodName? (owner : String) : Picks (methodName? owner) (.method owner) := by
  refine ⟨fun s name => ?_, ["3", owner], fun _ => rfl⟩
  cases s <;> simp [methodName?]

theorem picks_hookName? (family : HookFamily) : Picks (hookName? family) (.hook family) := by
  refine ⟨fun s name => ?_, ?_⟩
  · cases s <;> simp [hookName?]
  · cases family with
    | action => exact ⟨["4", "0"], fun _ => rfl⟩
    | filter => exact ⟨["4", "1"], fun _ => rfl⟩

/-- The hits that are picked, with their names. -/
def picked (r : Report) (name? : Symbol → Option String) : List (String × Hit) :=
  r.hits.entries.filterMap (fun e => (name? e.1).map (fun name => (name, e.2)))

/-- The hits that are picked, with what is written for them. -/
def membersOf (r : Report) (name? : Symbol → Option String) : List (String × Json) :=
  (r.picked name?).map (fun p => (p.1, p.2.toJson))

section picked
variable (r : Report) {name? : Symbol → Option String} {symbol : String → Symbol} {α : Type}

theorem mem_picked (h : Picks name? symbol) (f : Hit → α) {name : String} {v : α} :
    (name, v) ∈ (r.picked name?).map (fun p => (p.1, f p.2)) ↔
      (r.get? (symbol name)).map f = some v := by
  rw [List.mem_map, Option.map_eq_some_iff]
  constructor
  · rintro ⟨⟨n, hit⟩, hmem, heq⟩
    cases heq
    obtain ⟨⟨s, hit'⟩, hentry, hpick⟩ := List.mem_filterMap.mp hmem
    obtain ⟨n', hname, hpair⟩ := Option.map_eq_some_iff.mp hpick
    cases hpair
    rw [← (h.eq_some_iff s _).mp hname]
    exact ⟨_, SortedMap.mem_entries_iff.mp hentry, rfl⟩
  · rintro ⟨hit, hget, rfl⟩
    refine ⟨(name, hit), List.mem_filterMap.mpr ⟨(symbol name, hit), ?_, ?_⟩, rfl⟩
    · exact SortedMap.mem_entries_iff.mpr hget
    · rw [(h.eq_some_iff _ name).mpr rfl]
      rfl

theorem pairwise_picked (h : Picks name? symbol) :
    (r.picked name?).Pairwise (fun a b => compare a.1 b.1 = .lt) := by
  obtain ⟨ks, hks⟩ := h.sortKey_eq
  refine r.hits.sorted.filterMap _ (fun e e' hlt p hp p' hp' => ?_)
  obtain ⟨name, hname, rfl⟩ := Option.map_eq_some_iff.mp hp
  obtain ⟨name', hname', rfl⟩ := Option.map_eq_some_iff.mp hp'
  have hkeys : compare e.1.sortKey e'.1.sortKey = .lt := hlt
  rwa [(h.eq_some_iff _ _).mp hname, (h.eq_some_iff _ _).mp hname', hks, hks,
    Symbol.compare_concat] at hkeys

/-- What is picked, as a map. -/
def pickedMap (h : Picks name? symbol) (f : Hit → α) : SortedMap String α :=
  ⟨(r.picked name?).map (fun p => (p.1, f p.2)), List.pairwise_map.mpr (r.pairwise_picked h)⟩

theorem get?_pickedMap (h : Picks name? symbol) (f : Hit → α) (name : String) :
    (r.pickedMap h f).get? name = (r.get? (symbol name)).map f := by
  apply Option.ext
  intro v
  rw [← SortedMap.mem_entries_iff]
  exact mem_picked r h f

/-! ### One more hit -/

/-- The report with one more hit. -/
def put (s : Symbol) (hit : Hit) : Report := { r with hits := r.hits.insert s hit }

theorem get?_put_self (s : Symbol) (hit : Hit) : (r.put s hit).get? s = some hit :=
  SortedMap.get?_insert_self _ _ _

theorem get?_put_of_ne {s t : Symbol} (hit : Hit) (hne : t ≠ s) : (r.put s hit).get? t = r.get? t :=
  SortedMap.get?_insert_of_ne _ _ hne

theorem membersOf_put_self (h : Picks name? symbol) (name : String) (hit : Hit) :
    (r.put (symbol name) hit).membersOf name? =
      SortedMap.insertEntry name hit.toJson (r.membersOf name?) := by
  have hmaps : (r.put (symbol name) hit).pickedMap h Hit.toJson =
      (r.pickedMap h Hit.toJson).insert name hit.toJson := by
    apply SortedMap.ext_get?
    intro other
    rw [get?_pickedMap]
    by_cases hother : other = name
    · rw [hother, get?_put_self, SortedMap.get?_insert_self]
      rfl
    · have hne : symbol other ≠ symbol name := fun e =>
        hother (Option.some.inj (((h.eq_some_iff _ _).mpr rfl).symm.trans ((h.eq_some_iff _ _).mpr e)))
      rw [get?_put_of_ne r hit hne, SortedMap.get?_insert_of_ne _ _ hother, get?_pickedMap]
  exact congrArg SortedMap.entries hmaps

theorem membersOf_put_of_none (h : Picks name? symbol) {s : Symbol} (hs : name? s = none) (hit : Hit) :
    (r.put s hit).membersOf name? = r.membersOf name? := by
  have hmaps : (r.put s hit).pickedMap h Hit.toJson = r.pickedMap h Hit.toJson := by
    apply SortedMap.ext_get?
    intro other
    have hne : symbol other ≠ s := by
      rintro rfl
      rw [(h.eq_some_iff _ other).mpr rfl] at hs
      cases hs
    rw [get?_pickedMap, get?_put_of_ne r hit hne, get?_pickedMap]
  exact congrArg SortedMap.entries hmaps

end picked

/-! ### Classes -/

/-- The classes that are used or have a method that is. -/
def classNames (r : Report) : List String :=
  (SortedMap.ofList (r.hits.keys.filterMap (fun
    | .classType name => some (name, ())
    | .method owner _ => some (owner, ())
    | _ => none))).keys

/-- The used methods of a class. -/
def methodMembers (r : Report) (owner : String) : List (String × Json) := r.membersOf (methodName? owner)

/-- What is written for the methods of a class. -/
def methodsJson? (r : Report) (name : String) : Option Json :=
  if (r.methodMembers name).isEmpty then none else some (.obj (r.methodMembers name))

/-- The members of a class. -/
def classMembers (r : Report) (name : String) : List (String × Json) :=
  match r.get? (.classType name) with
  | some h => h.members (Json.optional "method" (r.methodsJson? name))
  | none => Json.optional "method" (r.methodsJson? name)

section classes
variable (r : Report) {name : String}

/-- The classes that are written are those that are used or have a method that is. -/
theorem mem_classNames :
    name ∈ r.classNames ↔ (r.get? (.classType name)).isSome ∨
      ∃ method, (r.get? (.method name method)).isSome := by
  have hunit : ∀ l : List (String × Unit), SortedMap.Functional l := fun _ _ _ _ _ _ => rfl
  have hkeys : ∀ s, s ∈ r.hits.keys ↔ (r.get? s).isSome := fun s =>
    SortedMap.mem_keys_iff.trans Option.isSome_iff_exists.symm
  rw [classNames, SortedMap.mem_keys_iff]
  simp only [SortedMap.get?_ofList_eq_some_iff (hunit _), List.mem_filterMap, hkeys]
  constructor
  · rintro ⟨_, s, hs, hname⟩
    cases s with
    | classType n =>
        cases hname
        exact .inl hs
    | method owner n =>
        cases hname
        exact .inr ⟨n, hs⟩
    | _ => cases hname
  · rintro (hs | ⟨method, hs⟩)
    · exact ⟨(), _, hs, rfl⟩
    · exact ⟨(), _, hs, rfl⟩

theorem get?_of_not_mem (h : name ∉ r.classNames) :
    r.get? (.classType name) = none ∧ ∀ method, r.get? (.method name method) = none := by
  rw [mem_classNames] at h
  simpa only [not_or, not_exists, Bool.not_eq_true, Option.isSome_eq_false_iff,
    Option.isNone_iff_eq_none] using h

theorem classMembers_of_not_mem (h : name ∉ r.classNames) : r.classMembers name = [] := by
  obtain ⟨hclass, hmethod⟩ := r.get?_of_not_mem h
  have hmethods : r.methodMembers name = [] := by
    rw [List.eq_nil_iff_forall_not_mem]
    rintro ⟨method, v⟩ hmem
    have hget := (mem_picked r (picks_methodName? name) Hit.toJson).mp hmem
    rw [hmethod] at hget
    cases hget
  rw [classMembers, hclass, methodsJson?, hmethods]
  rfl

theorem class_put_of_ne {s : Symbol} (hit : Hit) (hclass : s ≠ .classType name)
    (hmethod : methodName? name s = none) :
    (name ∈ (r.put s hit).classNames ↔ name ∈ r.classNames) ∧
      (r.put s hit).classMembers name = r.classMembers name := by
  have hne : ∀ method, Symbol.method name method ≠ s := by
    rintro method rfl
    rw [methodName?, if_pos rfl] at hmethod
    cases hmethod
  have hmethods : (r.put s hit).methodMembers name = r.methodMembers name :=
    r.membersOf_put_of_none (picks_methodName? name) hmethod hit
  constructor
  · simp only [mem_classNames, get?_put_of_ne r hit (Ne.symm hclass), get?_put_of_ne r hit (hne _)]
  · rw [classMembers, classMembers, get?_put_of_ne r hit (Ne.symm hclass), methodsJson?, methodsJson?,
      hmethods]

end classes

/-! ### Sections -/

/-- The sections are those of a report. -/
structure Sections.Holds (d : Sections) (r : Report) : Prop where
  constants : d.constants.entries = r.membersOf constantName?
  functions : d.functions.entries = r.membersOf functionName?
  classes : ∀ name, (d.classes.get? name).map SortedMap.entries =
    if name ∈ r.classNames then some (r.classMembers name) else none
  actions : d.actions.entries = r.membersOf (hookName? .action)
  filters : d.filters.entries = r.membersOf (hookName? .filter)

namespace Sections

section holds
variable {d : Sections} {r : Report} {name : String}

theorem Holds.slot (h : d.Holds r) (name : String) :
    (d.classes.getD name .empty).entries = r.classMembers name := by
  have hclass := h.classes name
  rw [SortedMap.getD]
  split at hclass
  · obtain ⟨slot, hslot, hentries⟩ := Option.map_eq_some_iff.mp hclass
    rw [hslot]
    exact hentries
  · next hnot =>
      rw [Option.map_eq_none_iff.mp hclass, classMembers_of_not_mem r hnot]
      rfl

/-- Where the slot of one class changes and no other class gets or loses a member, the slots are right
if this one is. -/
theorem Holds.classes_insert (h : d.Holds r) {r' : Report} {slot : SortedMap String Json}
    (hmem : name ∈ r'.classNames) (hslot : slot.entries = r'.classMembers name)
    (hothers : ∀ other, other ≠ name → (other ∈ r'.classNames ↔ other ∈ r.classNames) ∧
      r'.classMembers other = r.classMembers other) (other : String) :
    ((d.classes.insert name slot).get? other).map SortedMap.entries =
      if other ∈ r'.classNames then some (r'.classMembers other) else none := by
  by_cases hother : other = name
  · rw [hother, SortedMap.get?_insert_self, if_pos hmem, ← hslot]
    rfl
  · obtain ⟨hiff, hsame⟩ := hothers other hother
    rw [SortedMap.get?_insert_of_ne _ _ hother, h.classes, hsame]
    simp only [hiff]

/-- A class that is new gets its members, around those of its methods. -/
theorem Holds.union_fields (h : d.Holds r) (hnew : r.get? (.classType name) = none) (hit : Hit) :
    ((d.classes.getD name .empty).union hit.fields).entries =
      (r.put (.classType name) hit).classMembers name := by
  have hmethods : (r.put (.classType name) hit).methodMembers name = r.methodMembers name :=
    r.membersOf_put_of_none (picks_methodName? name) rfl hit
  rw [SortedMap.union, SortedMap.entries_foldl_insert_eq, h.slot, hit.entries_fields, classMembers, hnew,
    classMembers, get?_put_self, methodsJson?, methodsJson?, hmethods]
  exact hit.foldl_insertEntry_members _

theorem Holds.addMethod (h : d.Holds r) (method : String) (hit : Hit) :
    (Sections.addMethod (d.classes.getD name .empty) method hit.toJson).entries =
      (r.put (.method name method) hit).classMembers name := by
  have hmethods : (r.put (.method name method) hit).methodMembers name =
      SortedMap.insertEntry method hit.toJson (r.methodMembers name) :=
    r.membersOf_put_self (picks_methodName? name) method hit
  have hslot := h.slot name
  generalize d.classes.getD name .empty = slot at hslot
  have hfound : slot.getD "method" (.obj []) = .obj (r.methodMembers name) := by
    have hlookup : slot.get? "method" = r.methodsJson? name := by
      rw [SortedMap.get?, hslot, classMembers]
      split
      · next found _ => exact found.lookupEntry_members _
      · cases r.methodsJson? name <;> rfl
    rw [SortedMap.getD, hlookup, methodsJson?]
    cases r.methodMembers name <;> rfl
  have hclass : (r.put (.method name method) hit).get? (.classType name) = r.get? (.classType name) :=
    get?_put_of_ne r hit (by simp)
  have hjson : (r.put (.method name method) hit).methodsJson? name =
      some (.obj (SortedMap.insertEntry method hit.toJson (r.methodMembers name))) := by
    rw [methodsJson?, hmethods, SortedMap.isEmpty_insertEntry]
    rfl
  rw [Sections.addMethod, hfound]
  change SortedMap.insertEntry "method" _ slot.entries = _
  rw [hslot, classMembers, classMembers, hclass, hjson]
  split
  · next found _ => exact found.insertEntry_members _ _
  · cases r.methodsJson? name <;> rfl

/-- One more hit goes into its section. -/
theorem Holds.add (h : d.Holds r) {s : Symbol} (hnew : r.get? s = none) (hit : Hit) :
    (d.add s hit).Holds (r.put s hit) := by
  have hkeep : ∀ {name? symbol} {m : SortedMap String Json}, Picks name? symbol → name? s = none →
      m.entries = r.membersOf name? → m.entries = (r.put s hit).membersOf name? := fun hpicks hs hm =>
    hm.trans (r.membersOf_put_of_none hpicks hs hit).symm
  have hput : ∀ {name? symbol} {m : SortedMap String Json} {name : String}, Picks name? symbol →
      symbol name = s → m.entries = r.membersOf name? →
        (m.insert name hit.toJson).entries = (r.put s hit).membersOf name? := by
    rintro name? symbol m name hpicks rfl hm
    exact (congrArg _ hm).trans (r.membersOf_put_self hpicks name hit).symm
  have hclasses : (∀ name, s ≠ .classType name ∧ methodName? name s = none) → ∀ name,
      (d.classes.get? name).map SortedMap.entries =
        if name ∈ (r.put s hit).classNames then some ((r.put s hit).classMembers name) else none := by
    intro hs name
    obtain ⟨hiff, hmembers⟩ := r.class_put_of_ne hit (hs name).1 (hs name).2
    rw [h.classes, hmembers]
    simp only [hiff]
  cases s with
  | constant name =>
      exact ⟨hput picks_constantName? rfl h.constants, hkeep picks_functionName? rfl h.functions,
        hclasses (fun _ => ⟨nofun, rfl⟩), hkeep (picks_hookName? .action) rfl h.actions,
        hkeep (picks_hookName? .filter) rfl h.filters⟩
  | function name =>
      exact ⟨hkeep picks_constantName? rfl h.constants, hput picks_functionName? rfl h.functions,
        hclasses (fun _ => ⟨nofun, rfl⟩), hkeep (picks_hookName? .action) rfl h.actions,
        hkeep (picks_hookName? .filter) rfl h.filters⟩
  | classType name =>
      refine ⟨hkeep picks_constantName? rfl h.constants, hkeep picks_functionName? rfl h.functions,
        h.classes_insert ?_ (h.union_fields hnew hit) (fun other hother => ?_),
        hkeep (picks_hookName? .action) rfl h.actions, hkeep (picks_hookName? .filter) rfl h.filters⟩
      · rw [mem_classNames, get?_put_self]
        exact .inl rfl
      · exact r.class_put_of_ne hit (fun e => hother (Symbol.classType.inj e).symm) rfl
  | method owner name =>
      refine ⟨hkeep picks_constantName? rfl h.constants, hkeep picks_functionName? rfl h.functions,
        h.classes_insert ?_ (h.addMethod name hit) (fun other hother => ?_),
        hkeep (picks_hookName? .action) rfl h.actions, hkeep (picks_hookName? .filter) rfl h.filters⟩
      · exact (mem_classNames _).mpr (.inr ⟨name, by rw [get?_put_self]; rfl⟩)
      · exact r.class_put_of_ne hit nofun (by rw [methodName?, if_neg (Ne.symm hother)])
  | hook family name =>
      cases family with
      | action =>
          exact ⟨hkeep picks_constantName? rfl h.constants, hkeep picks_functionName? rfl h.functions,
            hclasses (fun _ => ⟨nofun, rfl⟩), hput (picks_hookName? .action) rfl h.actions,
            hkeep (picks_hookName? .filter) rfl h.filters⟩
      | filter =>
          exact ⟨hkeep picks_constantName? rfl h.constants, hkeep picks_functionName? rfl h.functions,
            hclasses (fun _ => ⟨nofun, rfl⟩), hkeep (picks_hookName? .action) rfl h.actions,
            hput (picks_hookName? .filter) rfl h.filters⟩

/-- Hits that come after all others go into their sections, one after the other. -/
theorem Holds.foldl : ∀ {l : List (Symbol × Hit)} {r : Report} {d : Sections},
    (r.hits.entries ++ l).Pairwise (fun a b => compare a.1 b.1 = .lt) → d.Holds r →
      (l.foldl (fun d e => d.add e.1 e.2) d).Holds
        { r with hits := l.foldl (fun m e => m.insert e.1 e.2) r.hits }
  | [], _, _, _, h => h
  | (s, hit) :: l, r, d, hsorted, h => by
      have hlast : ∀ e ∈ r.hits.entries, compare e.1 s = .lt := fun e he =>
        (List.pairwise_append.mp hsorted).2.2 e he (s, hit) List.mem_cons_self
      have hnew : r.get? s = none := by
        rw [Option.eq_none_iff_forall_ne_some]
        intro found hfound
        have hlt := hlast (s, found) (SortedMap.mem_entries_iff.mpr hfound)
        rw [Std.ReflOrd.compare_self] at hlt
        cases hlt
      have happend : r.hits.entries ++ (s, hit) :: l = (r.put s hit).hits.entries ++ l := by
        rw [put, SortedMap.entries_insert_of_lt hlast, List.append_assoc]
        rfl
      rw [happend] at hsorted
      exact Holds.foldl (r := r.put s hit) hsorted (h.add hnew hit)

end holds

theorem holds_sections (r : Report) : r.sections.Holds r := by
  have hstart : empty.Holds ⟨r.minimum, .empty⟩ := ⟨rfl, rfl, fun _ => rfl, rfl, rfl⟩
  have hall := Holds.foldl (r := ⟨r.minimum, .empty⟩) (l := r.hits.entries) r.hits.sorted hstart
  have hhits : r.hits.entries.foldl (fun m e => m.insert e.1 e.2) .empty = r.hits :=
    r.hits.ofList_entries
  rw [hhits] at hall
  exact hall

end Sections

/-- **The document of a report.**  Each section has the hits of its kind, in ascending order, and a class
has its members and those of its methods. -/
theorem toJson_eq (r : Report) : r.toJson =
    .obj [("@wp_min", r.minimum.toJson),
      ("class", .obj (r.classNames.map (fun name => (name, .obj (r.classMembers name))))),
      ("constant", .obj (r.membersOf constantName?)),
      ("function", .obj (r.membersOf functionName?)),
      ("hook", .obj [("apply_filters", .obj (r.membersOf (hookName? .filter))),
        ("do_action", .obj (r.membersOf (hookName? .action)))])] := by
  have h := Sections.holds_sections r
  have hclasses : r.sections.classes.entries.map (fun e => (e.1, Json.obj e.2.entries)) =
      r.classNames.map (fun name => (name, .obj (r.classMembers name))) := by
    refine SortedMap.eq_of_mem_iff (List.pairwise_map.mpr r.sections.classes.sorted)
      (List.pairwise_map.mpr (List.pairwise_map.mpr (SortedMap.sorted _))) (fun name v => ?_)
    have hclass := h.classes name
    rw [List.mem_map, List.mem_map]
    constructor
    · rintro ⟨⟨name, slot⟩, hmem, heq⟩
      cases heq
      rw [SortedMap.mem_entries_iff.mp hmem] at hclass
      split at hclass
      · next hname => exact ⟨name, hname, by rw [← Option.some.inj hclass]⟩
      · cases hclass
    · rintro ⟨name, hname, heq⟩
      cases heq
      rw [if_pos hname] at hclass
      obtain ⟨slot, hslot, hentries⟩ := Option.map_eq_some_iff.mp hclass
      exact ⟨(name, slot), SortedMap.mem_entries_iff.mpr hslot, by rw [hentries]⟩
  rw [toJson, SortedMap.toJson, hclasses, h.constants, h.functions, h.actions, h.filters]

end Report

end RequiredVersion
