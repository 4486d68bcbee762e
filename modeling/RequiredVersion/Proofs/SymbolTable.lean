import RequiredVersion.Proofs.SortedMap
import RequiredVersion.SymbolTable

/-! # Symbol tables and their view

A table is seen through `SymbolTable.get?`: an insertion changes what it says of one symbol
(`SymbolTable.get?_insert_self`, `SymbolTable.get?_insert_of_ne`), although a class shares its entry
with its methods.  So it is with a merge: of each symbol the newer table is asked first
(`SymbolTable.get?_merge`), and of many tables the last one that knows it
(`SymbolTable.get?_foldl_merge`). -/

namespace RequiredVersion

namespace ClassEntry

theorem lifespan?_merge (e newer : ClassEntry) :
    (e.merge newer).lifespan? = newer.lifespan?.or e.lifespan? := by
  unfold merge
  cases hsince : newer.since with
  | none =>
      rw [show newer.lifespan? = none by rw [lifespan?, hsince]; rfl, Option.none_or]
      rfl
  | some since =>
      rw [show newer.lifespan? = some ⟨since, newer.deprecated⟩ by rw [lifespan?, hsince]; rfl,
        Option.some_or]
      rfl

theorem methods_merge (e newer : ClassEntry) :
    (e.merge newer).methods = e.methods.union newer.methods := by
  unfold merge
  cases newer.since <;> rfl

@[simp] theorem merge_empty (e : ClassEntry) : e.merge empty = e := rfl

end ClassEntry

namespace SymbolTable

@[simp] theorem get?_empty (s : Symbol) : empty.get? s = none := by
  cases s with
  | hook family name => cases family <;> rfl
  | _ => rfl

/-! ### Insertions -/

theorem classEntry_insert_self (t : SymbolTable) (name : String) (e : ClassEntry) :
    { t with classes := t.classes.insert name e }.classEntry name = e := by
  rw [classEntry, SortedMap.getD, SortedMap.get?_insert_self, Option.getD_some]

theorem classEntry_insert_of_ne (t : SymbolTable) {name other : String} (e : ClassEntry)
    (h : other ≠ name) :
    { t with classes := t.classes.insert name e }.classEntry other = t.classEntry other := by
  rw [classEntry, SortedMap.getD, SortedMap.get?_insert_of_ne _ _ h, classEntry, SortedMap.getD]

theorem get?_insert_self (t : SymbolTable) (s : Symbol) (a : Lifespan) :
    (t.insert s a).get? s = some a := by
  cases s with
  | constant name => exact SortedMap.get?_insert_self _ _ _
  | function name => exact SortedMap.get?_insert_self _ _ _
  | classType name =>
      simp only [insert, get?]
      rw [classEntry_insert_self]
      rfl
  | method owner name =>
      simp only [insert, get?]
      rw [classEntry_insert_self]
      exact SortedMap.get?_insert_self _ _ _
  | hook family name => cases family <;> exact SortedMap.get?_insert_self _ _ _

theorem get?_insert_of_ne (t : SymbolTable) {s u : Symbol} (a : Lifespan) (h : u ≠ s) :
    (t.insert s a).get? u = t.get? u := by
  cases s with
  | constant name =>
      cases u with
      | constant other => exact SortedMap.get?_insert_of_ne _ _ (fun e => h (congrArg _ e))
      | _ => rfl
  | function name =>
      cases u with
      | function other => exact SortedMap.get?_insert_of_ne _ _ (fun e => h (congrArg _ e))
      | _ => rfl
  | classType name =>
      cases u with
      | classType other =>
          simp only [insert, get?]
          rw [classEntry_insert_of_ne t _ (fun e => h (congrArg _ e))]
      | method owner m =>
          simp only [insert, get?]
          by_cases ho : owner = name
          · rw [ho, classEntry_insert_self]
            rfl
          · rw [classEntry_insert_of_ne t _ ho]
      | _ => rfl
  | method owner name =>
      cases u with
      | classType other =>
          simp only [insert, get?]
          by_cases ho : other = owner
          · rw [ho, classEntry_insert_self]
            rfl
          · rw [classEntry_insert_of_ne t _ ho]
      | method owner' name' =>
          simp only [insert, get?]
          by_cases ho : owner' = owner
          · have hn : name' ≠ name := fun e => h (by rw [ho, e])
            rw [ho, classEntry_insert_self]
            exact SortedMap.get?_insert_of_ne _ _ hn
          · rw [classEntry_insert_of_ne t _ ho]
      | _ => rfl
  | hook family name =>
      cases u with
      | hook family' name' =>
          by_cases hf : family' = family
          · subst hf
            have hn : name' ≠ name := fun e => h (by rw [e])
            cases family' <;> exact SortedMap.get?_insert_of_ne _ _ hn
          · cases family with
            | action =>
                cases family' with
                | action => exact absurd rfl hf
                | filter => rfl
            | filter =>
                cases family' with
                | action => rfl
                | filter => exact absurd rfl hf
      | _ => cases family <;> rfl

/-! ### Merges -/

theorem get?_classes_merge (t newer : SymbolTable) (name : String) :
    (t.merge newer).classes.get? name =
      ((newer.classes.get? name).map (t.classEntry name).merge).or (t.classes.get? name) :=
  SortedMap.get?_foldl_insert (fun (o : Option ClassEntry) e => (o.getD .empty).merge e) name
    newer.classes.sorted

theorem classEntry_merge (t newer : SymbolTable) (name : String) :
    (t.merge newer).classEntry name = (t.classEntry name).merge (newer.classEntry name) := by
  rw [classEntry, SortedMap.getD, get?_classes_merge, classEntry, SortedMap.getD, classEntry,
    SortedMap.getD]
  cases newer.classes.get? name with
  | none =>
      rw [Option.map_none, Option.none_or, Option.getD_none, ClassEntry.merge_empty]
  | some e =>
      rw [Option.map_some, Option.some_or, Option.getD_some, Option.getD_some]

/-- **A merge is told symbol by symbol**: where the newer table says something, that counts. -/
theorem get?_merge (t newer : SymbolTable) (s : Symbol) :
    (t.merge newer).get? s = (newer.get? s).or (t.get? s) := by
  cases s with
  | constant name => exact SortedMap.get?_union _ _ _
  | function name => exact SortedMap.get?_union _ _ _
  | classType name => rw [get?, classEntry_merge, ClassEntry.lifespan?_merge]; rfl
  | method owner name =>
      rw [get?, classEntry_merge, ClassEntry.methods_merge, SortedMap.get?_union]
      rfl
  | hook family name =>
      cases family with
      | action => exact SortedMap.get?_union _ _ _
      | filter => exact SortedMap.get?_union _ _ _

/-- Of many tables, where some may be missing, the last one that knows a symbol counts. -/
theorem get?_foldl_merge {β : Type} (table? : β → Option SymbolTable) (s : Symbol) :
    ∀ (l : List β) (t : SymbolTable), ((l.filterMap table?).foldl merge t).get? s =
      (l.reverse.findSome? (fun b => (table? b).bind (·.get? s))).or (t.get? s)
  | [], _ => rfl
  | b :: l, t => by
      rw [List.filterMap_cons, List.reverse_cons, List.findSome?_append, List.findSome?_singleton]
      cases table? b with
      | none =>
          rw [Option.bind_none, Option.or_none]
          exact get?_foldl_merge table? s l t
      | some newer =>
          rw [List.foldl_cons, get?_foldl_merge table? s l, get?_merge, ← Option.or_assoc]
          rfl

end SymbolTable

end RequiredVersion
