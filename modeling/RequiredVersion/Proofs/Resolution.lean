import RequiredVersion.Proofs.SortedMap
import RequiredVersion.Scan

/-! # Resolution gives a symbol one lifespan

`Index.owners` turns the classes of an index with their methods into the methods with their owners, by
going through the classes and, in each, through its methods.  One class puts its name behind the owners
of each of its methods (`get?_addClass`), and so the loop over all classes leaves each method with the
classes that have it (`get?_owners`), in the order of their names.

A reference resolves to indexed symbols with their own lifespans, or, for a method of an unknown
object, to the placeholder owner with the lifespan that the only owner of the method has
(`Index.mem_resolve`).  The two meet in the methods of the placeholder.  They agree there, since
an index with a class of that name lists it among the owners; so no symbol is ever reported with
two lifespans (`Index.resolve_functional`). -/

namespace RequiredVersion.Index

/-! ### The loop over the methods of a class -/

theorem get?_addOwner (name method m : String) (owners : SortedMap String (List String)) :
    (addOwner name owners method).get? m =
      if m = method then some (owners.getD m [] ++ [name]) else owners.get? m := by
  rw [addOwner]
  split
  · next h => rw [h, SortedMap.get?_insert_self]
  · next h => exact SortedMap.get?_insert_of_ne _ _ h

theorem get?_foldl_addOwner (name m : String) : ∀ {methods : List String}
    (owners : SortedMap String (List String)), methods.Nodup →
      (methods.foldl (addOwner name) owners).get? m =
        if m ∈ methods then some (owners.getD m [] ++ [name]) else owners.get? m
  | [], _, _ => rfl
  | method :: methods, owners, h => by
      obtain ⟨hmethod, hrest⟩ := List.nodup_cons.mp h
      rw [List.foldl_cons, get?_foldl_addOwner name m _ hrest, SortedMap.getD, get?_addOwner]
      by_cases hm : m = method
      · subst hm
        rw [if_neg hmethod, if_pos rfl, if_pos List.mem_cons_self]
      · simp only [List.mem_cons, hm, false_or, if_false, SortedMap.getD]

/-- A class stands behind the owners that its methods have. -/
theorem get?_addClass (owners : SortedMap String (List String)) (e : String × ClassEntry) (m : String) :
    (addClass owners e).get? m =
      if e.2.methods.contains m then some (owners.getD m [] ++ [e.1]) else owners.get? m := by
  have hmem : m ∈ e.2.methods.keys ↔ e.2.methods.contains m = true := by
    rw [SortedMap.mem_keys_iff, SortedMap.contains_iff]
  rw [addClass, get?_foldl_addOwner e.1 m owners e.2.methods.nodup_keys]
  simp only [hmem]

/-! ### The loop over the classes -/

/-- The classes of some entries that have a method. -/
def havingMethod (m : String) (es : List (String × ClassEntry)) : List String :=
  (es.filter (fun e => e.2.methods.contains m)).map (·.1)

theorem get?_foldl_addClass (m : String) : ∀ (es : List (String × ClassEntry))
    (owners : SortedMap String (List String)),
      (es.foldl addClass owners).get? m =
        if havingMethod m es = [] then owners.get? m
        else some (owners.getD m [] ++ havingMethod m es)
  | [], _ => rfl
  | e :: es, owners => by
      rw [List.foldl_cons, get?_foldl_addClass m es, SortedMap.getD, get?_addClass]
      by_cases he : e.2.methods.contains m = true
      · have hcons : havingMethod m (e :: es) = e.1 :: havingMethod m es := by simp [havingMethod, he]
        rw [if_pos he, hcons, if_neg (List.cons_ne_nil _ _), Option.getD_some]
        split
        · next hnil => rw [hnil]
        · rw [List.append_assoc, List.singleton_append]
      · have hskip : havingMethod m (e :: es) = havingMethod m es := by simp [havingMethod, he]
        rw [if_neg he, hskip]
        rfl

/-- The classes that have a method, in ascending order. -/
def ownersOf (i : Index) (method : String) : List String := havingMethod method i.symbols.classes.entries

theorem get?_owners (i : Index) (m : String) :
    i.owners.get? m = if i.ownersOf m = [] then none else some (i.ownersOf m) :=
  get?_foldl_addClass m i.symbols.classes.entries .empty

/-! ### Resolution -/

theorem mem_ownersOf_iff (i : Index) (owner method : String) :
    owner ∈ i.ownersOf method ↔ ∃ a, i.get? (.method owner method) = some a := by
  have hget : i.get? (.method owner method) =
      ((i.symbols.classes.get? owner).getD .empty).methods.get? method := rfl
  simp only [ownersOf, havingMethod, List.mem_map, List.mem_filter, Prod.exists, exists_and_right,
    exists_eq_right, SortedMap.mem_entries_iff, SortedMap.contains_iff]
  rw [hget]
  cases h : i.symbols.classes.get? owner with
  | none => simp [ClassEntry.empty]
  | some e => simp

theorem get?_owners_eq_singleton_iff (i : Index) (method owner : String) :
    i.owners.get? method = some [owner] ↔ i.ownersOf method = [owner] := by
  rw [get?_owners]
  split
  · next hnil => simp [hnil]
  · rw [Option.some.injEq]

theorem unknownHit?_eq_some {i : Index} {method : String} {hit : Symbol × Lifespan}
    (h : i.unknownHit? method = some hit) :
    ∃ owner a, i.ownersOf method = [owner] ∧ i.get? (.method owner method) = some a ∧
      hit = (.method unknownOwner method, a) := by
  unfold unknownHit? at h
  split at h
  · next owner howner =>
      obtain ⟨a, ha, rfl⟩ := Option.map_eq_some_iff.mp h
      exact ⟨owner, a, (i.get?_owners_eq_singleton_iff method owner).mp howner, ha, rfl⟩
  · cases h

/-- What a reference resolves to: indexed symbols, and methods of the placeholder. -/
theorem mem_resolve {i : Index} {matchUnknown : Bool} {r : Reference} {s : Symbol} {a : Lifespan}
    (h : (s, a) ∈ i.resolve matchUnknown r) :
    i.get? s = some a ∨
      ∃ owner name, s = .method unknownOwner name ∧ i.ownersOf name = [owner] ∧
        i.get? (.method owner name) = some a := by
  have hhit : ∀ t, (s, a) ∈ (i.hit? t).toList → i.get? s = some a := by
    intro t ht
    simp only [hit?, Option.mem_toList, Option.map_eq_some_iff, Prod.mk.injEq] at ht
    obtain ⟨b, hb, rfl, rfl⟩ := ht
    exact hb
  cases r with
  | function name => exact .inl (hhit _ h)
  | classType name => exact .inl (hhit _ h)
  | constant name => exact .inl (hhit _ h)
  | hook family name => exact .inl (hhit _ h)
  | method owner? name =>
      cases owner? with
      | some owner =>
          obtain ⟨t, _, ht⟩ := List.mem_filterMap.mp h
          exact .inl (hhit t (Option.mem_toList.mpr ht))
      | none =>
          simp only [resolve] at h
          split at h
          · obtain ⟨owner, b, howner, hb, heq⟩ := unknownHit?_eq_some (Option.mem_toList.mp h)
            cases heq
            exact .inr ⟨owner, name, rfl, howner, hb⟩
          · cases h

/-- No symbol is reported with two lifespans. -/
theorem resolve_functional {i : Index} {matchUnknown : Bool} {r r' : Reference} {s : Symbol}
    {a a' : Lifespan} (h : (s, a) ∈ i.resolve matchUnknown r)
    (h' : (s, a') ∈ i.resolve matchUnknown r') : a = a' := by
  -- a placeholder class that has the method is its only owner
  have hmeet : ∀ {owner name : String} {b c : Lifespan}, i.get? (.method unknownOwner name) = some b →
      i.ownersOf name = [owner] → i.get? (.method owner name) = some c → b = c := by
    intro owner name b c hb howner hc
    have hmem : unknownOwner ∈ i.ownersOf name := (i.mem_ownersOf_iff _ _).mpr ⟨b, hb⟩
    rw [howner, List.mem_singleton] at hmem
    rw [hmem] at hb
    exact Option.some.inj (hb.symm.trans hc)
  rcases mem_resolve h with hs | ⟨owner, name, rfl, howner, hs⟩ <;>
    rcases mem_resolve h' with hs' | ⟨owner', name', hname, howner', hs'⟩
  · exact Option.some.inj (hs.symm.trans hs')
  · subst hname
    exact hmeet hs howner' hs'
  · exact (hmeet hs' howner hs).symm
  · simp only [Symbol.method.injEq, true_and] at hname
    subst hname
    rw [howner, List.cons.injEq] at howner'
    rw [← howner'.1] at hs'
    exact Option.some.inj (hs.symm.trans hs')

end RequiredVersion.Index
