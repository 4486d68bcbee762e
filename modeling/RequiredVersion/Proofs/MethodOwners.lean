import RequiredVersion.Proofs.ByteOrder
import RequiredVersion.Proofs.Resolution

/-! # The owners of methods

Under the name of a method `Index.owners` has the classes for which the method is indexed, in the order
of the bytes of their names (`get?_owners_eq_some_iff`).  A method of an unknown object stands for the
method of its owner if there is one owner and no other (`unknownHit?_eq_some_iff`). -/

namespace RequiredVersion.Index

/-! ### Owners as a list -/

theorem mem_ownersOf_iff_isSome (i : Index) (m c : String) :
    c ∈ i.ownersOf m ↔ (i.get? (.method c m)).isSome = true := by
  rw [mem_ownersOf_iff, Option.isSome_iff_exists]

/-- The owners of a method in ascending order of their bytes, each once. -/
theorem pairwise_ownersOf (i : Index) (m : String) :
    (i.ownersOf m).Pairwise (fun c d => Text.bytes c < Text.bytes d) := by
  rw [ownersOf, havingMethod, List.pairwise_map]
  exact (i.symbols.classes.sorted.filter _).imp (fun h => (Text.compare_eq_lt_iff _ _).mp h)

theorem eq_of_pairwise_bytes {cs ds : List String}
    (hcs : cs.Pairwise (fun c d => Text.bytes c < Text.bytes d))
    (hds : ds.Pairwise (fun c d => Text.bytes c < Text.bytes d)) (h : ∀ c, c ∈ cs ↔ c ∈ ds) :
    cs = ds := by
  have hnodup : ∀ {es : List String}, es.Pairwise (fun c d => Text.bytes c < Text.bytes d) →
      es.Nodup := fun hes => hes.imp (fun hlt heq => absurd (heq ▸ hlt) (List.lt_irrefl _))
  refine ((List.perm_ext_iff_of_nodup (hnodup hcs) (hnodup hds)).mpr h).eq_of_pairwise ?_ hcs hds
  intro c d _ _ hcd hdc
  exact absurd hcd (List.lt_asymm hdc)

/-- What is found under the name of a method: the list of its owners, and nothing if there are none. -/
theorem get?_owners_eq_some_iff (i : Index) (m : String) (cs : List String) :
    i.owners.get? m = some cs ↔
      cs ≠ [] ∧ cs.Pairwise (fun c d => Text.bytes c < Text.bytes d) ∧
        ∀ c, c ∈ cs ↔ (i.get? (.method c m)).isSome = true := by
  rw [get?_owners]
  constructor
  · intro h
    split at h
    · cases h
    · next hne =>
        cases h
        exact ⟨hne, i.pairwise_ownersOf m, i.mem_ownersOf_iff_isSome m⟩
  · rintro ⟨hne, hsorted, hcs⟩
    have heq : i.ownersOf m = cs := eq_of_pairwise_bytes (i.pairwise_ownersOf m) hsorted
      (fun c => (i.mem_ownersOf_iff_isSome m c).trans (hcs c).symm)
    rw [heq, if_neg hne]

theorem get?_owners_eq_none_iff (i : Index) (m : String) :
    i.owners.get? m = none ↔ ∀ c, i.get? (.method c m) = none := by
  have hnone : i.owners.get? m = none ↔ i.ownersOf m = [] := by
    rw [get?_owners]
    split <;> simp [*]
  rw [hnone, List.eq_nil_iff_forall_not_mem]
  refine forall_congr' fun c => ?_
  rw [mem_ownersOf_iff_isSome, Option.not_isSome_iff_eq_none]

/-! ### Unknown objects -/

/-- A class is the only one for which a method is indexed. -/
def IsOnlyOwner (i : Index) (m c : String) : Prop :=
  ∀ d, (i.get? (.method d m)).isSome = true ↔ d = c

theorem ownersOf_eq_singleton_iff (i : Index) (m c : String) :
    i.ownersOf m = [c] ↔ i.IsOnlyOwner m c := by
  constructor
  · intro h d
    rw [← mem_ownersOf_iff_isSome, h, List.mem_singleton]
  · intro h
    refine eq_of_pairwise_bytes (i.pairwise_ownersOf m) (List.pairwise_singleton _ _) (fun d => ?_)
    rw [mem_ownersOf_iff_isSome, h, List.mem_singleton]

theorem unknownHit?_eq_some_iff (i : Index) (m : String) (hit : Symbol × Lifespan) :
    i.unknownHit? m = some hit ↔
      ∃ c a, i.IsOnlyOwner m c ∧ i.get? (.method c m) = some a ∧ hit = (.method unknownOwner m, a) := by
  constructor
  · intro h
    obtain ⟨c, a, howner, ha, rfl⟩ := unknownHit?_eq_some h
    exact ⟨c, a, (i.ownersOf_eq_singleton_iff m c).mp howner, ha, rfl⟩
  · rintro ⟨c, a, honly, ha, rfl⟩
    have howner := (i.get?_owners_eq_singleton_iff m c).mpr ((i.ownersOf_eq_singleton_iff m c).mpr honly)
    unfold unknownHit?
    rw [howner]
    dsimp only
    rw [ha, Option.map_some]

theorem resolve_unknown (i : Index) (m : String) :
    i.resolve true (.method none m) = (i.unknownHit? m).toList := rfl

/-- **Owners of methods and methods of unknown objects.**  Under the name of a method stand the classes
for which it is indexed, in ascending order of their bytes and each once, and a method without such a
class has no entry.  A method called on an unknown object stands for one symbol exactly if such objects
are matched and one class alone has the method: the method of the placeholder, with the lifespan that
it has in the class.  Otherwise it stands for nothing. -/
theorem owners_and_unknown_objects (i : Index) (m : String) :
    (∀ cs, i.owners.get? m = some cs ↔
      cs ≠ [] ∧ cs.Pairwise (fun c d => Text.bytes c < Text.bytes d) ∧
        ∀ c, c ∈ cs ↔ (i.get? (.method c m)).isSome = true) ∧
    (i.owners.get? m = none ↔ ∀ c, i.get? (.method c m) = none) ∧
    (∀ matchUnknown a, i.resolve matchUnknown (.method none m) = [(.method "$object" m, a)] ↔
      matchUnknown = true ∧ ∃ c, i.IsOnlyOwner m c ∧ i.get? (.method c m) = some a) ∧
    (∀ matchUnknown, i.resolve matchUnknown (.method none m) = [] ↔
      ¬(matchUnknown = true ∧ ∃ c, i.IsOnlyOwner m c)) := by
  refine ⟨i.get?_owners_eq_some_iff m, i.get?_owners_eq_none_iff m, fun matchUnknown a => ?_,
    fun matchUnknown => ?_⟩
  · cases matchUnknown with
    | false => simp [resolve]
    | true =>
        rw [resolve_unknown, Option.toList_eq_singleton_iff, unknownHit?_eq_some_iff]
        simp [unknownOwner]
  · cases matchUnknown with
    | false => simp [resolve]
    | true =>
        rw [resolve_unknown, Option.toList_eq_nil_iff, Option.eq_none_iff_forall_ne_some]
        simp only [ne_eq, unknownHit?_eq_some_iff, true_and]
        constructor
        · rintro h ⟨c, honly⟩
          obtain ⟨a, ha⟩ := Option.isSome_iff_exists.mp ((honly c).mpr rfl)
          exact h _ ⟨c, a, honly, ha, rfl⟩
        · rintro h hit ⟨c, a, honly, _, _⟩
          exact h ⟨c, honly⟩

/-- A class without the method, two with it, and a class of the placeholder's name. -/
example :
    let classes := SymbolTable.empty.insert (.method "B" "run") ⟨⟨[5], none⟩, none⟩
    let i : Index := ⟨none, ((classes.insert (.method "$object" "stop") ⟨⟨[6], none⟩, none⟩).insert
      (.method "A" "run") ⟨⟨[4], none⟩, none⟩).insert (.classType "C") ⟨⟨[3], none⟩, none⟩⟩
    i.owners.entries = [("run", ["A", "B"]), ("stop", ["$object"])] ∧
      i.resolve true (.method none "run") = [] ∧
      i.resolve true (.method none "stop") = [(.method "$object" "stop", ⟨⟨[6], none⟩, none⟩)] := by
  decide +kernel

end RequiredVersion.Index
