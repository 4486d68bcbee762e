import Mathlib.Order.Compare
import RequiredVersion.Version.Order

/-! # The order of versions is total

The comparison of two versions pads their segments to the longer of the two lists.  Padding both
further does not change it (`comparePadded_eq_compare_padTo`), so three versions can be compared
at one common width and the laws of the lexicographic order carry over.  Together with the order
of suffixes and of lengths this gives a lawful comparison (`Std.TransOrd`, `Std.LawfulEqOrd`).

`Version.join` is described by what lies above it (`Version.isLE_join_iff`); its algebraic laws and
those of `Version.joinAll` follow from that. -/

namespace RequiredVersion

/-! ### Padded segments -/

/-- A list of segments with zeros up to a width. -/
def padTo (width : Nat) (segments : List Nat) : List Nat :=
  segments ++ List.replicate (width - segments.length) 0

theorem padTo_length (segments : List Nat) : padTo segments.length segments = segments := by
  simp [padTo]

theorem padTo_succ_nil (width : Nat) : padTo (width + 1) [] = 0 :: padTo width [] := by
  simp [padTo, List.replicate_succ]

theorem padTo_succ_cons (width a : Nat) (as : List Nat) :
    padTo (width + 1) (a :: as) = a :: padTo width as := by
  simp [padTo]

/-- Padded comparison is lexicographic comparison at any width that both lists fit in. -/
theorem comparePadded_eq_compare_padTo : ∀ (as bs : List Nat) (width : Nat),
    as.length ≤ width → bs.length ≤ width →
      comparePadded as bs = compare (padTo width as) (padTo width bs)
  | [], [], width, _, _ => by
      rw [comparePadded]
      exact Std.ReflOrd.compare_self.symm
  | a :: as, [], width + 1, ha, _ => by
      rw [comparePadded, padTo_succ_cons, padTo_succ_nil, List.compare_cons_cons,
        comparePadded_eq_compare_padTo as [] width (Nat.le_of_succ_le_succ ha) (Nat.zero_le _)]
  | [], b :: bs, width + 1, _, hb => by
      rw [comparePadded, padTo_succ_cons, padTo_succ_nil, List.compare_cons_cons,
        comparePadded_eq_compare_padTo [] bs width (Nat.zero_le _) (Nat.le_of_succ_le_succ hb)]
  | a :: as, b :: bs, width + 1, ha, hb => by
      rw [comparePadded, padTo_succ_cons, padTo_succ_cons, List.compare_cons_cons,
        comparePadded_eq_compare_padTo as bs width (Nat.le_of_succ_le_succ ha)
          (Nat.le_of_succ_le_succ hb)]

theorem comparePadded_of_length_eq {as bs : List Nat} (h : as.length = bs.length) :
    comparePadded as bs = compare as bs := by
  rw [comparePadded_eq_compare_padTo as bs as.length (Nat.le_refl _) (Nat.le_of_eq h.symm),
    padTo_length, h, padTo_length]

instance : Std.TransCmp comparePadded where
  eq_swap {as bs} := by
    have ha : as.length ≤ max as.length bs.length := Nat.le_max_left _ _
    have hb : bs.length ≤ max as.length bs.length := Nat.le_max_right _ _
    rw [comparePadded_eq_compare_padTo as bs _ ha hb, comparePadded_eq_compare_padTo bs as _ hb ha]
    exact Std.OrientedOrd.eq_swap
  isLE_trans {as bs cs} hab hbc := by
    -- all three lists fit in the width of the longest one
    let width := max as.length (max bs.length cs.length)
    have ha : as.length ≤ width := by omega
    have hb : bs.length ≤ width := by omega
    have hc : cs.length ≤ width := by omega
    rw [comparePadded_eq_compare_padTo as bs width ha hb] at hab
    rw [comparePadded_eq_compare_padTo bs cs width hb hc] at hbc
    rw [comparePadded_eq_compare_padTo as cs width ha hc]
    exact Std.TransOrd.isLE_trans hab hbc

/-! ### Suffixes -/

theorem Stage.rank_injective {a b : Stage} (h : a.rank = b.rank) : a = b := by
  cases a <;> cases b <;> simp [rank] at h <;> rfl

instance : Std.TransOrd Stage := inferInstanceAs (Std.TransCmp (compareOn Stage.rank))

instance : Std.LawfulEqOrd Stage where
  eq_of_compare {a b} h :=
    have h' : compare a.rank b.rank = .eq := h
    Stage.rank_injective (Std.LawfulEqCmp.eq_of_compare h')

instance : Std.TransOrd Suffix :=
  inferInstanceAs (Std.TransCmp (compareLex (compareOn Suffix.stage)
    (compareLex (compareOn Suffix.number) (compareOn Suffix.raw))))

instance : Std.LawfulEqOrd Suffix where
  eq_of_compare {a b} h := by
    have h' : (compare a.stage b.stage).then
        ((compare a.number b.number).then (compare a.raw b.raw)) = .eq := h
    obtain ⟨hs, hnr⟩ := Ordering.then_eq_eq.mp h'
    obtain ⟨hn, hr⟩ := Ordering.then_eq_eq.mp hnr
    cases a; cases b
    simp only [Suffix.mk.injEq]
    exact ⟨Std.LawfulEqCmp.eq_of_compare hs, Std.LawfulEqCmp.eq_of_compare hn,
      Std.LawfulEqCmp.eq_of_compare hr⟩

instance : Std.TransCmp compareSuffix where
  eq_swap {a b} := by
    cases a <;> cases b <;> simp only [compareSuffix, Ordering.swap]
    exact Std.OrientedOrd.eq_swap
  isLE_trans {a b c} hab hbc := by
    cases a <;> cases b <;> cases c <;> simp_all only [compareSuffix, Ordering.isLE_gt,
      Ordering.isLE_lt, Ordering.isLE_eq, Bool.false_eq_true]
    exact Std.TransOrd.isLE_trans hab hbc

instance : Std.LawfulEqCmp compareSuffix where
  compare_self {a} := by
    cases a with
    | none => rfl
    | some s => exact Std.ReflOrd.compare_self
  eq_of_compare {a b} h := by
    cases a <;> cases b <;> simp only [compareSuffix, reduceCtorEq] at h
    · rfl
    · rw [Std.LawfulEqCmp.eq_of_compare h]

/-! ### Versions -/

theorem transCmp_of_part {α β : Type} (part : α → β) (cmp : β → β → Ordering)
    [Std.TransCmp cmp] : Std.TransCmp (fun a b => cmp (part a) (part b)) where
  eq_swap := Std.OrientedCmp.eq_swap
  isLE_trans := Std.TransCmp.isLE_trans

instance : Std.TransOrd Version :=
  have := transCmp_of_part Version.segments comparePadded
  have := transCmp_of_part Version.suffix compareSuffix
  inferInstanceAs (Std.TransCmp (compareLex
    (fun a b => comparePadded (Version.segments a) (Version.segments b))
    (compareLex (fun a b => compareSuffix (Version.suffix a) (Version.suffix b))
      (compareOn (fun v => (Version.segments v).length)))))

instance : Std.LawfulEqOrd Version where
  eq_of_compare {a b} h := by
    have h' : (comparePadded a.segments b.segments).then
        ((compareSuffix a.suffix b.suffix).then
          (compare a.segments.length b.segments.length)) = .eq := h
    obtain ⟨hp, hsl⟩ := Ordering.then_eq_eq.mp h'
    obtain ⟨hs, hl⟩ := Ordering.then_eq_eq.mp hsl
    have hlength : a.segments.length = b.segments.length := Std.LawfulEqCmp.eq_of_compare hl
    rw [comparePadded_of_length_eq hlength] at hp
    cases a; cases b
    simp only [Version.mk.injEq]
    exact ⟨Std.LawfulEqCmp.eq_of_compare hp, Std.LawfulEqCmp.eq_of_compare hs⟩

namespace Version

/-! ### Joins -/

theorem join_eq_or (a b : Version) : join a b = a ∨ join a b = b := by
  unfold join
  split
  · exact .inr rfl
  · exact .inl rfl

theorem isLE_join_iff (a b c : Version) :
    (compare (join a b) c).isLE ↔ (compare a c).isLE ∧ (compare b c).isLE := by
  unfold join
  split
  · rename_i hlt
    have hab : (compare a b).isLE := by rw [hlt]; rfl
    exact ⟨fun h => ⟨Std.TransOrd.isLE_trans hab h, h⟩, fun h => h.2⟩
  · rename_i hge
    have hba : (compare b a).isLE :=
      Std.OrientedCmp.isGE_iff_isLE.mp (Ordering.isGE_iff_ne_lt.mpr hge)
    exact ⟨fun h => ⟨h, Std.TransOrd.isLE_trans hba h⟩, fun h => h.1⟩

/-- A version is known by what lies above it. -/
theorem eq_of_isLE_iff {a b : Version} (h : ∀ c, (compare a c).isLE ↔ (compare b c).isLE) :
    a = b := by
  have hab : (compare a b).isLE := (h b).mpr Std.ReflOrd.isLE_rfl
  have hba : (compare b a).isLE := (h a).mp Std.ReflOrd.isLE_rfl
  exact Std.LawfulEqCmp.eq_of_compare (Std.OrientedCmp.isLE_antisymm hab hba)

theorem join_comm (a b : Version) : join a b = join b a := by
  apply eq_of_isLE_iff
  intro c
  rw [isLE_join_iff, isLE_join_iff]
  exact and_comm

theorem join_assoc (a b c : Version) : join (join a b) c = join a (join b c) := by
  apply eq_of_isLE_iff
  intro d
  simp only [isLE_join_iff]
  exact and_assoc

theorem join_self (a : Version) : join a a = a := by
  rcases join_eq_or a a with h | h <;> exact h

/-! ### Joins of lists -/

/-- What lies above the join of a list is what lies above all its versions. -/
theorem isLE_joinAll_iff (c : Version) : ∀ (v : Version) (vs : List Version),
    (compare (joinAll v vs) c).isLE ↔ ∀ w ∈ v :: vs, (compare w c).isLE
  | v, [] => by simp [joinAll]
  | v, w :: ws => by
      have ih := isLE_joinAll_iff c (join v w) ws
      rw [List.forall_mem_cons, isLE_join_iff] at ih
      rw [List.forall_mem_cons, List.forall_mem_cons, ← and_assoc]
      exact ih

theorem joinAll_mem : ∀ (v : Version) (vs : List Version), joinAll v vs ∈ v :: vs
  | v, [] => List.mem_singleton.mpr rfl
  | v, w :: ws => by
      have ih : joinAll v (w :: ws) ∈ join v w :: ws := joinAll_mem (join v w) ws
      rcases List.mem_cons.mp ih with h | h
      · rw [h]
        rcases join_eq_or v w with hv | hw
        · rw [hv]; exact List.mem_cons_self
        · rw [hw]; exact List.mem_cons_of_mem _ List.mem_cons_self
      · exact List.mem_cons_of_mem _ (List.mem_cons_of_mem _ h)

theorem isLE_joinAll {v w : Version} {vs : List Version} (h : w ∈ v :: vs) :
    (compare w (joinAll v vs)).isLE :=
  (isLE_joinAll_iff _ v vs).mp Std.ReflOrd.isLE_rfl w h

theorem joinAll_eq_of_mem_iff {v w : Version} {vs ws : List Version}
    (h : ∀ x, x ∈ v :: vs ↔ x ∈ w :: ws) : joinAll v vs = joinAll w ws := by
  apply eq_of_isLE_iff
  intro c
  rw [isLE_joinAll_iff, isLE_joinAll_iff]
  exact ⟨fun hv x hx => hv x ((h x).mpr hx), fun hw x hx => hw x ((h x).mp hx)⟩

/-- **Versions are totally ordered, and the join is the least upper bound.**  Reversing the
arguments reverses the comparison, it is transitive, and only a version itself compares as equal
to it.  The join of two versions lies above both and below everything that does; so joining is
commutative, associative and idempotent, and the join of a list is its greatest element, whatever
the order of the list and however often a version stands in it. -/
theorem total_order_with_joins :
    (∀ a b : Version, compare b a = (compare a b).swap) ∧
    (∀ a b c : Version, (compare a b).isLE → (compare b c).isLE → (compare a c).isLE) ∧
    (∀ a b : Version, compare a b = .eq ↔ a.segments = b.segments ∧ a.suffix = b.suffix) ∧
    (∀ a b : Version, (compare a (join a b)).isLE ∧ (compare b (join a b)).isLE ∧
      ∀ c, (compare a c).isLE → (compare b c).isLE → (compare (join a b) c).isLE) ∧
    (∀ a b : Version, join a b = join b a) ∧
    (∀ a b c : Version, join (join a b) c = join a (join b c)) ∧
    (∀ a : Version, join a a = a) ∧
    (∀ (v : Version) (vs : List Version), joinAll v vs ∈ v :: vs ∧
      ∀ w ∈ v :: vs, (compare w (joinAll v vs)).isLE) ∧
    (∀ (v w : Version) (vs ws : List Version), (∀ x, x ∈ v :: vs ↔ x ∈ w :: ws) →
      joinAll v vs = joinAll w ws) := by
  refine ⟨fun a b => Std.OrientedOrd.eq_swap, fun a b c => Std.TransOrd.isLE_trans, ?_, ?_,
    join_comm, join_assoc, join_self, fun v vs => ⟨joinAll_mem v vs, fun w => isLE_joinAll⟩,
    fun v w vs ws => joinAll_eq_of_mem_iff⟩
  · intro a b
    rw [Std.LawfulEqCmp.compare_eq_iff_eq, Version.mk.injEq]
  · intro a b
    obtain ⟨ha, hb⟩ := (isLE_join_iff a b (join a b)).mp Std.ReflOrd.isLE_rfl
    exact ⟨ha, hb, fun c hac hbc => (isLE_join_iff a b c).mpr ⟨hac, hbc⟩⟩

/-- Three versions with the same numbers: a pre-release, and the release with two and with three
segments. -/
theorem total_order_with_joins_same_numbers :
    (compare (⟨[5, 0], some ⟨.beta, 0, "beta"⟩⟩ : Version) ⟨[5, 0], none⟩).isLE ∧
      (compare (⟨[5, 0], none⟩ : Version) ⟨[5, 0, 0], none⟩).isLE ∧
      (compare (⟨[5, 0], some ⟨.beta, 0, "beta"⟩⟩ : Version) ⟨[5, 0, 0], none⟩).isLE ∧
      joinAll ⟨[5, 0], some ⟨.beta, 0, "beta"⟩⟩ [⟨[5, 0], none⟩, ⟨[5, 0, 0], none⟩] =
        joinAll ⟨[5, 0, 0], none⟩
          [⟨[5, 0], none⟩, ⟨[5, 0], some ⟨.beta, 0, "beta"⟩⟩, ⟨[5, 0], none⟩] := by
  obtain ⟨_, htrans, _, _, _, _, _, _, hset⟩ := total_order_with_joins
  have hfirst : (compare (⟨[5, 0], some ⟨.beta, 0, "beta"⟩⟩ : Version) ⟨[5, 0], none⟩).isLE := by
    cbv
  have hsecond : (compare (⟨[5, 0], none⟩ : Version) ⟨[5, 0, 0], none⟩).isLE := by
    cbv
  refine ⟨hfirst, hsecond, htrans _ _ _ hfirst hsecond, hset _ _ _ _ ?_⟩
  intro x
  simp only [List.mem_cons, List.not_mem_nil, or_false]
  constructor
  · rintro (h | h | h)
    · exact .inr (.inr (.inl h))
    · exact .inr (.inl h)
    · exact .inl h
  · rintro (h | h | h | h)
    · exact .inr (.inr h)
    · exact .inr (.inl h)
    · exact .inl h
    · exact .inr (.inl h)

end Version

end RequiredVersion
