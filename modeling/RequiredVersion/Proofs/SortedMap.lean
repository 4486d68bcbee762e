import RequiredVersion.SortedMap

/-! # Sorted maps and their views

A sorted map is determined by its view: `SortedMap.ext_get?`.  Its entries are the pairs that the
view shows (`SortedMap.mem_entries_iff`), and a set, as a map to `Unit`, is determined by its
members.  A fold of insertions is told by the view as well (`SortedMap.get?_foldl_insert`). -/

namespace RequiredVersion.SortedMap

variable {κ : Type} {α β : Type} [Ord κ]

theorem contains_iff {m : SortedMap κ α} {k : κ} :
    m.contains k = true ↔ ∃ v, m.get? k = some v := by
  rw [contains, Option.isSome_iff_exists]

/-! ### Entries -/

section entries
variable [Std.LawfulEqOrd κ]

/-- In a sorted list of entries, a lookup finds exactly the entries. -/
theorem mem_iff_lookupEntry {k : κ} {v : α} : ∀ {l : List (κ × α)},
    l.Pairwise (fun a b => compare a.1 b.1 = .lt) → ((k, v) ∈ l ↔ lookupEntry k l = some v)
  | [], _ => by simp [lookupEntry]
  | (k', v') :: rest, h => by
      obtain ⟨hhead, htail⟩ := List.pairwise_cons.mp h
      have ih := mem_iff_lookupEntry (k := k) (v := v) htail
      unfold lookupEntry
      by_cases hk : compare k k' = .eq
      · have hkk : k = k' := Std.LawfulEqCmp.eq_of_compare hk
        subst hkk
        -- the key of the head stands nowhere in the tail
        have hnot : ∀ w, (k, w) ∉ rest := by
          intro w hw
          have hlt : compare k k = .lt := hhead (k, w) hw
          rw [hk] at hlt
          cases hlt
        simp [hnot v, eq_comm]
      · have hne : k ≠ k' := fun e => hk (e ▸ Std.ReflOrd.compare_self)
        simp [hk, hne, ih]

theorem mem_entries_iff {m : SortedMap κ α} {k : κ} {v : α} :
    (k, v) ∈ m.entries ↔ m.get? k = some v :=
  mem_iff_lookupEntry m.sorted

theorem mem_keys_iff {m : SortedMap κ α} {k : κ} : k ∈ m.keys ↔ ∃ v, m.get? k = some v := by
  rw [keys, List.mem_map]
  constructor
  · rintro ⟨e, he, rfl⟩
    exact ⟨e.2, mem_entries_iff.mp he⟩
  · rintro ⟨v, hv⟩
    exact ⟨(k, v), mem_entries_iff.mpr hv, rfl⟩

theorem get?_filter (m : SortedMap κ α) (p : κ → α → Bool) (k : κ) :
    (m.filter p).get? k = (m.get? k).filter (p k) := by
  apply Option.ext
  intro v
  rw [← mem_entries_iff, Option.filter_eq_some_iff, ← mem_entries_iff]
  exact List.mem_filter

theorem get?_erase [DecidableEq κ] (m : SortedMap κ α) (k j : κ) :
    (m.erase k).get? j = if j = k then none else m.get? j := by
  rw [erase, get?_filter]
  by_cases hj : j = k
  · rw [if_pos hj, hj, Std.ReflOrd.compare_self]
    cases m.get? k <;> rfl
  · have hcompare : (compare k j != .eq) = true := by
      rw [bne_iff_ne]
      exact fun e => hj (Std.LawfulEqCmp.eq_of_compare e).symm
    rw [if_neg hj, hcompare]
    cases m.get? j <;> rfl

theorem nodup_keys (m : SortedMap κ α) : m.keys.Nodup := by
  rw [keys, List.Nodup, List.pairwise_map]
  refine m.sorted.imp ?_
  intro a b hlt hab
  rw [hab, Std.ReflOrd.compare_self] at hlt
  cases hlt

theorem nodup_entries (m : SortedMap κ α) : m.entries.Nodup :=
  List.Pairwise.of_map Prod.fst (fun _ _ hne hab => hne (congrArg Prod.fst hab)) m.nodup_keys

end entries

variable [Std.TransOrd κ] [Std.LawfulEqOrd κ]

/-- Maps with the same view are equal. -/
theorem ext_get? {m n : SortedMap κ α} (h : ∀ k, m.get? k = n.get? k) : m = n := by
  apply eq_of_entries
  have hperm : m.entries.Perm n.entries := by
    rw [List.perm_ext_iff_of_nodup m.nodup_entries n.nodup_entries]
    rintro ⟨k, v⟩
    rw [mem_entries_iff, mem_entries_iff, h k]
  refine hperm.eq_of_pairwise ?_ m.sorted n.sorted
  intro a b _ _ hab hba
  rw [Std.OrientedCmp.gt_of_lt hba] at hab
  cases hab

theorem eq_of_mem_iff {l l' : List (κ × α)} (hl : l.Pairwise (fun a b => compare a.1 b.1 = .lt))
    (hl' : l'.Pairwise (fun a b => compare a.1 b.1 = .lt)) (h : ∀ k v, (k, v) ∈ l ↔ (k, v) ∈ l') :
    l = l' := by
  have hmaps : (⟨l, hl⟩ : SortedMap κ α) = ⟨l', hl'⟩ := by
    refine ext_get? (fun k => Option.ext (fun v => ?_))
    rw [← mem_entries_iff, ← mem_entries_iff]
    exact h k v
  exact congrArg entries hmaps

/-! ### Insertions -/

theorem get?_insert_self (m : SortedMap κ α) (k : κ) (v : α) : (m.insert k v).get? k = some v := by
  rw [get?_insert, if_pos Std.ReflOrd.compare_self]

theorem get?_insert_of_ne (m : SortedMap κ α) {k j : κ} (v : α) (h : j ≠ k) :
    (m.insert k v).get? j = m.get? j := by
  rw [get?_insert, if_neg (fun e => h (Std.LawfulEqCmp.eq_of_compare e))]

theorem insertNew_eq (m : SortedMap κ α) (k : κ) (v : α) :
    m.insertNew k v = if m.contains k then m else m.insert k v := by
  refine eq_of_entries ((insertNewEntry_eq k v m.sorted).trans ?_)
  change (if m.contains k = true then _ else _) = _
  split <;> rfl

theorem insertNew_unit (m : SortedMap κ Unit) (k : κ) :
    m.insertNew k () = m.insert k () := by
  rw [insertNew_eq]
  split
  · next h =>
      obtain ⟨_, hk⟩ := contains_iff.mp h
      apply ext_get?
      intro j
      rw [get?_insert]
      split
      · next hj =>
          rw [Std.LawfulEqCmp.eq_of_compare hj, hk]
      · rfl
  · rfl

/-! ### Lists of entries -/

theorem entries_insert_of_lt {m : SortedMap κ α} {k : κ} {v : α}
    (h : ∀ e ∈ m.entries, compare e.1 k = .lt) : (m.insert k v).entries = m.entries ++ [(k, v)] := by
  have hend := insertEntry_append (v := v) (fun e he => absurd he List.not_mem_nil) h
  rwa [List.append_nil] at hend

theorem entries_foldl_insert : ∀ {l : List (κ × α)} {m : SortedMap κ α},
    (m.entries ++ l).Pairwise (fun a b => compare a.1 b.1 = .lt) →
      (l.foldl (fun m e => m.insert e.1 e.2) m).entries = m.entries ++ l
  | [], m, _ => (List.append_nil _).symm
  | (k, v) :: l, m, h => by
      have hlast : ∀ e ∈ m.entries, compare e.1 k = .lt := fun e he =>
        (List.pairwise_append.mp h).2.2 e he (k, v) List.mem_cons_self
      have hinsert : (m.insert k v).entries = m.entries ++ [(k, v)] := entries_insert_of_lt hlast
      have happend : m.entries ++ (k, v) :: l = (m.insert k v).entries ++ l := by
        rw [hinsert, List.append_assoc]
        rfl
      rw [happend] at h ⊢
      exact entries_foldl_insert h

theorem ofList_entries (m : SortedMap κ α) : ofList m.entries = m :=
  eq_of_entries (entries_foldl_insert m.sorted)

/-! ### Folds of insertions -/

omit [Std.TransOrd κ] [Std.LawfulEqOrd κ] in
theorem lookupEntry_of_lt {k : κ} : ∀ {l : List (κ × α)}, (∀ e ∈ l, compare k e.1 = .lt) →
    lookupEntry k l = none
  | [], _ => rfl
  | (k', v) :: rest, h => by
      obtain ⟨hk, hrest⟩ := List.forall_mem_cons.mp h
      rw [lookupEntry, if_neg (by rw [hk]; decide), lookupEntry_of_lt hrest]

/-- Entries are put in one after the other, each as what `f` makes of it and of the value there
was. -/
theorem get?_foldl_insert (f : Option α → β → α) (k : κ) : ∀ {l : List (κ × β)} {m : SortedMap κ α},
    l.Pairwise (fun a b => compare a.1 b.1 = .lt) →
      (l.foldl (fun m e => m.insert e.1 (f (m.get? e.1) e.2)) m).get? k =
        ((lookupEntry k l).map (f (m.get? k))).or (m.get? k)
  | [], _, _ => rfl
  | (k', v) :: l, m, h => by
      obtain ⟨hhead, htail⟩ := List.pairwise_cons.mp h
      rw [List.foldl_cons, get?_foldl_insert f k htail, lookupEntry]
      by_cases hk : compare k k' = .eq
      · -- the key of the head stands nowhere in the tail
        obtain rfl : k = k' := Std.LawfulEqCmp.eq_of_compare hk
        rw [if_pos hk, get?_insert_self, lookupEntry_of_lt hhead]
        rfl
      · rw [if_neg hk, get?_insert, if_neg hk]

theorem get?_union (m n : SortedMap κ α) (k : κ) :
    (m.union n).get? k = (n.get? k).or (m.get? k) := by
  have h := get?_foldl_insert (fun _ v => v) k (m := m) n.sorted
  rw [Option.map_id_fun'] at h
  exact h

/-! ### Values with a property -/

/-- Every value of a map has a property. -/
def ForAll (P : α → Prop) (m : SortedMap κ α) : Prop := ∀ k v, m.get? k = some v → P v

namespace ForAll

variable {P : α → Prop} {m n : SortedMap κ α}

omit [Std.TransOrd κ] [Std.LawfulEqOrd κ] in
theorem empty : (SortedMap.empty : SortedMap κ α).ForAll P := by
  intro k v h
  cases h

theorem insert (hm : m.ForAll P) (k : κ) {v : α} (hv : P v) : (m.insert k v).ForAll P := by
  intro j w hw
  by_cases hj : j = k
  · rw [hj, get?_insert_self] at hw
    rwa [← Option.some.inj hw]
  · rw [get?_insert_of_ne _ _ hj] at hw
    exact hm j w hw

theorem union (hm : m.ForAll P) (hn : n.ForAll P) : (m.union n).ForAll P := by
  intro k v hv
  rw [get?_union, Option.or_eq_some_iff] at hv
  rcases hv with hv | ⟨_, hv⟩
  · exact hn k v hv
  · exact hm k v hv

omit [Std.TransOrd κ] in
theorem filter (hm : m.ForAll P) (p : κ → α → Bool) : (m.filter p).ForAll P := by
  intro k v hv
  rw [get?_filter, Option.filter_eq_some_iff] at hv
  exact hm k v hv.1

theorem ofList {l : List (κ × α)} (h : ∀ e ∈ l, P e.2) : (ofList l).ForAll P := by
  have hfold : ∀ (l : List (κ × α)) (m : SortedMap κ α), (∀ e ∈ l, P e.2) → m.ForAll P →
      (l.foldl (fun m e => m.insert e.1 e.2) m).ForAll P := by
    intro l
    induction l with
    | nil => exact fun m _ hm => hm
    | cons e l ih =>
        intro m h hm
        obtain ⟨he, hl⟩ := List.forall_mem_cons.mp h
        exact ih _ hl (hm.insert e.1 he)
  exact hfold l _ h ForAll.empty

end ForAll

/-! ### Sets -/

theorem ext_members {m n : SortedMap κ Unit} (h : ∀ k, m.get? k = some () ↔ n.get? k = some ()) :
    m = n := by
  apply ext_get?
  intro k
  apply Option.ext
  rintro ⟨⟩
  exact h k

end RequiredVersion.SortedMap
