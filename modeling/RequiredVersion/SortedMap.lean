/-! # Sorted maps

A finite map is the list of its entries in strictly increasing key order.  The order is part of
the type, so two maps with the same entries are the same value, and listing a map needs no
sorting.  Lookups are linear, which is enough for the tables of this library; only the place of a new
entry can be searched by halving (`SortedMap.insertNew`).

`SortedMap.get?` is the view of a map: `get?_insert` says what an insertion does to it. -/

namespace RequiredVersion

/-- A finite map whose entries stand in strictly increasing key order. -/
structure SortedMap (κ : Type) (α : Type) [Ord κ] where
  entries : List (κ × α)
  sorted : entries.Pairwise (fun a b => compare a.1 b.1 = .lt)

namespace SortedMap

variable {κ : Type} {α : Type} [Ord κ]

theorem eq_of_entries {m n : SortedMap κ α} (h : m.entries = n.entries) : m = n := by
  cases m; cases n; cases h; rfl

instance [DecidableEq κ] [DecidableEq α] : DecidableEq (SortedMap κ α) := fun m n =>
  if h : m.entries = n.entries then isTrue (eq_of_entries h)
  else isFalse (fun e => h (e ▸ rfl))

/-- The map without entries. -/
def empty : SortedMap κ α := ⟨[], .nil⟩

instance : Inhabited (SortedMap κ α) := ⟨empty⟩
instance : EmptyCollection (SortedMap κ α) := ⟨empty⟩

/-- The number of entries. -/
def size (m : SortedMap κ α) : Nat := m.entries.length

def isEmpty (m : SortedMap κ α) : Bool := m.entries.isEmpty

def keys (m : SortedMap κ α) : List κ := m.entries.map (·.1)

def values (m : SortedMap κ α) : List α := m.entries.map (·.2)

/-! ### Lookup -/

/-- The value that a list of entries has for a key. -/
def lookupEntry (k : κ) : List (κ × α) → Option α
  | [] => none
  | (k', v) :: rest => if compare k k' = .eq then some v else lookupEntry k rest

def get? (m : SortedMap κ α) (k : κ) : Option α := lookupEntry k m.entries

def contains (m : SortedMap κ α) (k : κ) : Bool := (m.get? k).isSome

def getD (m : SortedMap κ α) (k : κ) (fallback : α) : α := (m.get? k).getD fallback

/-! ### Insertion -/

/-- Puts an entry at its place in a sorted list, replacing the value of an equal key. -/
def insertEntry (k : κ) (v : α) : List (κ × α) → List (κ × α)
  | [] => [(k, v)]
  | (k', v') :: rest =>
    match compare k k' with
    | .lt => (k, v) :: (k', v') :: rest
    | .eq => (k, v) :: rest
    | .gt => (k', v') :: insertEntry k v rest

theorem mem_insertEntry {k : κ} {v : α} {e : κ × α} :
    ∀ {l : List (κ × α)}, e ∈ insertEntry k v l → e = (k, v) ∨ e ∈ l
  | [], h => by simpa [insertEntry] using h
  | (k', v') :: rest, h => by
      unfold insertEntry at h
      split at h
      · simpa using h
      · rcases List.mem_cons.mp h with h | h
        · exact .inl h
        · exact .inr (List.mem_cons_of_mem _ h)
      · rcases List.mem_cons.mp h with h | h
        · exact .inr (h ▸ List.mem_cons_self)
        · rcases mem_insertEntry h with h | h
          · exact .inl h
          · exact .inr (List.mem_cons_of_mem _ h)

theorem pairwise_insertEntry [Std.TransOrd κ] [Std.LawfulEqOrd κ] (k : κ) (v : α) :
    ∀ {l : List (κ × α)}, l.Pairwise (fun a b => compare a.1 b.1 = .lt) →
      (insertEntry k v l).Pairwise (fun a b => compare a.1 b.1 = .lt)
  | [], _ => by simp [insertEntry]
  | (k', v') :: rest, h => by
      obtain ⟨hhead, htail⟩ := List.pairwise_cons.mp h
      unfold insertEntry
      split
      · rename_i hlt
        refine List.pairwise_cons.mpr ⟨fun e he => ?_, h⟩
        rcases List.mem_cons.mp he with rfl | he
        · exact hlt
        · exact Std.TransCmp.lt_trans hlt (hhead e he)
      · rename_i heq
        have hk : k = k' := Std.LawfulEqCmp.eq_of_compare heq
        subst hk
        exact List.pairwise_cons.mpr ⟨hhead, htail⟩
      · rename_i hgt
        have hlt : compare k' k = .lt := Std.OrientedCmp.gt_iff_lt.mp hgt
        refine List.pairwise_cons.mpr ⟨fun e he => ?_, pairwise_insertEntry k v htail⟩
        rcases mem_insertEntry he with rfl | he
        · exact hlt
        · exact hhead e he

/-- The map with `v` at `k`; an earlier value of `k` is replaced. -/
def insert [Std.TransOrd κ] [Std.LawfulEqOrd κ] (m : SortedMap κ α) (k : κ) (v : α) :
    SortedMap κ α :=
  ⟨insertEntry k v m.entries, pairwise_insertEntry k v m.sorted⟩

/-! ### Search -/

/-- Looks for a key among the entries from `lo` up to `hi`, half of which drop out at each step: where it
stands, or else where it is to be put. -/
def bisect (k : κ) (l : List (κ × α)) (lo hi : Nat) (hhi : hi ≤ l.length) : Except Nat Nat :=
  if hlo : lo < hi then
    let mid := lo + (hi - lo) / 2
    have hmid : mid < l.length := by omega
    match compare l[mid].1 k with
    | .lt => bisect k l (mid + 1) hi hhi
    | .eq => .ok mid
    | .gt => bisect k l lo mid (by omega)
  else .error lo
termination_by hi - lo

/-- Puts an entry where `bisect` says, unless its key is there already. -/
def insertNewEntry (k : κ) (v : α) (l : List (κ × α)) : List (κ × α) :=
  match bisect k l 0 l.length (Nat.le_refl _) with
  | .ok _ => l
  | .error i => l.take i ++ (k, v) :: l.drop i

theorem insertEntry_append [Std.OrientedOrd κ] {k : κ} {v : α} {after : List (κ × α)}
    (hafter : ∀ e ∈ after, compare k e.1 = .lt) : ∀ {before : List (κ × α)},
      (∀ e ∈ before, compare e.1 k = .lt) →
        insertEntry k v (before ++ after) = before ++ (k, v) :: after
  | [], _ => by
      cases after with
      | nil => rfl
      | cons e after =>
          rw [List.nil_append, insertEntry, hafter e List.mem_cons_self]
          rfl
  | e :: before, h => by
      have ih := insertEntry_append (v := v) hafter (fun e' he' => h e' (List.mem_cons_of_mem _ he'))
      rw [List.cons_append, insertEntry, Std.OrientedCmp.gt_of_lt (h e List.mem_cons_self)]
      dsimp only
      rw [ih, List.cons_append]

theorem isSome_lookupEntry {k : κ} : ∀ {l : List (κ × α)},
    (lookupEntry k l).isSome = true ↔ ∃ e ∈ l, compare k e.1 = .eq
  | [] => by simp [lookupEntry]
  | (k', v) :: rest => by
      rw [lookupEntry]
      by_cases h : compare k k' = .eq
      · simp [h]
      · simp [h, isSome_lookupEntry (l := rest)]

section bisect
variable {k : κ} {l : List (κ × α)} {lo hi i : Nat} {hhi : hi ≤ l.length}

theorem compare_of_bisect (h : bisect k l lo hi hhi = .ok i) :
    ∃ hi : i < l.length, compare l[i].1 k = .eq := by
  fun_induction bisect k l lo hi hhi with
  | case1 lo hi hhi hlo mid hmid hlt ih => exact ih h
  | case2 lo hi hhi hlo mid hmid heq =>
      obtain rfl : mid = i := Except.ok.inj h
      exact ⟨hmid, heq⟩
  | case3 lo hi hhi hlo mid hmid hgt ih => exact ih h
  | case4 lo hi hhi hlo => cases h

/-- Where a key is to be put, all entries before are smaller and all behind are greater.  What holds at
each step is that all entries before `lo` are smaller, and all from `hi` on are greater. -/
theorem separates_of_bisect [Std.TransOrd κ] (hl : l.Pairwise (fun a b => compare a.1 b.1 = .lt))
    (hle : lo ≤ hi) (hlow : ∀ j (hj : j < l.length), j < lo → compare l[j].1 k = .lt)
    (hhigh : ∀ j (hj : j < l.length), hi ≤ j → compare k l[j].1 = .lt)
    (h : bisect k l lo hi hhi = .error i) :
    (∀ j (hj : j < l.length), j < i → compare l[j].1 k = .lt) ∧
      ∀ j (hj : j < l.length), i ≤ j → compare k l[j].1 = .lt := by
  have hsorted := List.pairwise_iff_getElem.mp hl
  fun_induction bisect k l lo hi hhi with
  | case1 lo hi hhi hlo mid hmid hlt ih =>
      refine ih (by omega) (fun j hj hjmid => ?_) hhigh h
      rcases Nat.lt_or_eq_of_le (Nat.le_of_lt_succ hjmid) with hjmid | rfl
      · exact Std.TransCmp.lt_trans (hsorted j mid hj hmid hjmid) hlt
      · exact hlt
  | case2 lo hi hhi hlo mid hmid heq => cases h
  | case3 lo hi hhi hlo mid hmid hgt ih =>
      have hlt : compare k l[mid].1 = .lt := Std.OrientedCmp.lt_of_gt hgt
      refine ih (by omega) hlow (fun j hj hmidj => ?_) h
      rcases Nat.lt_or_eq_of_le hmidj with hmidj | rfl
      · exact Std.TransCmp.lt_trans hlt (hsorted mid j hmid hj hmidj)
      · exact hlt
  | case4 lo hi hhi hlo =>
      cases h
      exact ⟨hlow, fun j hj hij => hhigh j hj (by omega)⟩

end bisect

/-- The search puts an entry to its place among sorted ones. -/
theorem insertNewEntry_eq [Std.TransOrd κ] (k : κ) (v : α) {l : List (κ × α)}
    (hl : l.Pairwise (fun a b => compare a.1 b.1 = .lt)) :
    insertNewEntry k v l = if (lookupEntry k l).isSome then l else insertEntry k v l := by
  unfold insertNewEntry
  split
  · next i hfound =>
      obtain ⟨hi, heq⟩ := compare_of_bisect hfound
      rw [if_pos (isSome_lookupEntry.mpr ⟨l[i], List.getElem_mem hi, Std.OrientedCmp.eq_symm heq⟩)]
  · next i hmissing =>
      obtain ⟨hlow, hhigh⟩ := separates_of_bisect hl (Nat.zero_le _)
        (fun j _ hj => absurd hj (Nat.not_lt_zero j)) (fun j hj hle => absurd hj (Nat.not_lt.mpr hle)) hmissing
      have hbefore : ∀ e ∈ l.take i, compare e.1 k = .lt := by
        intro e he
        obtain ⟨j, hj, rfl⟩ := List.mem_take_iff_getElem.mp he
        exact hlow j (by omega) (by omega)
      have hafter : ∀ e ∈ l.drop i, compare k e.1 = .lt := by
        intro e he
        obtain ⟨j, hj, rfl⟩ := List.mem_drop_iff_getElem.mp he
        exact hhigh _ _ (by omega)
      have hnone : ¬(lookupEntry k l).isSome = true := by
        rw [isSome_lookupEntry, ← List.take_append_drop i l]
        rintro ⟨e, he, heq⟩
        rcases List.mem_append.mp he with he | he
        · rw [Std.OrientedCmp.gt_of_lt (hbefore e he)] at heq
          cases heq
        · rw [hafter e he] at heq
          cases heq
      rw [if_neg hnone]
      have hinsert := insertEntry_append (v := v) hafter hbefore
      rw [List.take_append_drop] at hinsert
      exact hinsert.symm

theorem pairwise_insertNewEntry [Std.TransOrd κ] [Std.LawfulEqOrd κ] (k : κ) (v : α) {l : List (κ × α)}
    (hl : l.Pairwise (fun a b => compare a.1 b.1 = .lt)) :
    (insertNewEntry k v l).Pairwise (fun a b => compare a.1 b.1 = .lt) := by
  rw [insertNewEntry_eq k v hl]
  split
  · exact hl
  · exact pairwise_insertEntry k v hl

/-- The map with `v` at `k`, where `k` has no value yet. -/
def insertNew [Std.TransOrd κ] [Std.LawfulEqOrd κ] (m : SortedMap κ α) (k : κ) (v : α) :
    SortedMap κ α :=
  ⟨insertNewEntry k v m.entries, pairwise_insertNewEntry k v m.sorted⟩

/-! ### Lists of entries -/

/-- The map of a list of entries; of two entries with one key the later one counts. -/
def ofList [Std.TransOrd κ] [Std.LawfulEqOrd κ] (l : List (κ × α)) : SortedMap κ α :=
  l.foldl (fun m e => m.insert e.1 e.2) empty

/-- The entries of both maps; where both have a key, those of `n`. -/
def union [Std.TransOrd κ] [Std.LawfulEqOrd κ] (m n : SortedMap κ α) : SortedMap κ α :=
  n.entries.foldl (fun m e => m.insert e.1 e.2) m

/-- The entries that pass a test. -/
def filter (m : SortedMap κ α) (p : κ → α → Bool) : SortedMap κ α :=
  ⟨m.entries.filter (fun e => p e.1 e.2), m.sorted.filter _⟩

/-- The map without an entry for `k`. -/
def erase (m : SortedMap κ α) (k : κ) : SortedMap κ α :=
  m.filter (fun k' _ => compare k k' != .eq)

/-! ### The view -/

@[simp] theorem get?_empty (k : κ) : (empty : SortedMap κ α).get? k = none := rfl

theorem lookupEntry_insertEntry [Std.TransOrd κ] [Std.LawfulEqOrd κ] (k j : κ) (v : α) :
    ∀ l : List (κ × α), lookupEntry j (insertEntry k v l) =
      if compare j k = .eq then some v else lookupEntry j l
  | [] => by simp [insertEntry, lookupEntry]
  | (k', v') :: rest => by
      unfold insertEntry
      split
      · simp [lookupEntry]
      · rename_i heq
        have hk : k = k' := Std.LawfulEqCmp.eq_of_compare heq
        subst hk
        by_cases h : compare j k = .eq <;> simp [lookupEntry, h]
      · rename_i hgt
        simp only [lookupEntry, lookupEntry_insertEntry k j v rest]
        by_cases h : compare j k' = .eq
        · have hj : j = k' := Std.LawfulEqCmp.eq_of_compare h
          subst hj
          have hne : compare j k ≠ .eq := by
            rw [Std.OrientedCmp.gt_iff_lt.mp hgt]; decide
          simp [hne]
        · simp [h]

/-- An insertion changes the value of its key and of no other. -/
@[simp] theorem get?_insert [Std.TransOrd κ] [Std.LawfulEqOrd κ] (m : SortedMap κ α) (k j : κ)
    (v : α) : (m.insert k v).get? j = if compare j k = .eq then some v else m.get? j :=
  lookupEntry_insertEntry k j v m.entries

end SortedMap

end RequiredVersion
