import RequiredVersion.Proofs.SortedMap
import RequiredVersion.Proofs.VersionOrder
import RequiredVersion.Report

/-! # What a report says after a list of uses

A report is seen through three views: its minimum, the lifespan it has for a symbol
(`Report.lifespan?`), and whether it has a place for a symbol (`Report.UsedAt`).  Two reports with
the same views are equal (`Report.ext_views`), and recording a use has one equation for each view.

Recording a list of uses keeps the first lifespan of every symbol.  So the order of the list shows,
unless the uses agree on the lifespan of each symbol (`Use.Consistent`): then the report depends
only on which uses there are (`Report.recordAll_eq_of_mem_iff`). -/

namespace RequiredVersion

/-- A use of a symbol, as a report records it. -/
structure Use where
  symbol : Symbol
  lifespan : Lifespan
  location : Location
  deriving DecidableEq

/-- Uses of one symbol have one lifespan. -/
def Use.Consistent (us : List Use) : Prop :=
  ∀ u ∈ us, ∀ v ∈ us, u.symbol = v.symbol → u.lifespan = v.lifespan

namespace Report

/-! ### Views -/

/-- The lifespan that is reported for a symbol. -/
def lifespan? (r : Report) (s : Symbol) : Option Lifespan := (r.get? s).map Hit.lifespan

/-- Is a place reported for a symbol? -/
def UsedAt (r : Report) (s : Symbol) (l : Location) : Prop :=
  ∃ hit, r.get? s = some hit ∧ hit.locations.get? l = some ()

/-- Reports with the same views are equal. -/
theorem ext_views {r r' : Report} (hminimum : r.minimum = r'.minimum)
    (hlifespan : ∀ s, r.lifespan? s = r'.lifespan? s)
    (hused : ∀ s l, r.UsedAt s l ↔ r'.UsedAt s l) : r = r' := by
  have hhits : r.hits = r'.hits := by
    apply SortedMap.ext_get?
    intro s
    have hl : (r.hits.get? s).map Hit.lifespan = (r'.hits.get? s).map Hit.lifespan := hlifespan s
    cases h : r.hits.get? s with
    | none =>
        rw [h, Option.map_none, eq_comm, Option.map_eq_none_iff] at hl
        exact hl.symm
    | some hit =>
        rw [h, Option.map_some, eq_comm, Option.map_eq_some_iff] at hl
        obtain ⟨hit', h', hlife⟩ := hl
        rw [h', Option.some.injEq]
        have hplaces : hit.locations = hit'.locations := by
          apply SortedMap.ext_members
          intro l
          constructor
          · intro hm
            obtain ⟨hit₂, h₂, hm₂⟩ := (hused s l).mp ⟨hit, h, hm⟩
            cases h'.symm.trans h₂
            exact hm₂
          · intro hm
            obtain ⟨hit₂, h₂, hm₂⟩ := (hused s l).mpr ⟨hit', h', hm⟩
            cases h.symm.trans h₂
            exact hm₂
        cases hit; cases hit'
        simp only [Hit.mk.injEq]
        exact ⟨hlife.symm, hplaces⟩
  cases r; cases r'
  simp only [Report.mk.injEq]
  exact ⟨hminimum, hhits⟩

@[simp] theorem lifespan?_start (floor : Version) (s : Symbol) :
    (start floor).lifespan? s = none := rfl

/-! ### One use -/

theorem get?_record_self (r : Report) (s : Symbol) (a : Lifespan) (l : Location) :
    (r.record s a l).get? s =
      some ⟨(r.hits.getD s ⟨a, .empty⟩).lifespan,
        (r.hits.getD s ⟨a, .empty⟩).locations.insert l ()⟩ := by
  rw [← SortedMap.insertNew_unit]
  exact SortedMap.get?_insert_self _ _ _

theorem get?_record_of_ne (r : Report) {s t : Symbol} (a : Lifespan) (l : Location) (h : t ≠ s) :
    (r.record s a l).get? t = r.get? t :=
  SortedMap.get?_insert_of_ne _ _ h

theorem lifespan?_record_self (r : Report) (s : Symbol) (a : Lifespan) (l : Location) :
    (r.record s a l).lifespan? s = some ((r.lifespan? s).getD a) := by
  rw [lifespan?, get?_record_self, lifespan?, get?]
  cases h : r.hits.get? s <;> simp [SortedMap.getD, h]

theorem lifespan?_record_of_ne (r : Report) {s t : Symbol} (a : Lifespan) (l : Location)
    (h : t ≠ s) : (r.record s a l).lifespan? t = r.lifespan? t := by
  rw [lifespan?, get?_record_of_ne r a l h, lifespan?]

theorem usedAt_record_iff (r : Report) (s t : Symbol) (a : Lifespan) (l k : Location) :
    (r.record s a l).UsedAt t k ↔ (t = s ∧ k = l) ∨ r.UsedAt t k := by
  by_cases ht : t = s
  · subst ht
    simp only [UsedAt, get?_record_self, Option.some.injEq, exists_eq_left', true_and]
    by_cases hk : k = l
    · subst hk
      simp
    · rw [SortedMap.get?_insert_of_ne _ _ hk]
      cases h : r.hits.get? t <;> simp [SortedMap.getD, get?, h, hk]
  · simp only [UsedAt, get?_record_of_ne r a l ht, ht, false_and, false_or]

/-! ### Lists of uses -/

/-- Records uses one after the other. -/
def recordAll (r : Report) (us : List Use) : Report :=
  us.foldl (fun r u => r.record u.symbol u.lifespan u.location) r

theorem recordAll_cons (r : Report) (u : Use) (us : List Use) :
    r.recordAll (u :: us) = (r.record u.symbol u.lifespan u.location).recordAll us := rfl

theorem recordAll_append (r : Report) (us vs : List Use) :
    r.recordAll (us ++ vs) = (r.recordAll us).recordAll vs := List.foldl_append

theorem minimum_recordAll : ∀ (us : List Use) (r : Report),
    (r.recordAll us).minimum = Version.joinAll r.minimum (us.map (·.lifespan.since))
  | [], r => rfl
  | u :: us, r => by
      rw [recordAll_cons, minimum_recordAll us]
      rfl

/-- The first use of a symbol decides on its lifespan. -/
theorem lifespan?_recordAll (s : Symbol) : ∀ (us : List Use) (r : Report),
    (r.recordAll us).lifespan? s =
      (r.lifespan? s).or ((us.find? (fun u => decide (u.symbol = s))).map Use.lifespan)
  | [], r => by simp [recordAll]
  | u :: us, r => by
      rw [recordAll_cons, lifespan?_recordAll s us]
      by_cases h : u.symbol = s
      · subst h
        rw [lifespan?_record_self, List.find?_cons_of_pos (by simp)]
        cases r.lifespan? u.symbol <;> rfl
      · rw [lifespan?_record_of_ne r _ _ (Ne.symm h), List.find?_cons_of_neg (by simpa using h)]

theorem usedAt_recordAll_iff (s : Symbol) (l : Location) : ∀ (us : List Use) (r : Report),
    (r.recordAll us).UsedAt s l ↔ r.UsedAt s l ∨ ∃ u ∈ us, u.symbol = s ∧ u.location = l
  | [], r => by simp [recordAll]
  | u :: us, r => by
      rw [recordAll_cons, usedAt_recordAll_iff s l us, usedAt_record_iff]
      simp only [List.mem_cons, exists_eq_or_imp]
      constructor
      · rintro ((⟨hs, hl⟩ | h) | h)
        · exact .inr (.inl ⟨hs.symm, hl.symm⟩)
        · exact .inl h
        · exact .inr (.inr h)
      · rintro (h | ⟨hs, hl⟩ | h)
        · exact .inl (.inr h)
        · exact .inl (.inl ⟨hs.symm, hl.symm⟩)
        · exact .inr h

theorem lifespan?_recordAll_of_consistent {us : List Use} (h : Use.Consistent us)
    (floor : Version) (s : Symbol) (a : Lifespan) :
    ((start floor).recordAll us).lifespan? s = some a ↔
      ∃ u ∈ us, u.symbol = s ∧ u.lifespan = a := by
  rw [lifespan?_recordAll, lifespan?_start, Option.none_or, Option.map_eq_some_iff]
  constructor
  · rintro ⟨u, hu, ha⟩
    have hs : u.symbol = s := by simpa using List.find?_some hu
    exact ⟨u, List.mem_of_find?_eq_some hu, hs, ha⟩
  · rintro ⟨u, hu, hs, ha⟩
    have hfound : (us.find? (fun v => decide (v.symbol = s))).isSome := by
      rw [List.find?_isSome]
      exact ⟨u, hu, by simpa using hs⟩
    obtain ⟨v, hv⟩ := Option.isSome_iff_exists.mp hfound
    have hvs : v.symbol = s := by simpa using List.find?_some hv
    refine ⟨v, hv, ?_⟩
    rw [← ha]
    exact h v (List.mem_of_find?_eq_some hv) u hu (hvs.trans hs.symm)

/-- The report of consistent uses depends only on which uses there are. -/
theorem recordAll_eq_of_mem_iff {us vs : List Use} (hus : Use.Consistent us)
    (h : ∀ u, u ∈ us ↔ u ∈ vs) (floor : Version) :
    (start floor).recordAll us = (start floor).recordAll vs := by
  have hvs : Use.Consistent vs := fun u hu v hv => hus u ((h u).mpr hu) v ((h v).mpr hv)
  apply ext_views
  · rw [minimum_recordAll, minimum_recordAll]
    apply Version.joinAll_eq_of_mem_iff
    intro x
    simp only [List.mem_cons, List.mem_map, h]
  · intro s
    apply Option.ext
    intro a
    rw [lifespan?_recordAll_of_consistent hus, lifespan?_recordAll_of_consistent hvs]
    simp only [h]
  · intro s l
    rw [usedAt_recordAll_iff, usedAt_recordAll_iff]
    simp only [h]

end Report

end RequiredVersion
