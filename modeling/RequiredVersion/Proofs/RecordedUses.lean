import RequiredVersion.Proofs.ByteOrder
import RequiredVersion.Proofs.Report

/-! # Reports of any uses

What a report says after a list of uses, whatever the uses are (`Report.recordAll_collects`): its
minimum is the join of the floor and the `since` versions, it has a hit for every symbol that is
used, with the lifespan of the first use, and the places of a hit are those of its uses, each once,
in the order of the bytes of the files and then of the lines. -/

namespace RequiredVersion

namespace Location

/-- A place comes before another one by the bytes of its file, or in the same file by its line. -/
def Precedes (a b : Location) : Prop :=
  Text.bytes a.file < Text.bytes b.file ∨ a.file = b.file ∧ a.line < b.line

theorem compare_eq_lt_iff (a b : Location) : compare a b = .lt ↔ a.Precedes b := by
  have hparts : compare a b = (compare a.file b.file).then (compare a.line b.line) := rfl
  rw [hparts, Ordering.then_eq_lt, Text.compare_eq_lt_iff, Std.LawfulEqCmp.compare_eq_iff_eq,
    Nat.compare_eq_lt, Precedes]

end Location

namespace Report

variable {floor : Version} {us : List Use} {s : Symbol} {hit : Hit}

/-! ### The minimum -/

theorem isLE_minimum_recordAll (r : Report) (us : List Use) :
    (compare r.minimum (r.recordAll us).minimum).isLE := by
  rw [minimum_recordAll]
  exact Version.isLE_joinAll List.mem_cons_self

theorem isLE_minimum_of_prefix {before : List Use} (h : before <+: us) :
    (compare ((start floor).recordAll before).minimum ((start floor).recordAll us).minimum).isLE := by
  obtain ⟨after, rfl⟩ := h
  rw [recordAll_append]
  exact isLE_minimum_recordAll _ _

/-- The minimum is below what is above the floor and all `since` versions. -/
theorem minimum_recordAll_isLE_iff (v : Version) :
    (compare ((start floor).recordAll us).minimum v).isLE ↔
      (compare floor v).isLE ∧ ∀ u ∈ us, (compare u.lifespan.since v).isLE := by
  rw [minimum_recordAll, Version.isLE_joinAll_iff, List.forall_mem_cons, List.forall_mem_map]
  rfl

/-! ### Hits -/

/-- A hit has the lifespan of the first use of its symbol. -/
theorem exists_first_use (h : ((start floor).recordAll us).get? s = some hit) :
    ∃ before u after, us = before ++ u :: after ∧ u.symbol = s ∧ (∀ v ∈ before, v.symbol ≠ s) ∧
      hit.lifespan = u.lifespan := by
  have hlifespan : ((start floor).recordAll us).lifespan? s = some hit.lifespan := by
    rw [lifespan?, h, Option.map_some]
  rw [lifespan?_recordAll, lifespan?_start, Option.none_or, Option.map_eq_some_iff] at hlifespan
  obtain ⟨u, hfind, hu⟩ := hlifespan
  obtain ⟨hsymbol, before, after, hus, hbefore⟩ := List.find?_eq_some_iff_append.mp hfind
  refine ⟨before, u, after, hus, by simpa using hsymbol, ?_, hu.symm⟩
  intro v hv
  simpa using hbefore v hv

theorem mem_locations_iff (h : ((start floor).recordAll us).get? s = some hit) (l : Location) :
    l ∈ hit.locations.keys ↔ ∃ u ∈ us, u.symbol = s ∧ u.location = l := by
  have hstart : ¬(start floor).UsedAt s l := by
    rintro ⟨hit, hnone, _⟩
    cases hnone
  have hused : ((start floor).recordAll us).UsedAt s l ↔ ∃ u ∈ us, u.symbol = s ∧ u.location = l := by
    rw [usedAt_recordAll_iff, or_iff_right hstart]
  rw [← hused, SortedMap.mem_keys_iff]
  constructor
  · rintro ⟨_, hl⟩
    exact ⟨hit, h, hl⟩
  · rintro ⟨hit', h', hl⟩
    rw [h] at h'
    rw [Option.some.inj h']
    exact ⟨(), hl⟩

theorem mem_keys_hits_iff :
    s ∈ ((start floor).recordAll us).hits.keys ↔ ∃ u ∈ us, u.symbol = s := by
  rw [SortedMap.mem_keys_iff]
  constructor
  · rintro ⟨hit, h⟩
    obtain ⟨before, u, after, rfl, hsymbol, _⟩ := exists_first_use h
    exact ⟨u, by simp, hsymbol⟩
  · rintro ⟨u, hu, hsymbol⟩
    obtain ⟨hit, hget, _⟩ :=
      (usedAt_recordAll_iff s u.location us (start floor)).mpr (.inr ⟨u, hu, hsymbol, rfl⟩)
    exact ⟨hit, hget⟩

theorem pairwise_locations (hit : Hit) : hit.locations.keys.Pairwise Location.Precedes := by
  rw [SortedMap.keys, List.pairwise_map]
  exact hit.locations.sorted.imp (fun {a b} h => (Location.compare_eq_lt_iff a.1 b.1).mp h)

/-! ### The whole report -/

/-- **A report collects the uses that are recorded.**  Record any list of uses over a floor.  Then the
minimum is the join of the floor and all `since` versions, the least version above them; so it is not
below the floor, it has not decreased along the list, and no other part of the uses counts for it,
such as the versions of deprecation.  There is a hit for exactly the symbols that are used.  A hit has
the lifespan of the first use of its symbol, and its places are exactly those of the uses of the symbol,
in strictly increasing order of the bytes of the file and then of the line. -/
theorem recordAll_collects (floor : Version) (us : List Use) :
    let r := (start floor).recordAll us
    r.minimum = Version.joinAll floor (us.map (·.lifespan.since)) ∧
    (∀ v, (compare r.minimum v).isLE ↔
      (compare floor v).isLE ∧ ∀ u ∈ us, (compare u.lifespan.since v).isLE) ∧
    (compare floor r.minimum).isLE ∧
    (∀ before, before <+: us → (compare ((start floor).recordAll before).minimum r.minimum).isLE) ∧
    (∀ vs : List Use, vs.map (·.lifespan.since) = us.map (·.lifespan.since) →
      ((start floor).recordAll vs).minimum = r.minimum) ∧
    (∀ s, s ∈ r.hits.keys ↔ ∃ u ∈ us, u.symbol = s) ∧
    ∀ s hit, r.get? s = some hit →
      (∃ before u after, us = before ++ u :: after ∧ u.symbol = s ∧ (∀ v ∈ before, v.symbol ≠ s) ∧
        hit.lifespan = u.lifespan) ∧
      hit.locations.keys.Pairwise Location.Precedes ∧
      ∀ l, l ∈ hit.locations.keys ↔ ∃ u ∈ us, u.symbol = s ∧ u.location = l := by
  intro r
  have hminimum : ∀ vs : List Use, ((start floor).recordAll vs).minimum =
      Version.joinAll floor (vs.map (·.lifespan.since)) := fun vs => minimum_recordAll vs _
  refine ⟨hminimum us, minimum_recordAll_isLE_iff, isLE_minimum_recordAll (start floor) us,
    fun before => isLE_minimum_of_prefix, fun vs h => ?_, fun s => mem_keys_hits_iff, fun s hit h => ?_⟩
  · rw [hminimum, h, hminimum]
  · exact ⟨exists_first_use h, pairwise_locations hit, mem_locations_iff h⟩

/-- Three uses of a function, two of them at one place; the second one knows of a deprecation. -/
theorem recordAll_collects_repeated :
    let f : Symbol := .function "f"
    let us : List Use := [⟨f, ⟨⟨[5, 0], none⟩, none⟩, ⟨"😀.php", 2⟩⟩,
      ⟨f, ⟨⟨[4, 9], none⟩, some ⟨[6, 5], none⟩⟩, ⟨"ｚ.php", 9⟩⟩, ⟨f, ⟨⟨[5, 0], none⟩, none⟩, ⟨"😀.php", 2⟩⟩]
    let r := (start ⟨[1, 0], none⟩).recordAll us
    let hit : Hit := ⟨⟨⟨[5, 0], none⟩, none⟩, .ofList [(⟨"ｚ.php", 9⟩, ()), (⟨"😀.php", 2⟩, ())]⟩
    r.get? f = some hit ∧ hit.locations.keys = [⟨"ｚ.php", 9⟩, ⟨"😀.php", 2⟩] ∧
      Location.Precedes ⟨"ｚ.php", 9⟩ ⟨"😀.php", 2⟩ ∧ r.minimum = ⟨[5, 0], none⟩ := by
  intro f us r hit
  have hget : r.get? f = some hit := by decide +kernel
  have hkeys : hit.locations.keys = [⟨"ｚ.php", 9⟩, ⟨"😀.php", 2⟩] := by decide +kernel
  obtain ⟨hminimum, _, _, _, _, _, hhits⟩ := recordAll_collects ⟨[1, 0], none⟩ us
  have hsorted := (hhits f hit hget).2.1
  rw [hkeys] at hsorted
  refine ⟨hget, hkeys, List.rel_of_pairwise_cons hsorted List.mem_cons_self, hminimum.trans ?_⟩
  cbv

end Report

end RequiredVersion
