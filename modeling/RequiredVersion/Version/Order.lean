import RequiredVersion.Version.Basic

/-! # The order of versions

Numbers decide first, missing segments counting as zero; then a pre-release comes before the
version without a suffix, and two pre-releases compare by stage, number and text; at last the
shorter list of segments comes first.  So the order is total and only equal versions compare as
equal.  `Version.join` is the greater of two versions. -/

namespace RequiredVersion

/-- From the least to the most mature stage. -/
def Stage.rank : Stage → Nat
  | .dev => 0
  | .alpha => 1
  | .beta => 2
  | .rc => 3
  | .other => 4

instance : Ord Stage := ⟨fun a b => compare a.rank b.rank⟩

instance : Ord Suffix :=
  ⟨fun a b => (compare a.stage b.stage).then
    ((compare a.number b.number).then (compare a.raw b.raw))⟩

/-- Lexicographic comparison in which a list that ends counts on with zeros. -/
def comparePadded : List Nat → List Nat → Ordering
  | [], [] => .eq
  | a :: as, [] => (compare a 0).then (comparePadded as [])
  | [], b :: bs => (compare 0 b).then (comparePadded [] bs)
  | a :: as, b :: bs => (compare a b).then (comparePadded as bs)

/-- A version without suffix comes after every one with a suffix. -/
def compareSuffix : Option Suffix → Option Suffix → Ordering
  | none, none => .eq
  | none, some _ => .gt
  | some _, none => .lt
  | some a, some b => compare a b

instance : Ord Version :=
  ⟨fun a b => (comparePadded a.segments b.segments).then
    ((compareSuffix a.suffix b.suffix).then (compare a.segments.length b.segments.length))⟩

namespace Version

/-- The greater of two versions, the first where they are equal. -/
def join (a b : Version) : Version := if compare a b = .lt then b else a

/-- The join of a start value and a list of versions. -/
def joinAll (start : Version) (vs : List Version) : Version := vs.foldl join start

end Version

end RequiredVersion
