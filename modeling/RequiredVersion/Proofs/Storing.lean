import RequiredVersion.Cache.Store
import RequiredVersion.Index.Build
import RequiredVersion.Proofs.FileChanges
import RequiredVersion.Proofs.Runs

/-! # Files that are stored

Indexes, caches and archives are stored in one way: the directories above the file are made, then the
file is written (`Run.store`).  Whether this fails or not, nothing changes but that directories are
made on the way and the file is written at its end (`Run.stores_store`).  What was stored is read back
(`Run.read_of_store`). -/

namespace RequiredVersion

open FileSystem

/-- Directories are made on the way of a path, and a file is written at its end. -/
def FileSystem.Stores (fs : FileSystem) (path : Path) : FileSystem → Prop :=
  Grows (· ∈ fs.way path) (fun place => place ∈ fs.way path ∧ fs.goal? path = some place) fs

namespace Run

variable {ε : Type} {onError : Path → Cause → ε} {path : Path} {content : Content}

/-- Writes a file, making the directories it needs. -/
def store (onError : Path → Cause → ε) (path : Path) (content : Content) : Run ε Unit := do
  match path.parent? with
  | some dir => Run.makeDirectories (onError dir) dir
  | none => pure ()
  Run.change (onError path) (fun fs => fs.write path content)

theorem store_of_parent {dir : Path} (h : path.parent? = some dir) :
    store onError path content = (do
      Run.makeDirectories (onError dir) dir
      Run.change (onError path) (fun fs => fs.write path content)) := by
  rw [store, h]

theorem store_of_no_parent (h : path.parent? = none) :
    store onError path content = Run.change (onError path) (fun fs => fs.write path content) := by
  rw [store, h]

theorem stores_store {fs : FileSystem} : Keeps (fs.Stores path) (store onError path content) := by
  have hwrite : Keeps (fs.Stores path)
      (Run.change (onError path) (fun fs => fs.write path content)) := by
    refine .change (fun fs₁ fs₂ hgrows h => hgrows.trans ?_)
    refine (write_grows h).mono (fun _ => False.elim) (fun place hplace => ?_)
    rwa [hgrows.way_eq, hgrows.goal?_eq] at hplace
  cases hparent : path.parent? with
  | none =>
      rw [store_of_no_parent hparent]
      exact hwrite
  | some dir =>
      rw [store_of_parent hparent]
      refine .bind (.makeDirectories (fun fs₁ hgrows => hgrows.trans ?_)) (fun _ => hwrite)
      refine (makeDirectories_grows fs₁ dir).mono (fun place hplace => ?_) (fun _ => False.elim)
      rw [hgrows.way_eq] at hplace
      exact (way_parent? hparent).subset hplace

theorem read_of_store {s s' : Session}
    (h : (store onError path content).outcome.run s = (.ok (), s')) :
    s'.files.read path = .ok content := by
  cases hparent : path.parent? with
  | none =>
      rw [store_of_no_parent hparent] at h
      exact read_write (run_change_ok h)
  | some dir =>
      rw [store_of_parent hparent] at h
      obtain ⟨_, s₁, _, h⟩ := run_bind_ok h
      exact read_write (run_change_ok h)

end Run

theorem Index.save_eq (i : Index) (path : Path) :
    i.save path = (do
      Run.store .io path (.bytes i.document.toUTF8)
      Run.note area .info ("Stored version index at " ++ path.quoted)) := by
  unfold save Run.store
  cases path.parent? with
  | none => rfl
  | some dir => exact (bind_assoc _ _ _).symm

theorem Cache.save_eq {α : Type} (format : Format α) {c : Cache α} {path : Path}
    (h : c.path = some path) :
    c.save format = (do
      Run.store CacheFailure.mk path (.bytes (c.document format).toUTF8)
      Run.note area .info ("Saved " ++ Text.decimalText c.entries.size ++
        " cache entries to " ++ path.quoted)) := by
  unfold save Run.store
  rw [h]
  dsimp only
  cases path.parent? with
  | none => rfl
  | some dir => exact (bind_assoc _ _ _).symm

end RequiredVersion
