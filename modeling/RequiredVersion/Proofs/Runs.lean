import RequiredVersion.Session.Basic

/-! # What runs do to a session

A run is told by its outcome and the session that it leaves, `x.outcome.run s`.  The equations here
say that for the steps that runs are made of (`run_bind` for one after the other).

`Keeps P x` says that the property `P` of the files holds after `x` if it held before, whether `x`
fails or not.  `Action.Gives x fs a` says that `x` comes to `a` wherever the files are `fs`, and leaves
them alone.  Both are shown step by step. -/

namespace RequiredVersion

theorem Action.run_bind {α β : Type} (x : Action α) (f : α → Action β) (s : Session) :
    (x >>= f).run s = (f (x.run s).1).run (x.run s).2 := rfl

theorem Action.run_change (f : FileSystem → Except Cause FileSystem) (s : Session) :
    (change f).run s =
      match f s.files with
      | .ok fs => (.ok (), { s with files := fs })
      | .error e => (.error e, s) := by
  change (match f s.files with
    | .ok fs => (do Action.setFiles fs; return .ok () : Action (Except Cause Unit))
    | .error e => return .error e) s = _
  cases f s.files <;> rfl

namespace Run

variable {ε α β : Type}

/-! ### Steps -/

/-- One run after another: a failure of the first one ends both. -/
theorem run_bind (x : Run ε α) (f : α → Run ε β) (s : Session) :
    (x >>= f).outcome.run s =
      match x.outcome.run s with
      | (.ok a, s') => (f a).outcome.run s'
      | (.error e, s') => (.error e, s') := by
  change (ExceptT.bind x f).run s = _
  rw [ExceptT.bind]
  change (ExceptT.bindCont f (x.outcome.run s).1) (x.outcome.run s).2 = _
  rcases x.outcome.run s with ⟨e | a, s'⟩ <;> rfl

theorem run_bind_error {x : Run ε α} {f : α → Run ε β} {s s' : Session} {e : ε}
    (h : (x >>= f).outcome.run s = (.error e, s')) :
    x.outcome.run s = (.error e, s') ∨
      ∃ a s₁, x.outcome.run s = (.ok a, s₁) ∧ (f a).outcome.run s₁ = (.error e, s') := by
  rw [run_bind] at h
  rcases hx : x.outcome.run s with ⟨e' | a, s₁⟩
  · rw [hx] at h
    cases h
    exact .inl rfl
  · rw [hx] at h
    exact .inr ⟨a, s₁, rfl, h⟩

/-- One run after another succeeds only if both do. -/
theorem run_bind_ok {x : Run ε α} {f : α → Run ε β} {s s' : Session} {b : β}
    (h : (x >>= f).outcome.run s = (.ok b, s')) :
    ∃ a s₁, x.outcome.run s = (.ok a, s₁) ∧ (f a).outcome.run s₁ = (.ok b, s') := by
  rw [run_bind] at h
  rcases hx : x.outcome.run s with ⟨e' | a, s₁⟩
  · rw [hx] at h
    cases h
  · rw [hx] at h
    exact ⟨a, s₁, rfl, h⟩

theorem run_note (area : Area) (level : Level) (message : String) (s : Session) :
    (note area level message : Run ε Unit).outcome.run s =
      (.ok (), { s with log := s.log ++ [⟨area, level, message⟩] }) := rfl

theorem run_files (s : Session) : (files : Run ε FileSystem).outcome.run s = (.ok s.files, s) := rfl

theorem run_liftM (x : Action α) (s : Session) :
    (liftM x : Run ε α).outcome.run s = (.ok (x.run s).1, (x.run s).2) := rfl

theorem run_change (onError : Cause → ε) (f : FileSystem → Except Cause FileSystem) (s : Session) :
    (change onError f).outcome.run s =
      match f s.files with
      | .ok fs => (.ok (), { s with files := fs })
      | .error e => (.error (onError e), s) := by
  rw [change, ofAction, run_bind, run_liftM, Action.run_change]
  cases f s.files <;> rfl

theorem run_lift {ε' : Type} (f : ε → ε') (x : Run ε α) (s : Session) :
    (lift f x).outcome.run s = ((x.outcome.run s).1.mapError f, (x.outcome.run s).2) := rfl

theorem run_change_ok {onError : Cause → ε} {f : FileSystem → Except Cause FileSystem}
    {s s' : Session} (h : (change onError f).outcome.run s = (.ok (), s')) :
    f s.files = .ok s'.files := by
  rw [run_change] at h
  cases hf : f s.files with
  | ok fs =>
      rw [hf] at h
      cases h
      rfl
  | error e =>
      rw [hf] at h
      cases h

theorem run_change_error {onError : Cause → ε} {f : FileSystem → Except Cause FileSystem}
    {s s' : Session} {e : ε} (h : (change onError f).outcome.run s = (.error e, s')) :
    s' = s ∧ ∃ cause, f s.files = .error cause ∧ e = onError cause := by
  rw [run_change] at h
  cases hf : f s.files with
  | ok fs =>
      rw [hf] at h
      cases h
  | error cause =>
      rw [hf] at h
      cases h
      exact ⟨rfl, cause, rfl, rfl⟩

theorem run_makeDirectories (onError : Cause → ε) (p : Path) (s : Session) :
    (makeDirectories onError p).outcome.run s =
      match s.files.makeDirectories p with
      | (.ok (), fs) => (.ok (), { s with files := fs })
      | (.error e, fs) => (.error (onError e), { s with files := fs }) := by
  have hmake : (Action.makeDirectories p).run s =
      ((s.files.makeDirectories p).1, { s with files := (s.files.makeDirectories p).2 }) := rfl
  rw [makeDirectories, ofAction, run_bind, run_liftM, hmake]
  rcases s.files.makeDirectories p with ⟨e | _, fs⟩ <;> rfl

theorem run_makeDirectories_ok {onError : Cause → ε} {p : Path} {s s' : Session}
    (h : (makeDirectories onError p).outcome.run s = (.ok (), s')) :
    s.files.makeDirectories p = (.ok (), s'.files) := by
  rw [run_makeDirectories] at h
  rcases hmake : s.files.makeDirectories p with ⟨e | _, fs⟩
  · rw [hmake] at h
    cases h
  · rw [hmake] at h
    cases h
    rfl

/-! ### Properties that runs keep -/

/-- The property holds of the files after the run if it held before. -/
def Keeps (P : FileSystem → Prop) (x : Run ε α) : Prop :=
  ∀ s, P s.files → P (x.outcome.run s).2.files

namespace Keeps

variable {P : FileSystem → Prop}

theorem bind {x : Run ε α} {f : α → Run ε β} (hx : Keeps P x) (hf : ∀ a, Keeps P (f a)) :
    Keeps P (x >>= f) := by
  intro s hs
  have hmid := hx s hs
  rw [run_bind]
  generalize x.outcome.run s = r at hmid
  obtain ⟨e | a, s'⟩ := r
  · exact hmid
  · exact hf a s' hmid

theorem pure (a : α) : Keeps P (Pure.pure a : Run ε α) := fun _ hs => hs

theorem throw (e : ε) : Keeps P (MonadExcept.throw e : Run ε α) := fun _ hs => hs

theorem note (area : Area) (level : Level) (message : String) :
    Keeps P (Run.note area level message : Run ε Unit) := fun _ hs => hs

theorem lift {ε' : Type} {f : ε → ε'} {x : Run ε α} (h : Keeps P x) : Keeps P (Run.lift f x) := h

theorem modify {f : Session → Session} (h : ∀ s, (f s).files = s.files) :
    Keeps P (modify f : Run ε Unit) := fun s hs => (h s).symm ▸ hs

theorem notes (records : List Record) : Keeps P (liftM (Action.notes records) : Run ε Unit) :=
  fun _ hs => hs

theorem files : Keeps P (Run.files : Run ε FileSystem) := fun _ hs => hs

theorem change {onError : Cause → ε} {f : FileSystem → Except Cause FileSystem}
    (h : ∀ fs fs', P fs → f fs = .ok fs' → P fs') : Keeps P (Run.change onError f) := by
  intro s hs
  rw [run_change]
  cases hf : f s.files with
  | ok fs => exact h s.files fs hs hf
  | error e => exact hs

theorem makeDirectories {onError : Cause → ε} {p : Path}
    (h : ∀ fs, P fs → P (fs.makeDirectories p).2) : Keeps P (Run.makeDirectories onError p) := by
  intro s hs
  have hmade := h s.files hs
  rw [run_makeDirectories]
  generalize s.files.makeDirectories p = r at hmade
  obtain ⟨e | _, fs⟩ := r
  · exact hmade
  · exact hmade

end Keeps

end Run

/-! ### Actions that leave the files alone -/

/-- In every session with the given files the action comes to `a`, and the files stay. -/
def Action.Gives {α : Type} (x : Action α) (fs : FileSystem) (a : α) : Prop :=
  ∀ s : Session, s.files = fs → (x.run s).1 = a ∧ (x.run s).2.files = fs

namespace Action.Gives

variable {α β : Type} {fs : FileSystem}

theorem pure (a : α) : Gives (Pure.pure a) fs a := fun _ hs => ⟨rfl, hs⟩

theorem bind {x : Action α} {f : α → Action β} {a : α} {b : β} (hx : x.Gives fs a)
    (hf : (f a).Gives fs b) : (x >>= f).Gives fs b := by
  intro s hs
  obtain ⟨ha, hfiles⟩ := hx s hs
  rw [run_bind, ha]
  exact hf _ hfiles

theorem note (area : Area) (level : Level) (message : String) :
    (Action.note area level message).Gives fs () := fun _ hs => ⟨rfl, hs⟩

theorem notes (records : List Record) : (Action.notes records).Gives fs () := fun _ hs => ⟨rfl, hs⟩

theorem files : Action.files.Gives fs fs := fun _ hs => ⟨hs, hs⟩

theorem modify {f : Session → Session} (h : ∀ s, (f s).files = s.files) :
    Gives (modify f) fs () := fun s hs => ⟨rfl, (h s).trans hs⟩

end Action.Gives

end RequiredVersion
