import RequiredVersion.Check
import RequiredVersion.Proofs.Runs

/-! # What the user gave

All that the user gave is looked at before anything else is done.  `Checker.validate_error_iff` says
when it is refused.  Once it has been accepted a run can fail only for other reasons: `FailsAs P x`
says that all failures of `x` have the property `P`, and is shown step by step.

`Checker.run_isUserInput_iff` puts both together: a run fails because of the user's input exactly if
something is wrong with it, and then nothing at all has been done. -/

namespace RequiredVersion

namespace Run

/-- All failures of the run have the property. -/
def FailsAs {ε α : Type} (P : ε → Prop) (x : Run ε α) : Prop :=
  ∀ s e s', x.outcome.run s = (.error e, s') → P e

namespace FailsAs

variable {ε ε' α β : Type} {P : ε → Prop}

theorem bind {x : Run ε α} {f : α → Run ε β} (hx : FailsAs P x) (hf : ∀ a, FailsAs P (f a)) :
    FailsAs P (x >>= f) := by
  intro s e s' h
  rcases run_bind_error h with h | ⟨a, s₁, _, h⟩
  · exact hx s e s' h
  · exact hf a s₁ e s' h

theorem pure (a : α) : FailsAs P (Pure.pure a : Run ε α) := fun _ _ _ h => by cases h

theorem throw {e : ε} (h : P e) : FailsAs P (MonadExcept.throw e : Run ε α) := by
  intro s e' s' hrun
  cases hrun
  exact h

theorem liftM (x : Action α) : FailsAs P (liftM x : Run ε α) := by
  intro s e s' h
  rw [run_liftM] at h
  cases h

theorem note (area : Area) (level : Level) (message : String) :
    FailsAs P (Run.note area level message : Run ε Unit) := liftM _

theorem lift {f : ε' → ε} (h : ∀ e, P (f e)) (x : Run ε' α) : FailsAs P (Run.lift f x) := by
  intro s e s' hrun
  rw [run_lift] at hrun
  rcases hx : (x.outcome.run s).1 with e' | a
  · rw [hx] at hrun
    cases hrun
    exact h e'
  · rw [hx] at hrun
    cases hrun

end FailsAs

end Run

namespace Checker

open Run

/-! ### Looking at the input -/

/-- A part of the input is refused exactly if something is wrong with it, and the failure says that
this is the input. -/
structure Judges {α : Type} (x : Except CheckFailure α) (wrong : Prop) : Prop where
  ok : ¬ wrong → ∃ a, x = .ok a
  error : wrong → ∃ e, x = .error e ∧ e.isUserInput = true

namespace Judges

variable {α β : Type} {x : Except CheckFailure α} {p q : Prop}

/-- Of two parts the second is looked at if the first is accepted. -/
theorem bind {f : α → Except CheckFailure β} (hx : Judges x p)
    (hf : ∀ a, x = .ok a → Judges (f a) q) : Judges (x >>= f) (p ∨ q) := by
  by_cases hp : p
  · obtain ⟨e, rfl, he⟩ := hx.error hp
    exact ⟨fun h => absurd (.inl hp) h, fun _ => ⟨e, rfl, he⟩⟩
  · obtain ⟨a, rfl⟩ := hx.ok hp
    exact ⟨fun h => (hf a rfl).ok (fun hq => h (.inr hq)),
      fun h => (hf a rfl).error (h.resolve_left hp)⟩

theorem accept (a : α) (h : ¬ p) : Judges (.ok a) p := ⟨fun _ => ⟨a, rfl⟩, fun hp => absurd hp h⟩

theorem refuse {e : CheckFailure} (he : e.isUserInput = true) (h : p) :
    Judges (.error e : Except CheckFailure α) p :=
  ⟨fun hp => absurd h hp, fun _ => ⟨e, rfl, he⟩⟩

theorem congr (h : Judges x p) (hpq : p ↔ q) : Judges x q := propext hpq ▸ h

theorem wrong {e : CheckFailure} (h : Judges (.error e : Except CheckFailure α) p) : p :=
  Classical.byContradiction (fun hp => by
    obtain ⟨_, hok⟩ := h.ok hp
    cases hok)

end Judges

/-- The directories that are meant; without any it is the current one. -/
def meant (dirs : List Path) : List Path := if dirs.isEmpty then [⟨"."⟩] else dirs

/-- The path leads to a directory, which can be used by its own path. -/
def LeadsToDirectory (fs : FileSystem) (dir : Path) : Prop :=
  ∃ p, fs.canonical dir = .ok p ∧ fs.isDirectory p = true

/-- A version was given that cannot be read. -/
def IsUnreadable (given : Option String) : Prop :=
  ∃ text, given = some text ∧ Version.parse? text = none

theorem judges_mapM {α β : Type} {f : α → Except CheckFailure β} {wrong : α → Prop}
    (h : ∀ a, Judges (f a) (wrong a)) : ∀ l : List α, Judges (l.mapM f) (∃ a ∈ l, wrong a)
  | [] => .accept [] (by simp)
  | a :: l => by
      rw [List.mapM_cons]
      refine ((h a).bind (q := ∃ a ∈ l, wrong a) (fun b _ => ?_)).congr (by simp)
      exact ((judges_mapM h l).bind (fun bs _ => .accept (b :: bs) id)).congr (by simp)

theorem judges_resolveDirs (fs : FileSystem) (dirs : List Path) :
    Judges (resolveDirs fs dirs) (∃ dir ∈ meant dirs, ¬ LeadsToDirectory fs dir) := by
  refine judges_mapM (fun dir => ?_) (meant dirs)
  cases hcanonical : fs.canonical dir with
  | error e => exact .refuse rfl (by simp [LeadsToDirectory, hcanonical])
  | ok p =>
      dsimp only
      split
      · next hp => exact .accept p (fun h => h ⟨p, hcanonical, hp⟩)
      · next hp => exact .refuse rfl (by simpa [LeadsToDirectory, hcanonical] using hp)

theorem judges_givenVersion (given : Option String) :
    Judges (givenVersion given) (IsUnreadable given) := by
  unfold IsUnreadable
  cases given with
  | none => exact .accept none (by simp)
  | some text =>
      rw [givenVersion, Version.parse]
      cases hread : Version.ofChars? text.toList with
      | none => exact .refuse rfl ⟨text, rfl, hread⟩
      | some v => exact .accept (some v) (by simp [Version.parse?, hread])

theorem givenVersion_eq_none {given : Option String} {version : Option Version}
    (h : givenVersion given = .ok version) : version = none ↔ given = none := by
  cases given with
  | none =>
      cases h
      simp
  | some text =>
      rw [givenVersion] at h
      cases hparse : Version.parse text with
      | error e =>
          rw [hparse] at h
          cases h
      | ok v =>
          rw [hparse] at h
          cases h
          simp

/-- When the input is refused. -/
theorem judges_validate (c : Checker) (fs : FileSystem) (dirs : List Path) (options : CheckOptions) :
    Judges (c.validate fs dirs options) ((∃ dir ∈ meant dirs, ¬ LeadsToDirectory fs dir) ∨
      IsUnreadable options.wordpress ∨ IsUnreadable options.php ∨
      (options.updateFilesOnly = true ∧ options.wordpress = none ∧ options.php = none) ∨
      (options.updateFilesOnly = false ∧ IsUnreadable (some c.settings.floorVersion))) := by
  refine (judges_resolveDirs fs dirs).bind (fun found _ => ?_)
  refine (judges_givenVersion options.wordpress).bind (fun wordpress hwordpress => ?_)
  refine (judges_givenVersion options.php).bind (fun php hphp => ?_)
  dsimp only
  rw [← givenVersion_eq_none hwordpress, ← givenVersion_eq_none hphp]
  cases options.updateFilesOnly with
  | true =>
      have hempty : (⟨wordpress, php⟩ : Requirements).isEmpty = true ↔ wordpress = none ∧ php = none := by
        simp [Requirements.isEmpty]
      rw [if_pos rfl]
      split
      · next h => exact .refuse rfl (.inl ⟨rfl, hempty.mp h⟩)
      · next h => exact .accept _ (by simpa using fun hw hp => h (hempty.mpr ⟨hw, hp⟩))
  | false =>
      rw [if_neg (by simp)]
      refine ((judges_givenVersion (some c.settings.floorVersion)).bind
        (fun floor _ => .accept _ id)).congr (by simp)

/-! ### The parts of a check -/

/-- Writes the report of a directory, if that is wanted. -/
def saveIfWanted (options : CheckOptions) (report : Report) (dir : Path) :
    Run CheckFailure (Option Path) :=
  if options.saveReport then some <$> Run.lift .scan (report.save dir) else pure none

/-- Writes the versions into the files of a directory, if that is wanted. -/
def updateIfWanted (c : Checker) (options : CheckOptions) (given : Requirements) (report : Report)
    (dir : Path) : Run CheckFailure (List Path) :=
  if options.updateFiles then
    Run.lift .patching
      ({ given with wordpress := some (given.wordpress.getD report.minimum) : Requirements }.apply
        c.base dir)
  else pure []

theorem checkDir_eq (c : Checker) (options : CheckOptions) (given : Requirements) (scanner : Scanner)
    (dir : Path) : c.checkDir options given scanner dir = (do
      let (_, outcome) ← liftM (scanner.scan dir (Cache.inMemory.bypass c.settings.debug.noCache))
      match outcome with
      | .error e => throw (.scan e)
      | .ok report =>
        Run.note area .info
          ("Minimum WordPress version for " ++ dir.quoted ++ ": " ++ report.minimum.text)
        let reportPath ← saveIfWanted options report dir
        let updated ← c.updateIfWanted options given report dir
        return { dir, report := some report, reportPath, updated }) := by
  unfold checkDir saveIfWanted updateIfWanted
  cases options.saveReport <;> cases options.updateFiles <;> rfl

/-! ### What else can fail -/

section failures
variable {c : Checker} {options : CheckOptions}

/-- It is not the user's input that is wrong. -/
def NotInput (e : CheckFailure) : Prop := e.isUserInput = false

theorem failsAs_withoutCheck (existing : Option Index) (e : ReleaseFailure) :
    FailsAs NotInput (c.withoutCheck existing e) := by
  unfold withoutCheck
  cases existing with
  | some i => exact .bind (.note _ _ _) (fun _ => .pure i)
  | none =>
      refine .bind (.liftM _) (fun fs => ?_)
      cases c.depot.retained? fs with
      | some tree => exact .bind (.note _ _ _) (fun _ => .lift (by intro _; rfl) _)
      | none => exact .throw rfl

theorem failsAs_fetchIndex (existing : Option Index) (latest : Version) :
    FailsAs NotInput (c.fetchIndex existing latest) := by
  unfold fetchIndex
  refine .bind (.liftM _) (fun fetched => ?_)
  cases fetched with
  | ok tree => exact .lift (by intro _; rfl) _
  | error e =>
      cases existing with
      | some i => exact .bind (.note _ _ _) (fun _ => .pure i)
      | none => exact .throw rfl

theorem failsAs_checkedIndex (existing : Option Index) :
    FailsAs NotInput (c.checkedIndex options existing) := by
  unfold checkedIndex
  refine .bind (.liftM _) (fun checked => ?_)
  cases checked with
  | error e => exact failsAs_withoutCheck existing e
  | ok freshness =>
      cases freshness with
      | upToDate v =>
          cases existing with
          | some i => exact .pure i
          | none => exact failsAs_fetchIndex none v
      | outdated local? latest =>
          cases existing with
          | none => exact failsAs_fetchIndex none latest
          | some i =>
              dsimp only
              split
              · exact .bind (.note _ _ _) (fun _ => .pure i)
              · exact failsAs_fetchIndex (some i) latest

theorem failsAs_ensureIndex : FailsAs NotInput (c.ensureIndex options) := by
  unfold ensureIndex
  refine .bind (.liftM _) (fun existing => ?_)
  cases existing with
  | none => exact failsAs_checkedIndex none
  | some i =>
      dsimp only
      split
      · exact .bind (.note _ _ _) (fun _ => .pure i)
      · exact failsAs_checkedIndex (some i)

theorem failsAs_updateDirs (given : Requirements) : ∀ dirs : List Path,
    FailsAs NotInput (c.updateDirs given dirs)
  | [] => .pure []
  | dir :: rest => by
      unfold updateDirs
      exact .bind (.lift (by intro _; rfl) _)
        (fun _ => .bind (failsAs_updateDirs given rest) (fun _ => .pure _))

theorem failsAs_checkDir (given : Requirements) (scanner : Scanner) (dir : Path) :
    FailsAs NotInput (c.checkDir options given scanner dir) := by
  rw [checkDir_eq]
  refine .bind (.liftM _) (fun scanned => ?_)
  obtain ⟨_, e | report⟩ := scanned
  · exact .throw rfl
  · refine .bind (.note _ _ _) (fun _ => .bind ?_ (fun _ => .bind ?_ (fun _ => .pure _)))
    · unfold saveIfWanted
      split
      · exact .bind (.lift (by intro _; rfl) _) (fun _ => .pure _)
      · exact .pure none
    · unfold updateIfWanted
      split
      · exact .lift (by intro _; rfl) _
      · exact .pure []

theorem failsAs_checkDirs (given : Requirements) (scanner : Scanner) : ∀ dirs : List Path,
    FailsAs NotInput (c.checkDirs options given scanner dirs)
  | [] => .pure []
  | dir :: rest => by
      unfold checkDirs
      exact .bind (failsAs_checkDir given scanner dir)
        (fun _ => .bind (failsAs_checkDirs given scanner rest) (fun _ => .pure _))

end failures

/-! ### Runs -/

theorem run_of_validate_error {c : Checker} {dirs : List Path} {options : CheckOptions} {s : Session}
    {e : CheckFailure} (h : c.validate s.files dirs options = .error e) :
    (c.run dirs options).outcome.run s = (.error e, s) := by
  rw [run, Run.run_bind, Run.run_files]
  dsimp only
  rw [h]
  rfl

theorem run_error_of_validate_ok {c : Checker} {dirs : List Path} {options : CheckOptions}
    {s s' : Session} {input : Input} {e : CheckFailure}
    (h : c.validate s.files dirs options = .ok input)
    (hrun : (c.run dirs options).outcome.run s = (.error e, s')) : e.isUserInput = false := by
  rw [run, Run.run_bind, Run.run_files] at hrun
  dsimp only at hrun
  rw [h] at hrun
  dsimp only at hrun
  cases hfloor : input.floor with
  | none =>
      rw [hfloor] at hrun
      exact failsAs_updateDirs _ _ _ _ _ hrun
  | some floor =>
      rw [hfloor] at hrun
      exact FailsAs.bind failsAs_ensureIndex (fun _ => failsAs_checkDirs _ _ _) _ _ _ hrun

/-- **A run fails because of the user's input exactly if something is wrong with it, and then nothing has
been done.**  Wrong is a directory that leads to none (the current one counts if none is given), a given
version that cannot be read, the wish for updated files alone without a version, and, if there is to be
a scan, a least version in the settings that cannot be read.  Then the files are as they were, and the
source of releases has been asked for nothing. -/
theorem run_isUserInput_iff (c : Checker) (dirs : List Path) (options : CheckOptions) (s : Session) :
    ((∃ e s', (c.run dirs options).outcome.run s = (.error e, s') ∧ e.isUserInput = true) ↔
      (∃ dir ∈ meant dirs, ¬ LeadsToDirectory s.files dir) ∨
      IsUnreadable options.wordpress ∨ IsUnreadable options.php ∨
      (options.updateFilesOnly = true ∧ options.wordpress = none ∧ options.php = none) ∨
      (options.updateFilesOnly = false ∧ IsUnreadable (some c.settings.floorVersion))) ∧
    ∀ e s', (c.run dirs options).outcome.run s = (.error e, s') → e.isUserInput = true →
      s'.files = s.files ∧ s'.queries = s.queries ∧ s'.downloads = s.downloads := by
  have hjudges := judges_validate c s.files dirs options
  cases hvalidate : c.validate s.files dirs options with
  | error e =>
      have hrun := run_of_validate_error hvalidate
      rw [hvalidate] at hjudges
      refine ⟨⟨fun _ => hjudges.wrong, fun hwrong => ?_⟩, fun e' s' h _ => ?_⟩
      · obtain ⟨e', he', hinput⟩ := hjudges.error hwrong
        cases he'
        exact ⟨e, s, hrun, hinput⟩
      · rw [hrun] at h
        cases h
        exact ⟨rfl, rfl, rfl⟩
  | ok input =>
      rw [hvalidate] at hjudges
      have hother : ∀ e s', (c.run dirs options).outcome.run s = (.error e, s') →
          e.isUserInput ≠ true := fun e s' h => by
        rw [run_error_of_validate_ok hvalidate h]
        simp
      refine ⟨⟨fun ⟨e, s', h, he⟩ => absurd he (hother e s' h), fun hwrong => ?_⟩,
        fun e s' h he => absurd he (hother e s' h)⟩
      obtain ⟨_, herror, _⟩ := hjudges.error hwrong
      cases herror

end Checker

end RequiredVersion
