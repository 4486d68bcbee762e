import RequiredVersion.Proofs.Fetching

/-! # Runs that cannot tell file systems apart

Two file systems are alike if they have the same at all places of a kind (`FileSystem.Alike`).  An
operation on a path whose way has such places only comes to the same on both, and leaves them alike.  Hence
so does a run made of such operations (`Run.Blind`): it is blind to what stands anywhere else.  Supplying an
archive and unpacking it are such runs (`Depot.supply_alike`, `Archive.extract_alike`). -/

namespace RequiredVersion

/-! ### Operations -/

namespace FileSystem

/-- The file systems have the same at all places with the property. -/
structure Alike (P : Place → Prop) (fs gs : FileSystem) : Prop where
  cwd_eq : gs.cwd = fs.cwd
  get?_eq : ∀ place, P place → gs.get? place = fs.get? place

/-- An operation on two file systems fails in the same way, or leaves file systems that are alike. -/
inductive SameOutcome (P : Place → Prop) : Except Cause FileSystem → Except Cause FileSystem → Prop where
  | ok {fs gs : FileSystem} (h : Alike P fs gs) : SameOutcome P (.ok fs) (.ok gs)
  | error (e : Cause) : SameOutcome P (.error e) (.error e)

namespace Alike

variable {P : Place → Prop} {fs gs : FileSystem} {p : Path}

theorem put (h : Alike P fs gs) {place : Place} (hne : place ≠ []) (entry : Entry) :
    Alike P (fs.put place entry) (gs.put place entry) := by
  refine ⟨h.cwd_eq, fun q hq => ?_⟩
  rw [get?_put _ hne, get?_put _ hne, h.get?_eq q hq]

theorem put_of_not (h : Alike P fs gs) {place : Place} (hne : place ≠ []) (hplace : ¬P place)
    (entry : Entry) : Alike P (fs.put place entry) gs := by
  refine ⟨h.cwd_eq, fun q hq => ?_⟩
  rw [get?_put _ hne, if_neg (by rintro rfl; exact hplace hq), h.get?_eq q hq]

section way
variable (h : Alike P fs gs) (hway : ∀ place ∈ fs.way p, P place)
include h hway

theorem route_eq : gs.route p = fs.route p := by
  rw [route, route, start, start, h.cwd_eq]
  exact routeSteps_congr _ (fun place hplace l => by rw [h.get?_eq place (hway place hplace)])

theorem resolve_eq (lookup : Lookup) : gs.resolve p lookup = fs.resolve p lookup :=
  resolve_congr h.cwd_eq (fun place hplace => h.get?_eq place (hway place hplace))

theorem read_eq : gs.read p = fs.read p := by
  rw [FileSystem.read, FileSystem.read, h.resolve_eq hway]

theorem isFile_eq : gs.isFile p = fs.isFile p := by
  rw [isFile, isFile, h.resolve_eq hway]

theorem leadsInto {dir : Place} (hleads : fs.LeadsInto p dir) : gs.LeadsInto p dir := by
  obtain ⟨k, harrives⟩ := hleads
  refine ⟨k, ?_⟩
  rw [show gs.start p = fs.start p by rw [start, start, h.cwd_eq]]
  exact harrives.congr (fun place hplace => h.get?_eq place (hway place hplace))

theorem write (content : Content) : SameOutcome P (fs.write p content) (gs.write p content) := by
  unfold FileSystem.write
  rw [h.resolve_eq hway]
  cases hresolve : fs.resolve p .creation with
  | error e => exact .error e
  | ok t =>
      cases t with
      | vacant dir name => exact .ok (h.put (by simp) _)
      | found place entry =>
          cases entry with
          | directory => exact .error _
          | link l => exact .error _
          | file c =>
              obtain ⟨_, ⟨_, hget⟩ | hdir⟩ := resolve_goal hresolve (fun l e => by cases e)
              · have hfile : fs.get? place = some (.file c) := hget
                exact .ok (h.put (ne_nil_of_get? (by rw [hfile]; simp)) _)
              · cases hdir

theorem makeDirectory : SameOutcome P (fs.makeDirectory p) (gs.makeDirectory p) := by
  have hway' : ∀ place ∈ fs.way (withoutSlashes p), P place := by
    rwa [way, route_withoutSlashes]
  unfold FileSystem.makeDirectory
  rw [h.resolve_eq hway']
  cases fs.resolve (withoutSlashes p) .entry with
  | error e => exact .error e
  | ok t =>
      cases t with
      | vacant dir name => exact .ok (h.put (by simp) _)
      | found place entry => exact .error _

theorem ensureDirectory : SameOutcome P (fs.ensureDirectory p) (gs.ensureDirectory p) := by
  have hmake := h.makeDirectory hway
  unfold FileSystem.ensureDirectory isDirectory
  rw [h.resolve_eq hway]
  generalize fs.makeDirectory p = r, gs.makeDirectory p = r' at hmake
  cases hmake with
  | ok h' => exact .ok h'
  | error e =>
      dsimp only
      split
      · exact .ok h
      · exact .error e

end way

/-- By induction on the fuel: the path above has a part of the way, and what is made there leaves the way
as it is. -/
theorem makeDirectoriesFrom : ∀ (fuel : Nat) {fs gs : FileSystem} {p : Path}, Alike P fs gs →
    (∀ place ∈ fs.way p, P place) →
    (makeDirectoriesFrom fuel gs p).1 = (makeDirectoriesFrom fuel fs p).1 ∧
      Alike P (makeDirectoriesFrom fuel fs p).2 (makeDirectoriesFrom fuel gs p).2
  | 0, _, _, _, h, _ => ⟨rfl, h⟩
  | fuel + 1, fs, gs, p, h, hway => by
      unfold FileSystem.makeDirectoriesFrom
      split
      · exact ⟨rfl, h⟩
      have hensure := h.ensureDirectory hway
      generalize fs.ensureDirectory p = r, gs.ensureDirectory p = r' at hensure
      cases hensure with
      | ok h' => exact ⟨rfl, h'⟩
      | error e =>
          cases e with
          | notFound =>
              dsimp only
              cases habove : p.parent? with
              | none => exact ⟨rfl, h⟩
              | some above =>
                  have hgrows := makeDirectoriesFrom_grows fuel fs above
                  obtain ⟨houtcome, h₁⟩ := makeDirectoriesFrom fuel h
                    (fun place hplace => hway place ((way_parent? habove).subset hplace))
                  dsimp only
                  generalize FileSystem.makeDirectoriesFrom fuel fs above = made at *
                  generalize FileSystem.makeDirectoriesFrom fuel gs above = made' at *
                  obtain ⟨outcome, fs₁⟩ := made
                  obtain ⟨outcome', gs₁⟩ := made'
                  obtain rfl : outcome' = outcome := houtcome
                  cases outcome' with
                  | error e => exact ⟨rfl, h₁⟩
                  | ok _ =>
                      have hlast := Alike.ensureDirectory (p := p) h₁
                        (by rw [hgrows.way_eq]; exact hway)
                      dsimp only at hlast ⊢
                      generalize fs₁.ensureDirectory p = r, gs₁.ensureDirectory p = r' at hlast
                      cases hlast with
                      | ok h₂ => exact ⟨rfl, h₂⟩
                      | error e => exact ⟨rfl, h₁⟩
          | _ => exact ⟨rfl, h⟩

theorem makeDirectories (h : Alike P fs gs) (hway : ∀ place ∈ fs.way p, P place) :
    (gs.makeDirectories p).1 = (fs.makeDirectories p).1 ∧
      Alike P (fs.makeDirectories p).2 (gs.makeDirectories p).2 :=
  makeDirectoriesFrom _ h hway

end Alike

/-- Directories were made and files written, anywhere: all ways are as they were. -/
def Grown : FileSystem → FileSystem → Prop := Grows (fun _ => True) (fun _ => True)

theorem Grows.grown {made written : Place → Prop} {fs fs' : FileSystem} (h : Grows made written fs fs') :
    Grown fs fs' := h.mono (fun _ _ => trivial) (fun _ _ => trivial)

end FileSystem

open FileSystem

/-! ### Runs -/

namespace Run

variable {ε α β : Type} {P : Place → Prop} {fs₀ : FileSystem} {path : Path}

/-- On files that have grown from `fs₀` and on files like them the run comes to the same, and leaves files
that are alike. -/
def Blind (P : Place → Prop) (fs₀ : FileSystem) (x : Run ε α) : Prop :=
  ∀ (s : Session) (gs : FileSystem), Grown fs₀ s.files → Alike P s.files gs →
    Grown fs₀ (x.outcome.run s).2.files ∧ ∃ gs', Alike P (x.outcome.run s).2.files gs' ∧
      x.outcome.run { s with files := gs } =
        ((x.outcome.run s).1, { (x.outcome.run s).2 with files := gs' })

namespace Blind

theorem bind {x : Run ε α} {f : α → Run ε β} (hx : Blind P fs₀ x) (hf : ∀ a, Blind P fs₀ (f a)) :
    Blind P fs₀ (x >>= f) := by
  intro s gs hgrown halike
  obtain ⟨hgrown', gs', halike', hrun⟩ := hx s gs hgrown halike
  rw [run_bind, run_bind, hrun]
  generalize x.outcome.run s = r at hgrown' halike'
  obtain ⟨e | a, s'⟩ := r
  · exact ⟨hgrown', gs', halike', rfl⟩
  · exact hf a s' gs' hgrown' halike'

theorem pure (a : α) : Blind P fs₀ (Pure.pure a : Run ε α) := fun _ gs hgrown halike =>
  ⟨hgrown, gs, halike, rfl⟩

theorem throw (e : ε) : Blind P fs₀ (MonadExcept.throw e : Run ε α) := fun _ gs hgrown halike =>
  ⟨hgrown, gs, halike, rfl⟩

theorem note (area : Area) (level : Level) (message : String) :
    Blind P fs₀ (Run.note area level message : Run ε Unit) := fun _ gs hgrown halike =>
  ⟨hgrown, gs, halike, rfl⟩

theorem notes (records : List Record) :
    Blind P fs₀ (liftM (Action.notes records) : Run ε Unit) := fun _ gs hgrown halike =>
  ⟨hgrown, gs, halike, rfl⟩

theorem count : Blind P fs₀ (modify (fun s => { s with downloads := s.downloads + 1 }) : Run ε Unit) :=
  fun _ gs hgrown halike => ⟨hgrown, gs, halike, rfl⟩

theorem write (onError : Cause → ε) (content : Content) (hway : ∀ place ∈ fs₀.way path, P place) :
    Blind P fs₀ (Run.change onError (fun fs => fs.write path content)) := by
  intro s gs hgrown halike
  have hsame := halike.write (by rw [hgrown.way_eq]; exact hway) content
  rw [run_change, run_change]
  dsimp only
  cases hwrite : s.files.write path content with
  | error e =>
      rw [hwrite] at hsame
      generalize gs.write path content = r at hsame
      cases hsame with
      | error e => exact ⟨hgrown, gs, halike, rfl⟩
  | ok fs' =>
      rw [hwrite] at hsame
      generalize gs.write path content = r at hsame
      cases hsame with
      | ok h => exact ⟨hgrown.trans (write_grows hwrite).grown, _, h, rfl⟩

theorem makeDirectories (onError : Cause → ε) (hway : ∀ place ∈ fs₀.way path, P place) :
    Blind P fs₀ (Run.makeDirectories onError path) := by
  intro s gs hgrown halike
  obtain ⟨houtcome, h⟩ := halike.makeDirectories (p := path) (by rw [hgrown.way_eq]; exact hway)
  have hgrown' := hgrown.trans (makeDirectories_grows s.files path).grown
  rw [run_makeDirectories, run_makeDirectories]
  dsimp only
  generalize s.files.makeDirectories path = made at *
  generalize gs.makeDirectories path = made' at *
  obtain ⟨outcome, fs₁⟩ := made
  obtain ⟨outcome', gs₁⟩ := made'
  obtain rfl : outcome' = outcome := houtcome
  cases outcome' with
  | error e => exact ⟨hgrown', gs₁, h, rfl⟩
  | ok _ => exact ⟨hgrown', gs₁, h, rfl⟩

theorem store {onError : Path → Cause → ε} {content : Content} (hway : ∀ place ∈ fs₀.way path, P place) :
    Blind P fs₀ (Run.store onError path content) := by
  cases hparent : path.parent? with
  | none =>
      rw [store_of_no_parent hparent]
      exact .write _ _ hway
  | some dir =>
      rw [store_of_parent hparent]
      refine .bind (.makeDirectories _ (fun place hplace => ?_)) (fun _ => .write _ _ hway)
      exact hway place ((way_parent? hparent).subset hplace)

end Blind

end Run

/-! ### Supplying an archive -/

namespace Depot

variable {d : Depot} {version : Version} {P : Place → Prop} {fs₀ : FileSystem}

theorem blind_download {dest : Path} (hway : ∀ place ∈ fs₀.way dest, P place) :
    Run.Blind P fs₀ (d.download version dest) := by
  rw [download_eq]
  refine .bind .count (fun _ => .bind (.notes _) (fun _ => .bind ?_ (fun _ => ?_)))
  · cases (d.source.download version).result.written with
    | none => exact .pure ()
    | some content => exact .store hway
  · cases (d.source.download version).result.failure with
    | none => exact .pure ()
    | some e => exact .throw e

theorem supply_alike {s : Session} {gs : FileSystem} (halike : Alike P s.files gs)
    (hway : ∀ place ∈ s.files.way (d.directory.archive version), P place) :
    ∃ gs', Alike P ((d.supply version).outcome.run s).2.files gs' ∧
      (d.supply version).outcome.run { s with files := gs } =
        (((d.supply version).outcome.run s).1,
          { ((d.supply version).outcome.run s).2 with files := gs' }) := by
  unfold supply
  rw [Run.run_bind, Run.run_files, Run.run_bind, Run.run_files]
  dsimp only
  rw [halike.isFile_eq hway]
  split
  · exact ⟨gs, halike, rfl⟩
  · exact (blind_download hway s gs (.refl s.files) halike).2

end Depot

/-! ### Unpacking an archive -/

namespace Archive

variable {P : Place → Prop} {fs₀ : FileSystem} {archive dest : Path}

theorem blind_writeData {target : Path} (data : ByteArray) (failure : Option Cause)
    (hway : ∀ place ∈ fs₀.way target, P place) : Run.Blind P fs₀ (writeData target data failure) := by
  unfold writeData
  refine .bind (.write _ _ hway) (fun _ => ?_)
  split
  · exact .throw _
  · exact .pure 1

theorem blind_writeMember {name : String} {member : Member}
    (hway : isSafe name = true → ∀ place ∈ fs₀.way (dest.join (memberPath name)), P place) :
    Run.Blind P fs₀ (writeMember archive dest name member) := by
  unfold writeMember
  split
  · exact .throw _
  dsimp only
  split
  · exact .bind (.note _ _ _) (fun _ => .pure 0)
  next hunsafe =>
  have hway := hway (by simpa using hunsafe)
  split
  · exact .pure 0
  split
  · exact .bind (.makeDirectories _ hway) (fun _ => .pure 0)
  split
  · next above habove =>
      refine .bind (.makeDirectories _ (fun place hplace => ?_)) (fun _ => blind_writeData _ _ hway)
      exact hway place ((way_parent? habove).subset hplace)
  · exact blind_writeData _ _ hway

theorem blind_writeMembers : ∀ {members : List (String × Member)},
    (∀ m ∈ members, isSafe m.1 = true → ∀ place ∈ fs₀.way (dest.join (memberPath m.1)), P place) →
    Run.Blind P fs₀ (writeMembers archive dest members)
  | [], _ => .pure 0
  | (name, member) :: rest, h => by
      obtain ⟨hfirst, hrest⟩ := List.forall_mem_cons.mp h
      unfold writeMembers
      exact .bind (blind_writeMember hfirst) (fun n =>
        .bind (blind_writeMembers hrest) (fun k => .pure (n + k)))

/-- An archive is unpacked in the same way where the ways to it and to its members are the same. -/
theorem extract_alike (archive dest : Path) {s : Session} {gs : FileSystem} (halike : Alike P s.files gs)
    (hway : ∀ place ∈ s.files.way archive, P place)
    (hmembers : ∀ members, s.files.read archive = .ok (.archive members) →
      ∀ name ∈ members.map Prod.fst, isSafe name = true →
        ∀ place ∈ s.files.way (dest.join (memberPath name)), P place) :
    ∃ gs', Alike P ((extract archive dest).outcome.run s).2.files gs' ∧
      (extract archive dest).outcome.run { s with files := gs } =
        (((extract archive dest).outcome.run s).1,
          { ((extract archive dest).outcome.run s).2 with files := gs' }) := by
  unfold extract
  rw [Run.run_bind, Run.run_note, Run.run_bind, Run.run_note]
  dsimp only
  rw [Run.run_bind, Run.run_files, Run.run_bind, Run.run_files]
  dsimp only
  rw [halike.read_eq hway]
  split
  · exact ⟨gs, halike, rfl⟩
  · exact ⟨gs, halike, rfl⟩
  · exact ⟨gs, halike, rfl⟩
  · next members hread =>
      have hblind : Run.Blind P s.files (do
          let n ← writeMembers archive dest (distinct members)
          Run.note area .info ("Extracted " ++ Text.decimalText n ++ " files")
          return n) := by
        refine .bind (blind_writeMembers (fun m hm => ?_)) (fun n => .bind (.note _ _ _) (fun _ => .pure n))
        exact hmembers members hread m.1 ((mem_names_distinct m.1 members).mp (List.mem_map_of_mem hm))
      exact And.right (hblind _ gs (.refl s.files) halike)

end Archive

end RequiredVersion
