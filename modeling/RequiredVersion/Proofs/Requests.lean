import RequiredVersion.Proofs.IndexUpdates

/-! # Requests to the source of releases

A run asks the source for the latest version and may then have a release downloaded.  Nothing else that
it does asks for anything: `Quiet` says so of a step, and holds of all but two of them.

`Checker.Course` tells the ways on which a run comes to an index.  Every run takes one of them
(`ensureIndex_course`), and from it follows how often it asks for what, and which index it gives
(`ensureIndex_requests`). -/

namespace RequiredVersion

open FileSystem

/-- How often the source was asked for the latest version, and for a release. -/
def Session.requests (s : Session) : Nat × Nat := (s.queries, s.downloads)

/-! ### Steps that ask for nothing -/

/-- The action asks the source for nothing. -/
def Action.Quiet {α : Type} (x : Action α) : Prop := ∀ s, (x.run s).2.requests = s.requests

namespace Action.Quiet

variable {α β : Type}

theorem pure (a : α) : Quiet (Pure.pure a : Action α) := fun _ => rfl

theorem bind {x : Action α} {f : α → Action β} (hx : x.Quiet) (hf : ∀ a, (f a).Quiet) :
    (x >>= f).Quiet := fun s => (hf (x.run s).1 (x.run s).2).trans (hx s)

theorem note (area : Area) (level : Level) (message : String) :
    (Action.note area level message).Quiet := fun _ => rfl

theorem notes (records : List Record) : (Action.notes records).Quiet := fun _ => rfl

theorem files : Action.files.Quiet := fun _ => rfl

theorem modify {f : Session → Session} (h : ∀ s, (f s).requests = s.requests) :
    Quiet (modify f : Action Unit) := h

theorem change (f : FileSystem → Except Cause FileSystem) : (Action.change f).Quiet := by
  intro s
  rw [Action.run_change]
  cases f s.files <;> rfl

end Action.Quiet

/-- The run asks the source for nothing. -/
def Run.Quiet {ε α : Type} (x : Run ε α) : Prop := x.outcome.Quiet

namespace Run.Quiet

variable {ε ε' α β : Type}

theorem pure (a : α) : Quiet (Pure.pure a : Run ε α) := fun _ => rfl

theorem throw (e : ε) : Quiet (MonadExcept.throw e : Run ε α) := fun _ => rfl

/-- What follows quietly asks for no more than what went before. -/
theorem requests_bind {x : Run ε α} {f : α → Run ε β} (hf : ∀ a, Quiet (f a)) (s : Session) :
    ((x >>= f).outcome.run s).2.requests = (x.outcome.run s).2.requests := by
  rw [run_bind]
  rcases x.outcome.run s with ⟨e | a, s'⟩
  · rfl
  · exact hf a s'

theorem bind {x : Run ε α} {f : α → Run ε β} (hx : Quiet x) (hf : ∀ a, Quiet (f a)) :
    Quiet (x >>= f) := fun s => (requests_bind hf s).trans (hx s)

theorem liftM {x : Action α} (h : x.Quiet) : Quiet (liftM x : Run ε α) := h

theorem lift {f : ε → ε'} {x : Run ε α} (h : Quiet x) : Quiet (Run.lift f x) := h

theorem note (area : Area) (level : Level) (message : String) :
    Quiet (Run.note area level message : Run ε Unit) := fun _ => rfl

theorem files : Quiet (Run.files : Run ε FileSystem) := fun _ => rfl

theorem change {onError : Cause → ε} (f : FileSystem → Except Cause FileSystem) :
    Quiet (Run.change onError f) := by
  intro s
  rw [run_change]
  cases f s.files <;> rfl

theorem makeDirectories {onError : Cause → ε} (p : Path) :
    Quiet (Run.makeDirectories onError p) := by
  intro s
  rw [run_makeDirectories]
  rcases s.files.makeDirectories p with ⟨e | _, fs⟩ <;> rfl

theorem store {onError : Path → Cause → ε} (path : Path) (content : Content) :
    Quiet (Run.store onError path content) := by
  unfold Run.store
  cases path.parent? with
  | none => exact change _
  | some dir => exact .bind (makeDirectories dir) (fun _ => change _)

end Run.Quiet

/-! ### Files of the data directory -/

theorem Index.quiet_load (path : Path) : Run.Quiet (load path) := by
  unfold load
  refine .bind .files (fun fs => ?_)
  split
  · exact .pure none
  · exact .throw _
  · split
    · exact .throw _
    · exact .bind (.note _ _ _) (fun _ => .pure _)

theorem Index.quiet_save (i : Index) (path : Path) : Run.Quiet (i.save path) := by
  rw [Index.save_eq]
  exact .bind (.store _ _) (fun _ => .note _ _ _)

namespace Cache

variable {α : Type}

theorem quiet_load (format : Format α) (path : Path) : Run.Quiet (load format path) := by
  have hloaded : ∀ entries : SortedMap String (CacheEntry α), Run.Quiet (do
      Run.note area .info ("Loaded cache " ++ path.quoted ++ " with " ++
        Text.decimalText entries.size ++ " entries")
      return (⟨some path, entries, true, .empty⟩ : Cache α) : Run CacheFailure (Cache α)) :=
    fun _ => .bind (.note _ _ _) (fun _ => .pure _)
  unfold load
  refine .bind .files (fun fs => ?_)
  dsimp only
  split
  · split
    · exact .bind (.pure _) hloaded
    · exact .bind (.note _ _ _) (fun _ => .bind (.pure _) hloaded)
  · exact .bind (.pure _) hloaded
  · exact .bind (.throw _) hloaded

theorem quiet_save (format : Format α) (c : Cache α) : Run.Quiet (c.save format) := by
  cases hpath : c.path with
  | none =>
      unfold save
      rw [hpath]
      exact .pure ()
  | some path =>
      rw [Cache.save_eq format hpath]
      exact .bind (.store _ _) (fun _ => .note _ _ _)

theorem quiet_getOrExtract {ε : Type} (c : Cache α) (file : RawPath) (content : ByteArray)
    {extract : Action (Except ε α)} (h : extract.Quiet) :
    (c.getOrExtract file content extract).Quiet := by
  unfold getOrExtract
  split
  · exact .bind (.note _ _ _) (fun _ => .pure _)
  · refine .bind (.note _ _ _) (fun _ => .bind h (fun r => ?_))
    cases r <;> exact .pure _

end Cache

/-! ### Building an index -/

namespace Index

theorem quiet_ask (probe : Probe) : probe.ask.Quiet := by
  intro s
  unfold Probe.ask
  rw [Action.run_bind]
  split <;> rfl

theorem quiet_logNotes (probe : Probe) : ∀ notes, (logNotes probe notes).Quiet
  | [] => .pure ()
  | .asked :: rest => .bind (quiet_ask probe) (fun _ => quiet_logNotes probe rest)
  | .passedOver _ :: rest => .bind (.note _ _ _) (fun _ => quiet_logNotes probe rest)

theorem quiet_extract (grammar : Grammar) (probe : Probe) (text : String) :
    (extract grammar probe text).Quiet := by
  unfold extract
  refine .bind (.modify (fun _ => rfl)) (fun _ => ?_)
  cases grammar text with
  | error e => exact .pure _
  | ok root =>
      exact .bind (quiet_logNotes probe _) (fun _ => .bind (.note _ _ _) (fun _ => .pure _))

theorem quiet_addFiles (grammar : Grammar) (probe : Probe) : ∀ (files : List Path) (p : Progress),
    (addFiles grammar probe files p).Quiet
  | [], p => .pure _
  | file :: rest, p => by
      unfold addFiles
      refine .bind .files (fun fs => ?_)
      split
      · exact .pure _
      · refine .bind (Cache.quiet_getOrExtract _ _ _ (quiet_extract grammar probe _)) (fun r => ?_)
        obtain ⟨cache, found⟩ := r
        cases found with
        | ok table => exact quiet_addFiles grammar probe rest _
        | error e => exact .bind (.note _ _ _) (fun _ => quiet_addFiles grammar probe rest _)

theorem quiet_pruneCache (c : Cache SymbolTable) : (pruneCache c).Quiet := by
  unfold pruneCache
  dsimp only
  split
  · exact .bind (.note _ _ _) (fun _ => .pure _)
  · exact .pure _

theorem quiet_build (grammar : Grammar) (probe : Probe) (root : Path) (c : Cache SymbolTable) :
    (build grammar probe root c).Quiet := by
  unfold build
  refine .bind (.note _ _ _) (fun _ => .bind .files (fun fs => ?_))
  split
  · exact .pure _
  · refine .bind (quiet_addFiles grammar probe _ _) (fun r => ?_)
    obtain ⟨p, _ | e⟩ := r
    · refine .bind (quiet_pruneCache p.cache) (fun c => .bind .files (fun fs => ?_))
      split
      · exact .pure _
      · exact .bind (.note _ _ _) (fun _ => .pure _)
    · exact .pure _

end Index

/-! ### Releases -/

namespace Archive

theorem quiet_writeData (target : Path) (data : ByteArray) (failure : Option Cause) :
    Run.Quiet (writeData target data failure) := by
  unfold writeData
  refine .bind (.change _) (fun _ => ?_)
  split
  · exact .throw _
  · exact .pure 1

theorem quiet_writeMember (archive dest : Path) (name : String) (member : Member) :
    Run.Quiet (writeMember archive dest name member) := by
  unfold writeMember
  split
  · exact .throw _
  dsimp only
  split
  · exact .bind (.note _ _ _) (fun _ => .pure 0)
  · split
    · exact .pure 0
    · split
      · exact .bind (.makeDirectories _) (fun _ => .pure 0)
      · split
        · exact .bind (.makeDirectories _) (fun _ => quiet_writeData _ _ _)
        · exact quiet_writeData _ _ _

theorem quiet_writeMembers (archive dest : Path) : ∀ members : List (String × Member),
    Run.Quiet (writeMembers archive dest members)
  | [] => .pure 0
  | (name, member) :: rest =>
      .bind (quiet_writeMember archive dest name member)
        (fun _ => .bind (quiet_writeMembers archive dest rest) (fun _ => .pure _))

theorem quiet_extract (archive dest : Path) : Run.Quiet (extract archive dest) := by
  unfold extract
  refine .bind (.note _ _ _) (fun _ => .bind .files (fun fs => ?_))
  split
  · exact .throw _
  · exact .throw _
  · exact .throw _
  · exact .bind (quiet_writeMembers archive dest _) (fun _ => .bind (.note _ _ _) (fun _ => .pure _))

end Archive

namespace Depot

variable {d : Depot} {version : Version}

theorem quiet_install : Run.Quiet (d.install version) :=
  .bind (.change _) (fun _ => .bind (Archive.quiet_extract _ _)
    (fun _ => .bind (.change _) (fun _ => .change _)))

theorem quiet_finish : Run.Quiet (d.finish version) := by
  unfold finish
  split
  · refine .bind (.liftM (.change _)) (fun r => ?_)
    cases r with
    | ok _ => exact .bind (.note _ _ _) (fun _ => .pure _)
    | error e => exact .bind (.note _ _ _) (fun _ => .bind (.note _ _ _) (fun _ => .pure _))
  · exact .bind (.note _ _ _) (fun _ => .pure _)

theorem quiet_discard (tree : Path) : (d.discard tree).Quiet := by
  unfold discard
  split
  · exact .note _ _ _
  · refine .bind (Run.Quiet.change _) (fun r => ?_)
    cases r with
    | ok _ => exact .pure _
    | error e => exact .note _ _ _

theorem requests_download (dest : Path) (s : Session) :
    ((d.download version dest).outcome.run s).2.requests = (s.queries, s.downloads + 1) := by
  rw [download_eq, Run.run_bind]
  have hquiet : Run.Quiet (do
      liftM (Action.notes (d.source.download version).records)
      (d.source.download version).result.written.forM
        (Run.store (fun failed => ReleaseFailure.io (d.source.reported failed dest)) dest)
      (d.source.download version).result.failure.forM throw) := by
    refine .bind (.liftM (.notes _)) (fun _ => .bind ?_ (fun _ => ?_))
    · cases (d.source.download version).result.written with
      | none => exact .pure ()
      | some content => exact .store _ _
    · cases (d.source.download version).result.failure with
      | none => exact .pure ()
      | some e => exact .throw e
  exact hquiet _

/-- A release is downloaded once, unless its archive is there and kept. -/
theorem requests_fetch (s : Session) :
    ((d.fetch version).outcome.run s).2.requests =
      if d.keepArchive && s.files.isFile (d.directory.archive version) then s.requests
      else (s.queries, s.downloads + 1) := by
  have hsupply : ((d.supply version).outcome.run s).2.requests =
      if d.keepArchive && s.files.isFile (d.directory.archive version) then s.requests
      else (s.queries, s.downloads + 1) := by
    unfold supply
    rw [Run.run_bind, Run.run_files]
    dsimp only
    split
    · rfl
    · exact requests_download _ s
  rw [fetch_eq, Run.Quiet.requests_bind (fun _ => .bind quiet_install (fun _ => quiet_finish)), hsupply]

/-- The source has been asked for the latest version, and that is all. -/
structure Asked (s s' : Session) : Prop where
  files : s'.files = s.files
  queries : s'.queries = s.queries + 1
  downloads : s'.downloads = s.downloads

/-- What comes of comparing a version with the latest one. -/
def freshness (local? : Option Version) (latest : Version) : Freshness :=
  match local? with
  | some v => if (compare v latest).isGE then .upToDate v else .outdated (some v) latest
  | none => .outdated none latest

theorem latest_run (d : Depot) (s : Session) :
    ∃ s', d.latest.outcome.run s = (d.source.latest.result, s') ∧ Asked s s' := by
  refine ⟨{ s with queries := s.queries + 1, log := s.log ++ d.source.latest.records }, ?_,
    ⟨rfl, rfl, rfl⟩⟩
  unfold latest
  cases d.source.latest.result <;> rfl

/-- The source is asked once, and what is found out is told by its answer. -/
theorem check_run (d : Depot) (local? : Option Version) (s : Session) :
    ∃ s', (d.check local?).outcome.run s =
      (d.source.latest.result.map (freshness local?), s') ∧ Asked s s' := by
  have hnote : ∀ message : String, ∃ s', (do
      Run.note area .info message
      d.latest : Run ReleaseFailure Version).outcome.run s = (d.source.latest.result, s') ∧
        Asked s s' := by
    intro message
    rw [Run.run_bind, Run.run_note]
    obtain ⟨s', hrun, hasked⟩ := latest_run d
      { s with log := s.log ++ [⟨area, .info, message⟩] }
    exact ⟨s', hrun, hasked.files, hasked.queries, hasked.downloads⟩
  unfold check
  cases local? with
  | none =>
      obtain ⟨s', hrun, hasked⟩ := hnote "No WordPress version data found"
      refine ⟨s', ?_, hasked⟩
      dsimp only
      rw [← bind_assoc, Run.run_bind, hrun]
      cases d.source.latest.result <;> rfl
  | some v =>
      obtain ⟨s', hrun, hasked⟩ := hnote ("Local WordPress version: " ++ v.text)
      dsimp only
      rw [← bind_assoc, Run.run_bind, hrun]
      cases d.source.latest.result with
      | error e => exact ⟨s', rfl, hasked⟩
      | ok latest =>
          dsimp only [Except.map, freshness]
          split
          · exact ⟨_, rfl, hasked.files, hasked.queries, hasked.downloads⟩
          · exact ⟨s', rfl, hasked⟩

end Depot

namespace Checker

open DataDirectory Depot

variable {c : Checker} {options : CheckOptions} {existing : Option Index} {s : Session}

theorem loadIndex_eq_some_iff {i : Index} :
    (c.loadIndex.run s).1 = some i ↔ c.directory.HoldsIndex i s.files := by
  refine ⟨(loadIndex_run c s).2 i, fun ⟨bytes, hread, hdecode⟩ => ?_⟩
  obtain ⟨s', hload⟩ := Index.load_of_readBytes hread hdecode
  unfold loadIndex
  rw [Action.run_bind, hload]
  rfl

theorem quiet_loadIndex (c : Checker) : c.loadIndex.Quiet := by
  unfold loadIndex
  refine .bind (Index.quiet_load _) (fun r => ?_)
  cases r with
  | ok found => exact .pure _
  | error e => exact .bind (.note _ _ _) (fun _ => .pure _)

theorem quiet_rebuild (tree : Path) : Run.Quiet (c.rebuild tree) := by
  unfold rebuild
  refine .bind (.lift (Cache.quiet_load _ _)) (fun cache => ?_)
  refine .bind (.liftM (Index.quiet_build _ _ _ _)) (fun built => ?_)
  obtain ⟨cache, e | i⟩ := built
  · exact .throw _
  · exact .bind (Index.quiet_save i _) (fun _ => .bind (.lift (Cache.quiet_save _ _))
      (fun _ => .bind (.liftM (quiet_discard tree)) (fun _ => .pure i)))

theorem quiet_withoutCheck (e : ReleaseFailure) : Run.Quiet (c.withoutCheck existing e) := by
  unfold withoutCheck
  cases existing with
  | some i => exact .bind (.note _ _ _) (fun _ => .pure i)
  | none =>
      refine .bind .files (fun fs => ?_)
      split
      · exact .bind (.note _ _ _) (fun _ => .lift (quiet_rebuild _))
      · exact .throw _

theorem requests_fetchIndex (latest : Version) :
    ((c.fetchIndex existing latest).outcome.run s).2.requests =
      ((c.depot.fetch latest).outcome.run s).2.requests := by
  unfold fetchIndex
  rw [Run.Quiet.requests_bind, Run.run_liftM]
  intro fetched
  cases fetched with
  | ok tree => exact .lift (quiet_rebuild tree)
  | error e =>
      cases existing with
      | some i => exact .bind (.note _ _ _) (fun _ => .pure i)
      | none => exact .throw _

theorem fetchIndex_of_ok {latest : Version} {tree : Path} {s₁ : Session}
    (h : (c.depot.fetch latest).outcome.run s = (.ok tree, s₁)) :
    (c.fetchIndex existing latest).outcome.run s =
      (Run.lift .index (c.rebuild tree)).outcome.run s₁ := by
  unfold fetchIndex
  rw [Run.run_bind, Run.run_liftM, h]

theorem fetchIndex_of_error {i : Index} {latest : Version} {e : ReleaseFailure} {s₁ : Session}
    (h : (c.depot.fetch latest).outcome.run s = (.error e, s₁)) :
    ((c.fetchIndex (some i) latest).outcome.run s).1 = .ok i := by
  unfold fetchIndex
  rw [Run.run_bind, Run.run_liftM, h]
  rfl

/-! ### The ways to an index -/

/-- A release is to take the place of an index: the source is asked and offers it, the index is not to be
kept, and it has no version that is as great. -/
structure Supersedes (c : Checker) (options : CheckOptions) (latest : Version) (i : Index) : Prop where
  asks : options.skipUpdateCheck = false
  updates : options.skipUpdate = false
  offered : c.tools.source.latest.result = .ok latest
  newer : ∀ v, i.release = some v → compare v latest = .lt

/-- A run may come to an index in these ways, if it has found `existing` in its file. -/
inductive Course (c : Checker) (options : CheckOptions) (existing : Option Index) (s : Session)
    (r : Except CheckFailure Index × Session) : Prop
  /-- The source is not asked, since there is an index. -/
  | unasked (i : Index) (hskip : options.skipUpdateCheck = true) (hi : existing = some i)
      (hr : r.1 = .ok i) (hfiles : r.2.files = s.files) (hrequests : r.2.requests = s.requests)
  /-- The source does not answer. -/
  | unanswered (e : ReleaseFailure) (s₁ : Session)
      (hask : options.skipUpdateCheck = true → existing = none) (hasked : Asked s s₁)
      (hresult : c.tools.source.latest.result = .error e)
      (hr : r = (c.withoutCheck existing e).outcome.run s₁)
  /-- The index is as new as the latest version, or is to be kept. -/
  | kept (i : Index) (latest : Version) (hask : options.skipUpdateCheck = false)
      (hasked : Asked s r.2) (hresult : c.tools.source.latest.result = .ok latest)
      (hi : existing = some i)
      (hkeep : options.skipUpdate = true ∨ ∃ v, i.release = some v ∧ (compare v latest).isGE)
      (hr : r.1 = .ok i)
  /-- There is a newer version, or no index with one. -/
  | fetched (latest : Version) (s₁ : Session)
      (hask : options.skipUpdateCheck = true → existing = none) (hasked : Asked s s₁)
      (hresult : c.tools.source.latest.result = .ok latest)
      (hnewer : ∀ i, existing = some i → options.skipUpdate = false ∧
        ∀ v, i.release = some v → compare v latest = .lt)
      (hr : r = (c.fetchIndex existing latest).outcome.run s₁)

theorem asks_of_some {i : Index} (hask : options.skipUpdateCheck = true → some i = none) :
    options.skipUpdateCheck = false := by
  rw [← Bool.not_eq_true]
  exact fun h => by cases hask h

/-- An index that is not as new as the latest version is replaced, unless it is to be kept. -/
theorem outdated_course {i : Index} {latest : Version} {s₁ : Session}
    (hask : options.skipUpdateCheck = false) (hasked : Asked s s₁)
    (hresult : c.tools.source.latest.result = .ok latest)
    (hlt : ∀ v, i.release = some v → compare v latest = .lt) :
    Course c options (some i) s ((do
      if options.skipUpdate then
        Run.note area .info
          ("WordPress " ++ latest.text ++ " is available; keeping existing index")
        return i
      c.fetchIndex (some i) latest : Run CheckFailure Index).outcome.run s₁) := by
  cases hskip : options.skipUpdate with
  | true =>
      exact .kept i latest hask ⟨hasked.files, hasked.queries, hasked.downloads⟩ hresult rfl
        (.inl hskip) rfl
  | false =>
      refine .fetched latest s₁ (fun h => by rw [hask] at h; cases h) hasked hresult
        (fun j hj => ?_) rfl
      obtain rfl := Option.some.inj hj
      exact ⟨hskip, hlt⟩

theorem checkedIndex_course (hask : options.skipUpdateCheck = true → existing = none) :
    Course c options existing s ((c.checkedIndex options existing).outcome.run s) := by
  obtain ⟨s₁, hcheck, hasked⟩ := check_run c.depot (existing.bind Index.release) s
  change _ = (c.tools.source.latest.result.map _, s₁) at hcheck
  unfold checkedIndex
  rw [Run.run_bind, Run.run_liftM]
  cases hresult : c.tools.source.latest.result with
  | error e =>
      rw [hcheck, hresult]
      exact .unanswered e s₁ hask hasked hresult rfl
  | ok latest =>
      rw [hresult] at hcheck
      cases existing with
      | none =>
          rw [hcheck]
          exact .fetched latest s₁ hask hasked hresult (fun i hi => by cases hi) rfl
      | some i =>
          have hask : options.skipUpdateCheck = false := asks_of_some hask
          by_cases hkeep : ∃ v, i.release = some v ∧ (compare v latest).isGE = true
          · obtain ⟨v, hrelease, hge⟩ := hkeep
            have hfresh : freshness i.release latest = .upToDate v := by
              rw [hrelease, freshness, if_pos hge]
            rw [Option.bind_some, Except.map, hfresh] at hcheck
            rw [Option.bind_some, hcheck]
            exact .kept i latest hask hasked hresult rfl (.inr ⟨v, hrelease, hge⟩) rfl
          · have hlt : ∀ v, i.release = some v → compare v latest = .lt := by
              intro v hv
              have hge : ¬ (compare v latest).isGE = true := fun h => hkeep ⟨v, hv, h⟩
              cases hcompare : compare v latest <;> simp [hcompare] at hge ⊢
            have hfresh : freshness i.release latest = .outdated i.release latest := by
              cases hrelease : i.release with
              | none => rfl
              | some v => rw [freshness, hlt v hrelease, if_neg (by decide)]
            rw [Option.bind_some, Except.map, hfresh] at hcheck
            rw [Option.bind_some, hcheck]
            exact outdated_course hask hasked hresult hlt

theorem Course.of_same {s₁ : Session} {r : Except CheckFailure Index × Session}
    (h : Course c options existing s₁ r) (hfiles : s₁.files = s.files)
    (hrequests : s₁.requests = s.requests) : Course c options existing s r := by
  have hsame : ∀ {s₂}, Asked s₁ s₂ → Asked s s₂ := fun ⟨hf, hq, hd⟩ =>
    ⟨hf.trans hfiles, hq.trans (congrArg (·.1 + 1) hrequests), hd.trans (congrArg Prod.snd hrequests)⟩
  cases h with
  | unasked i hskip hi hr hf hq =>
      exact .unasked i hskip hi hr (hf.trans hfiles) (hq.trans hrequests)
  | unanswered e s₂ hask hasked hresult hr => exact .unanswered e s₂ hask (hsame hasked) hresult hr
  | kept i latest hask hasked hresult hi hkeep hr =>
      exact .kept i latest hask (hsame hasked) hresult hi hkeep hr
  | fetched latest s₂ hask hasked hresult hnewer hr =>
      exact .fetched latest s₂ hask (hsame hasked) hresult hnewer hr

/-- Every run takes one of the ways. -/
theorem ensureIndex_course (c : Checker) (options : CheckOptions) (s : Session) :
    Course c options (c.loadIndex.run s).1 s ((c.ensureIndex options).outcome.run s) := by
  have hfiles := (loadIndex_run c s).1
  have hrequests := quiet_loadIndex c s
  unfold ensureIndex
  rw [Run.run_bind, Run.run_liftM]
  rcases hload : c.loadIndex.run s with ⟨existing, s₁⟩
  rw [hload] at hfiles hrequests
  refine Course.of_same ?_ hfiles hrequests
  cases existing with
  | none => exact checkedIndex_course (fun _ => rfl)
  | some i =>
      dsimp only
      split
      · next hskip => exact .unasked i hskip rfl rfl rfl rfl
      · next hskip => exact checkedIndex_course (fun h => absurd h hskip)

namespace Course

variable {r : Except CheckFailure Index × Session}

theorem requests_fetched (c : Checker) (existing : Option Index) (latest : Version) {s₁ : Session}
    (hasked : Asked s s₁) :
    ((c.fetchIndex existing latest).outcome.run s₁).2.requests =
      if c.settings.debug.keepArchive && s.files.isFile (c.directory.archive latest) then
        (s.queries + 1, s.downloads)
      else (s.queries + 1, s.downloads + 1) := by
  rw [requests_fetchIndex, requests_fetch, hasked.files, hasked.queries, hasked.downloads,
    Session.requests, hasked.queries, hasked.downloads]
  rfl

theorem queries (h : Course c options existing s r) :
    (r.2.queries = s.queries ∧ options.skipUpdateCheck = true ∧ ∃ i, existing = some i) ∨
      (r.2.queries = s.queries + 1 ∧ (options.skipUpdateCheck = true → existing = none)) := by
  cases h with
  | unasked i hskip hi hr hfiles hrequests =>
      exact .inl ⟨congrArg Prod.fst hrequests, hskip, i, hi⟩
  | unanswered e s₁ hask hasked hresult hr =>
      have hquiet : r.2.requests = s₁.requests := by
        rw [hr]
        exact quiet_withoutCheck e s₁
      exact .inr ⟨(congrArg Prod.fst hquiet).trans hasked.queries, hask⟩
  | kept i latest hask hasked hresult hi hkeep hr =>
      exact .inr ⟨hasked.queries, fun h => by rw [hask] at h; cases h⟩
  | fetched latest s₁ hask hasked hresult hnewer hr =>
      have hrequests := requests_fetched c existing latest hasked
      refine .inr ⟨?_, hask⟩
      rw [← hr] at hrequests
      split at hrequests <;> exact congrArg Prod.fst hrequests

/-- A release is downloaded only on one of the ways, and there only if its archive is not kept. -/
theorem downloads (h : Course c options existing s r) : r.2.downloads = s.downloads ∨
    (r.2.downloads = s.downloads + 1 ∧
      ∃ latest s₁, c.tools.source.latest.result = .ok latest ∧ Asked s s₁ ∧
        r = (c.fetchIndex existing latest).outcome.run s₁ ∧
        (∀ i, existing = some i → options.skipUpdate = false ∧
          ∀ v, i.release = some v → compare v latest = .lt) ∧
        ¬ (c.settings.debug.keepArchive = true ∧
          s.files.isFile (c.directory.archive latest) = true)) := by
  cases h with
  | unasked i hskip hi hr hfiles hrequests => exact .inl (congrArg Prod.snd hrequests)
  | unanswered e s₁ hask hasked hresult hr =>
      have hquiet : r.2.requests = s₁.requests := by
        rw [hr]
        exact quiet_withoutCheck e s₁
      exact .inl ((congrArg Prod.snd hquiet).trans hasked.downloads)
  | kept i latest hask hasked hresult hi hkeep hr => exact .inl hasked.downloads
  | fetched latest s₁ hask hasked hresult hnewer hr =>
      have hrequests := requests_fetched c existing latest hasked
      rw [← hr] at hrequests
      split at hrequests
      · exact .inl (congrArg Prod.snd hrequests)
      · next harchive =>
          refine .inr ⟨congrArg Prod.snd hrequests, latest, s₁, hresult, hasked, hr, hnewer, ?_⟩
          rwa [← Bool.and_eq_true]

theorem result_of_not_supersedes {i : Index} (h : Course c options (some i) s r)
    (hnone : ∀ latest, ¬ c.Supersedes options latest i) : r.1 = .ok i ∧ r.2.files = s.files := by
  cases h with
  | unasked j hskip hi hr hfiles hrequests =>
      cases hi
      exact ⟨hr, hfiles⟩
  | unanswered e s₁ hask hasked hresult hr =>
      rw [hr]
      exact ⟨rfl, hasked.files⟩
  | kept j latest hask hasked hresult hi hkeep hr =>
      cases hi
      exact ⟨hr, hasked.files⟩
  | fetched latest s₁ hask hasked hresult hnewer hr =>
      obtain ⟨hupdate, hlt⟩ := hnewer i rfl
      exact absurd ⟨asks_of_some hask, hupdate, hresult, hlt⟩ (hnone latest)

theorem result_of_supersedes {i : Index} {latest : Version} (h : Course c options (some i) s r)
    (hnewer : c.Supersedes options latest i) :
    ∃ s₁, Asked s s₁ ∧ r = (c.fetchIndex (some i) latest).outcome.run s₁ := by
  cases h with
  | unasked j hskip hi hr hfiles hrequests =>
      rw [hnewer.asks] at hskip
      cases hskip
  | unanswered e s₁ hask hasked hresult hr =>
      rw [hnewer.offered] at hresult
      cases hresult
  | kept j latest' hask hasked hresult hi hkeep hr =>
      cases hi
      cases hnewer.offered.symm.trans hresult
      rcases hkeep with hskip | ⟨v, hv, hge⟩
      · rw [hnewer.updates] at hskip
        cases hskip
      · rw [hnewer.newer v hv] at hge
        cases hge
  | fetched latest' s₁ hask hasked hresult _ hr =>
      cases hnewer.offered.symm.trans hresult
      exact ⟨s₁, hasked, hr⟩

end Course

/-- **How often a run asks the source, and which index it gives.**  It asks once for the latest version,
or not at all, and this exactly if it is not to check and there is an index.  It has a release downloaded
at most once, and only once the source has offered a version that is greater than that of the index, or
there is no index with a version; never if an index is there that is to be kept; never if the archive of
the version is there and archives are kept.  An index that is there and that no release is to replace is
what the run gives, and no file changes.  Where one is to replace it, the run still gives the index if it
cannot fetch the release; if it can, all that follows is the building of the index of this release.  And
no version is found up to date where there is none. -/
theorem ensureIndex_requests (c : Checker) (options : CheckOptions) (s : Session) :
    let d := c.directory
    let r := (c.ensureIndex options).outcome.run s
    (r.2.queries = s.queries ∨ r.2.queries = s.queries + 1) ∧
    (r.2.queries = s.queries ↔ options.skipUpdateCheck = true ∧ ∃ i, d.HoldsIndex i s.files) ∧
    (r.2.downloads = s.downloads ∨ (r.2.downloads = s.downloads + 1 ∧
      ∃ latest existing s₁, c.tools.source.latest.result = .ok latest ∧ Asked s s₁ ∧
        (∀ i, existing = some i ↔ d.HoldsIndex i s.files) ∧
        r = (c.fetchIndex existing latest).outcome.run s₁ ∧
        (∀ i v, d.HoldsIndex i s.files → i.release = some v → compare v latest = .lt) ∧
        (options.skipUpdate = true → ∀ i, ¬ d.HoldsIndex i s.files) ∧
        ¬ (c.settings.debug.keepArchive = true ∧ s.files.isFile (d.archive latest) = true))) ∧
    (∀ i, d.HoldsIndex i s.files →
      ((∀ latest, ¬ c.Supersedes options latest i) → r.1 = .ok i ∧ r.2.files = s.files) ∧
      ∀ latest, c.Supersedes options latest i → ∃ s₁, Asked s s₁ ∧
        (∀ e s₂, (c.depot.fetch latest).outcome.run s₁ = (.error e, s₂) → r.1 = .ok i) ∧
        ∀ tree s₂, (c.depot.fetch latest).outcome.run s₁ = (.ok tree, s₂) →
          r = (Run.lift .index (c.rebuild tree)).outcome.run s₂) ∧
    ∀ s' v, ((c.depot.check none).outcome.run s').1 ≠ .ok (.upToDate v) := by
  intro d r
  have hholds : ∀ i, (c.loadIndex.run s).1 = some i ↔ d.HoldsIndex i s.files :=
    fun i => loadIndex_eq_some_iff
  have hcourse := ensureIndex_course c options s
  generalize (c.loadIndex.run s).1 = existing at hholds hcourse
  have hnone : existing = none → ∀ i, ¬ d.HoldsIndex i s.files := fun h i hi => by
    rw [← hholds, h] at hi
    cases hi
  refine ⟨?_, ?_, ?_, fun i hi => ?_, fun s' v h => ?_⟩
  · exact hcourse.queries.imp And.left And.left
  · rcases hcourse.queries with ⟨hsame, hskip, i, hi⟩ | ⟨hmore, hask⟩
    · exact ⟨fun _ => ⟨hskip, i, (hholds i).mp hi⟩, fun _ => hsame⟩
    · refine ⟨fun h => ?_, fun ⟨hskip, i, hi⟩ => absurd hi (hnone (hask hskip) i)⟩
      rw [hmore] at h
      omega
  · rcases hcourse.downloads with hsame | ⟨hmore, latest, s₁, hresult, hasked, hr, hnewer, harchive⟩
    · exact .inl hsame
    · refine .inr ⟨hmore, latest, existing, s₁, hresult, hasked, hholds, hr, fun i v hi => ?_,
        fun hskip i hi => ?_, harchive⟩
      · exact (hnewer i ((hholds i).mpr hi)).2 v
      · rw [(hnewer i ((hholds i).mpr hi)).1] at hskip
        cases hskip
  · rw [(hholds i).mpr hi] at hcourse
    refine ⟨hcourse.result_of_not_supersedes, fun latest hnewer => ?_⟩
    obtain ⟨s₁, hasked, hr⟩ := hcourse.result_of_supersedes hnewer
    refine ⟨s₁, hasked, fun e s₂ hfetch => ?_, fun tree s₂ hfetch => ?_⟩
    · exact (congrArg Prod.fst hr).trans (fetchIndex_of_error hfetch)
    · exact hr.trans (fetchIndex_of_ok hfetch)
  · obtain ⟨s₁, hcheck, _⟩ := check_run c.depot none s'
    rw [hcheck] at h
    cases hresult : c.depot.source.latest.result with
    | error e =>
        rw [hresult] at h
        cases h
    | ok latest =>
        rw [hresult] at h
        cases h

end Checker

end RequiredVersion
