import RequiredVersion.Proofs.Requests
import RequiredVersion.Proofs.RequirementFiles
import RequiredVersion.Proofs.UserInput

/-! # What a run touches

A run first brings the index up to date and then goes through the directories.  The first part stays in
the data directory: without links in the file system all its paths lead there, whatever is made, moved or
removed on the way (`DataDirectory.StaysIn`).  The second part writes nothing but files: reports, which may
be new, and files of plugins, which were there (`FileSystem.Edits`).

`Checker.Touched` lists what may have happened at a place, and `Checker.run_touches` says that wherever
the files have changed after a run, one of these did. -/

namespace RequiredVersion

open FileSystem

/-! ### File systems without links -/

namespace Archive.NoLinks

variable {fs fs' : FileSystem}

theorem exists_stop (h : NoLinks fs []) (n : Nat) (dir : Place) (names : List String) :
    ∃ stop, (fs.routeSteps n dir names).stop = some stop := by
  induction n, dir, names using steps_induction fs with
  | nil n dir => exact ⟨(dir, n), by rw [routeSteps_nil]⟩
  | idle n dir name rest hidle ih => rwa [routeSteps_idle hidle]
  | up n dir rest ih => rwa [routeSteps_up]
  | down n dir name rest hname hlink ih =>
      rw [routeSteps_down hname hlink]
      exact ih
  | blocked dir name rest l hname hl => exact absurd hl (h _ l rfl)
  | link n dir name rest l hname hl ih => exact absurd hl (h _ l rfl)

theorem exists_goal? (h : NoLinks fs []) (p : Path) : ∃ dir, fs.goal? p = some dir := by
  obtain ⟨stop, hstop⟩ := h.exists_stop linkLimit (fs.start p) p.names
  exact ⟨stop.1, by rw [FileSystem.goal?, route, hstop]; rfl⟩

theorem route_eq (h : NoLinks fs []) (h' : NoLinks fs' []) (hcwd : fs'.cwd = fs.cwd) (p : Path) :
    fs'.route p = fs.route p := by
  rw [route, route, start, start, hcwd]
  exact routeSteps_congr _ (fun place _ l =>
    ⟨fun hl => absurd hl (h' place l rfl), fun hl => absurd hl (h place l rfl)⟩)

end Archive.NoLinks

/-! ### Changes in the data directory -/

namespace DataDirectory

/-- Nothing changes outside the data directory but that directories are made on the way to it, and there
are no links. -/
structure StaysIn (d : DataDirectory) (dir : Place) (fs fs' : FileSystem) : Prop where
  route_eq : ∀ p, fs'.route p = fs.route p
  noLinks : Archive.NoLinks fs' []
  entry : ∀ place, isWithin dir place = false → fs'.get? place = fs.get? place ∨
    (place ∈ fs.way d.path ∧ fs.get? place = none ∧ fs'.get? place = some .directory)

namespace StaysIn

variable {d : DataDirectory} {dir : Place} {names : List String} {fs fs' fs'' : FileSystem}

theorem refl (hlinks : Archive.NoLinks fs []) : StaysIn d dir fs fs :=
  ⟨fun _ => rfl, hlinks, fun _ _ => .inl rfl⟩

theorem goal?_eq (h : StaysIn d dir fs fs') (p : Path) : fs'.goal? p = fs.goal? p := by
  rw [goal?, goal?, h.route_eq]

theorem trans (h : StaysIn d dir fs fs') (h' : StaysIn d dir fs' fs'') : StaysIn d dir fs fs'' := by
  refine ⟨fun p => (h'.route_eq p).trans (h.route_eq p), h'.noLinks, fun place hplace => ?_⟩
  rcases h'.entry place hplace with hkeep | ⟨hmem, hnone, hdir⟩
  · rw [hkeep]
    exact h.entry place hplace
  · rcases h.entry place hplace with hkeep | ⟨_, _, hdir'⟩
    · rw [way, h.route_eq] at hmem
      exact .inr ⟨hmem, hkeep ▸ hnone, hdir⟩
    · -- what has been made is not missing any more
      rw [hdir'] at hnone
      cases hnone

theorem of_changes (hlinks : Archive.NoLinks fs []) (h : Changes d dir names fs fs') :
    StaysIn d dir fs fs' := by
  have hentry : ∀ place, isWithin dir place = false → fs'.get? place = fs.get? place ∨
      (place ∈ fs.way d.path ∧ fs.get? place = none ∧ fs'.get? place = some .directory) := by
    refine fun place hplace => h.entry place (fun hbelow => ?_)
    rw [hbelow.within.1] at hplace
    cases hplace
  have hlinks' : Archive.NoLinks fs' [] := by
    intro place l _ hl
    cases hplace : isWithin dir place with
    | true => exact h.noLinks place l hplace hl
    | false =>
        rcases hentry place hplace with hkeep | ⟨_, _, hdir⟩
        · exact hlinks place l rfl (hkeep ▸ hl)
        · rw [hdir] at hl
          cases hl
  exact ⟨hlinks.route_eq hlinks' h.cwd_eq, hlinks', hentry⟩

theorem of_grows {made written : Place → Prop} (hlinks : Archive.NoLinks fs [])
    (h : Grows made written fs fs')
    (hmade : ∀ place, made place → place ∈ fs.way d.path ∨ isWithin dir place = true)
    (hwritten : ∀ place, written place → isWithin dir place = true) : StaysIn d dir fs fs' := by
  refine ⟨h.route_eq, fun place l _ hl => hlinks place l rfl ((h.link_iff place l).mp hl),
    fun place hplace => ?_⟩
  rcases h.entry place with hkeep | ⟨hm, hentry⟩ | ⟨hw, _⟩
  · exact .inl hkeep
  · exact .inr ⟨(hmade place hm).resolve_right (by simp [hplace]), hentry⟩
  · rw [hwritten place hw] at hplace
    cases hplace

theorem found (h : StaysIn d dir fs fs') (hgoal : fs.goal? d.path = some dir) : Found d dir fs' :=
  ⟨(h.goal?_eq d.path).trans hgoal, fun place l _ => h.noLinks place l rfl⟩

/-- A run that changes only some entries of the data directory stays in it. -/
theorem keeps {ε α : Type} {x : Run ε α} (hgoal : fs.goal? d.path = some dir)
    (hx : ∀ s, Found d dir s.files → Changes d dir names s.files (x.outcome.run s).2.files) :
    Run.Keeps (StaysIn d dir fs) x :=
  fun s hs => hs.trans (.of_changes hs.noLinks (hx s (hs.found hgoal)))

end StaysIn

end DataDirectory

namespace Depot

open DataDirectory

variable {d : Depot} {version : Version} {dir : Place} {fs : FileSystem}

/-- A member may lead out of where it is unpacked to, but not out of the data directory. -/
theorem staysIn_extract (hgoal : fs.goal? d.directory.path = some dir) (archive : Path) :
    Run.Keeps (StaysIn d.directory dir fs) (Archive.extract archive d.directory.staging) := by
  intro s hs
  rcases Archive.unpacks_extract archive d.directory.staging s with hsame | ⟨members, _, hgrows⟩
  · rw [hsame]
    exact hs
  have hfound := hs.found hgoal
  obtain ⟨hway, hstaging⟩ := hfound.route_entry (x := "wordpress-temp") (by decide)
  have hreached : ∀ place, Archive.Reached s.files d.directory.staging (members.map Prod.fst) place →
      isWithin dir place = true := by
    rintro place ⟨name, _, hsafe, hplace⟩
    exact Archive.wayBehind_within hstaging hfound.noLinks (Archive.staysBelow_memberPath hsafe).2 hplace
  refine hs.trans (.of_grows hs.noLinks hgrows (fun place hplace => ?_) hreached)
  rcases hplace with hplace | hplace
  · rw [DataDirectory.staging, hway] at hplace
    rcases List.mem_append.mp hplace with hplace | hplace
    · exact .inl hplace
    · rw [List.mem_singleton.mp hplace]
      exact .inr (isWithin_append _ _)
  · exact .inr (hreached place hplace)

theorem staysIn_fetch (hgoal : fs.goal? d.directory.path = some dir)
    (hv : '/' ∉ version.text.toList) :
    Run.Keeps (StaysIn d.directory dir fs) (d.fetch version) := by
  have hremove : ∀ x, IsPlain x →
      Run.Keeps (StaysIn d.directory dir fs) (removeTree (d.directory.path.joinText x)) :=
    fun x hx => StaysIn.keeps hgoal (fun s hfound => changes_removeTree hfound hx)
  rw [fetch_eq]
  refine .bind ?_ (fun _ => .bind ?_ (fun _ => ?_))
  · exact StaysIn.keeps hgoal (fun s hfound => changes_of_stores_entry hfound (isPlain_archiveName hv)
      (stores_supply s (.refl s.files)))
  · refine .bind (hremove "wordpress-temp" (by decide)) (fun _ => .bind (staysIn_extract hgoal _)
      (fun _ => .bind (hremove "wordpress" (by decide)) (fun _ => ?_)))
    exact StaysIn.keeps hgoal (fun s hfound => .change hfound (fun fs' hrename =>
      changes_rename hfound (by decide) (by decide) hrename))
  · exact StaysIn.keeps hgoal (fun s hfound => changes_finish hfound hv)

end Depot

namespace Checker

open DataDirectory Depot

section index
variable {c : Checker} {dir : Place} {fs : FileSystem}

theorem staysIn_rebuild (hgoal : fs.goal? c.directory.path = some dir) :
    Run.Keeps (StaysIn c.directory dir fs) (c.rebuild c.directory.tree) := by
  intro s hs
  have hbuilds := rebuild_builds c c.directory.tree s
  generalize (c.rebuild c.directory.tree).outcome.run s = r at hbuilds
  cases hbuilds with
  | failed e hr hfiles =>
      rw [hfiles]
      exact hs
  | built i v cache s₁ hfiles hversion hrelease hi hpath hread hr =>
      have hstore : Run.Keeps (StaysIn c.directory dir fs) (c.store i cache c.directory.tree) := by
        refine .bind (StaysIn.keeps hgoal (fun s hfound => changes_save hfound))
          (fun _ => .bind ?_ (fun _ => .bind ?_ (fun _ => .pure i)))
        · exact .lift (StaysIn.keeps hgoal (fun s hfound => changes_save_cache hfound hpath))
        · exact StaysIn.keeps hgoal (fun s hfound => changes_discard (d := c.depot) hfound)
      rw [hr]
      exact hstore s₁ (hfiles ▸ hs)

theorem staysIn_withoutCheck (hgoal : fs.goal? c.directory.path = some dir) (existing : Option Index)
    (e : ReleaseFailure) : Run.Keeps (StaysIn c.directory dir fs) (c.withoutCheck existing e) := by
  unfold withoutCheck
  cases existing with
  | some i => exact .bind (.note _ _ _) (fun _ => .pure i)
  | none =>
      refine .bind .files (fun files => ?_)
      split
      · next tree htree =>
          rw [retained?_eq htree]
          exact .bind (.note _ _ _) (fun _ => .lift (staysIn_rebuild hgoal))
      · exact .throw _

theorem staysIn_fetchIndex (hgoal : fs.goal? c.directory.path = some dir) (existing : Option Index)
    {latest : Version} (hv : '/' ∉ latest.text.toList) :
    Run.Keeps (StaysIn c.directory dir fs) (c.fetchIndex existing latest) := by
  intro s hs
  have hfetched := staysIn_fetch (d := c.depot) hgoal hv s hs
  unfold fetchIndex
  rw [Run.run_bind, Run.run_liftM]
  rcases hfetch : (c.depot.fetch latest).outcome.run s with ⟨e | tree, s₁⟩
  · rw [hfetch] at hfetched
    cases existing <;> exact hfetched
  · rw [hfetch] at hfetched
    have hrebuild : Run.Keeps (StaysIn c.directory dir fs)
        (Run.lift CheckFailure.index (c.rebuild c.directory.tree)) := .lift (staysIn_rebuild hgoal)
    obtain rfl : tree = c.directory.tree := fetch_ok hfetch
    dsimp only
    exact hrebuild s₁ hfetched

/-- Bringing the index up to date stays in the data directory. -/
theorem staysIn_ensureIndex (hgoal : fs.goal? c.directory.path = some dir) (options : CheckOptions)
    (hversions : ∀ v, c.tools.source.latest.result = .ok v → '/' ∉ v.text.toList) :
    Run.Keeps (StaysIn c.directory dir fs) (c.ensureIndex options) := by
  intro s hs
  have hcourse := ensureIndex_course c options s
  generalize (c.ensureIndex options).outcome.run s = r at hcourse
  cases hcourse with
  | unasked i hskip hi hr hfiles hrequests => exact hfiles.symm ▸ hs
  | unanswered e s₁ hask hasked hresult hr =>
      rw [hr]
      exact staysIn_withoutCheck hgoal _ e s₁ (hasked.files.symm ▸ hs)
  | kept i latest hask hasked hresult hi hkeep hr => exact hasked.files.symm ▸ hs
  | fetched latest s₁ hask hasked hresult hnewer hr =>
      rw [hr]
      exact staysIn_fetchIndex hgoal _ (hversions latest hresult) s₁ (hasked.files.symm ▸ hs)

end index

end Checker

/-! ### Written files -/

namespace FileSystem

/-- Only files are written: those that some paths lead to, and those that others lead to where a file
was. -/
structure Edits (written edited : Path → Prop) (fs fs' : FileSystem) : Prop where
  cwd_eq : fs'.cwd = fs.cwd
  entry : ∀ place, fs'.get? place = fs.get? place ∨
    ((∃ p, written p ∧ fs.goal? p = some place) ∧
      (fs.get? place = none ∨ ∃ c, fs.get? place = some (.file c)) ∧
      ∃ c, fs'.get? place = some (.file c)) ∨
    ((∃ p, edited p ∧ fs.goal? p = some place) ∧ (∃ c, fs.get? place = some (.file c)) ∧
      ∃ c, fs'.get? place = some (.file c))

namespace Edits

variable {written edited written' edited' : Path → Prop} {fs fs' fs'' : FileSystem}

theorem refl (fs : FileSystem) : Edits written edited fs fs := ⟨rfl, fun _ => .inl rfl⟩

theorem mono (h : Edits written edited fs fs') (hwritten : ∀ p, written p → written' p)
    (hedited : ∀ p, edited p → edited' p) : Edits written' edited' fs fs' := by
  refine ⟨h.cwd_eq, fun place => (h.entry place).imp_right ?_⟩
  rintro (⟨⟨p, hp, hgoal⟩, hentry⟩ | ⟨⟨p, hp, hgoal⟩, hentry⟩)
  · exact .inl ⟨⟨p, hwritten p hp, hgoal⟩, hentry⟩
  · exact .inr ⟨⟨p, hedited p hp, hgoal⟩, hentry⟩

theorem goal?_eq (h : Edits written edited fs fs') (p : Path) : fs'.goal? p = fs.goal? p := by
  have hgrows : Grows (fun _ => False) (fun _ => True) fs fs' := by
    refine ⟨h.cwd_eq, fun place => ?_⟩
    rcases h.entry place with hkeep | ⟨_, hold, hnew⟩ | ⟨_, hold, hnew⟩
    · exact .inl hkeep
    · exact .inr (.inr ⟨trivial, hold, hnew⟩)
    · exact .inr (.inr ⟨trivial, .inr hold, hnew⟩)
  exact hgrows.goal?_eq p

theorem trans (h : Edits written edited fs fs') (h' : Edits written edited fs' fs'') :
    Edits written edited fs fs'' := by
  refine ⟨h'.cwd_eq.trans h.cwd_eq, fun place => ?_⟩
  rcases h'.entry place with hkeep | ⟨⟨p, hp, hgoal⟩, hold, hnew⟩ | ⟨⟨p, hp, hgoal⟩, hold, hnew⟩
  · rw [hkeep]
    exact h.entry place
  · rw [h.goal?_eq] at hgoal
    rcases h.entry place with hkeep | ⟨_, hold, _⟩ | ⟨_, hold, _⟩
    · exact .inr (.inl ⟨⟨p, hp, hgoal⟩, hkeep ▸ hold, hnew⟩)
    · exact .inr (.inl ⟨⟨p, hp, hgoal⟩, hold, hnew⟩)
    · exact .inr (.inl ⟨⟨p, hp, hgoal⟩, .inr hold, hnew⟩)
  · rw [h.goal?_eq] at hgoal
    rcases h.entry place with hkeep | ⟨hw, hold, _⟩ | ⟨_, hold, _⟩
    · exact .inr (.inr ⟨⟨p, hp, hgoal⟩, hkeep ▸ hold, hnew⟩)
    · -- a file that was written before it was edited may be new
      exact .inr (.inl ⟨hw, hold, hnew⟩)
    · exact .inr (.inr ⟨⟨p, hp, hgoal⟩, hold, hnew⟩)

theorem of_write {p : Path} {content : Content} (h : fs.write p content = .ok fs') :
    Edits (· = p) (fun _ => False) fs fs' := by
  refine ⟨(write_grows h).cwd_eq, fun place => ?_⟩
  rcases (write_grows h).entry place with hkeep | ⟨hmade, _⟩ | ⟨⟨_, hgoal⟩, hentry⟩
  · exact .inl hkeep
  · exact hmade.elim
  · exact .inr (.inl ⟨⟨p, rfl, hgoal⟩, hentry⟩)

theorem of_read {p : Path} {old content : Content} (hread : fs.read p = .ok old)
    (h : fs.write p content = .ok fs') : Edits (fun _ => False) (· = p) fs fs' := by
  refine ⟨(write_grows h).cwd_eq, fun place => ?_⟩
  rcases (write_grows h).entry place with hkeep | ⟨hmade, _⟩ | ⟨⟨_, hgoal⟩, _, hnew⟩
  · exact .inl hkeep
  · exact hmade.elim
  · obtain ⟨q, hresolve, hget⟩ := read_ok hread
    have hq := (resolve_goal hresolve (fun l e => by cases e)).1
    obtain rfl : q = place := Option.some.inj (hq.symm.trans hgoal)
    exact .inr (.inr ⟨⟨p, rfl, hgoal⟩, ⟨old, hget⟩, hnew⟩)

end Edits

end FileSystem

namespace Requirements

variable {r : Requirements} {file : Path} {s s' : Session}

theorem edits_applyTo {result : Except PatchFailure Bool}
    (h : (r.applyTo file).outcome.run s = (result, s')) :
    Edits (fun _ => False) (fun p => p = file ∧ result = .ok true) s.files s'.files := by
  cases result with
  | error e =>
      rw [applyTo_error h]
      exact .refl s.files
  | ok b =>
      rcases applyTo_ok h with ⟨_, hsame⟩ | ⟨text, htext, ⟨_, hsame⟩ | ⟨rfl, hwrite⟩⟩
      · rw [hsame]
        exact .refl s.files
      · rw [hsame]
        exact .refl s.files
      · obtain ⟨content, hread, _⟩ := readText_eq_ok_iff.mp htext
        exact (Edits.of_read hread hwrite).mono (fun _ => id) (fun _ hp => ⟨hp, rfl⟩)

/-- Of several files those that change are told, unless there is a failure. -/
theorem edits_applyAll : ∀ {files : List Path} {s s' : Session}
    {result : Except PatchFailure (List Path)}, (r.applyAll files).outcome.run s = (result, s') →
      Edits (fun _ => False) (fun p => p ∈ files ∧ ∀ changed, result = .ok changed → p ∈ changed)
        s.files s'.files
  | [], s, s', result, h => by
      cases h
      exact .refl s.files
  | file :: rest, s, s', result, h => by
      rw [applyAll, Run.run_bind] at h
      rcases hfile : (r.applyTo file).outcome.run s with ⟨e | b, s₁⟩
      · rw [hfile] at h
        cases h
        refine (edits_applyTo hfile).mono (fun _ => id) ?_
        rintro p ⟨_, htrue⟩
        cases htrue
      rw [hfile] at h
      dsimp only at h
      rw [Run.run_bind] at h
      rcases hrest : (r.applyAll rest).outcome.run s₁ with ⟨e | others, s₂⟩
      · rw [hrest] at h
        cases h
        refine ((edits_applyTo hfile).mono (fun _ => id) ?_).trans
          ((edits_applyAll hrest).mono (fun _ => id) ?_)
        · rintro p ⟨rfl, _⟩
          exact ⟨List.mem_cons_self, fun _ hok => by cases hok⟩
        · rintro p ⟨hp, _⟩
          exact ⟨List.mem_cons_of_mem _ hp, fun _ hok => by cases hok⟩
      · rw [hrest] at h
        cases h
        refine ((edits_applyTo hfile).mono (fun _ => id) ?_).trans
          ((edits_applyAll hrest).mono (fun _ => id) ?_)
        · rintro p ⟨rfl, htrue⟩
          cases htrue
          exact ⟨List.mem_cons_self, fun _ hok => Except.ok.inj hok ▸ List.mem_cons_self⟩
        · rintro p ⟨hp, htold⟩
          refine ⟨List.mem_cons_of_mem _ hp, fun changed hok => ?_⟩
          obtain rfl := Except.ok.inj hok
          cases b with
          | true => exact List.mem_cons_of_mem _ (htold others rfl)
          | false => exact htold others rfl

end Requirements

/-! ### Scans -/

namespace Scanner

variable {fs : FileSystem}

/-- The usages in a content, if it can be parsed. -/
def usages (grammar : Grammar) (content : ByteArray) : Except ParseFailure (List Usage) :=
  (grammar (Text.lossyText content)).map (Usage.collect (Text.lossyText content).toList)

theorem gives_extract (grammar : Grammar) (content : ByteArray) :
    (extract grammar (Text.lossyText content)).Gives fs (usages grammar content) := by
  unfold extract usages
  refine .bind (.modify (fun _ => rfl)) ?_
  cases grammar (Text.lossyText content) <;> exact .pure _

theorem exists_gives_foldHits (file : String) (line : Nat) :
    ∀ (hits : List (Symbol × Lifespan)) (r : Report), ∃ r', (foldHits file line hits r).Gives fs r'
  | [], r => ⟨r, .pure r⟩
  | _ :: rest, _ => by
      obtain ⟨r', hrest⟩ := exists_gives_foldHits file line rest _
      exact ⟨r', .bind (.note _ _ _) hrest⟩

theorem exists_gives_foldUsages (scanner : Scanner) (file : String) :
    ∀ (us : List Usage) (r : Report), ∃ r', (scanner.foldUsages file us r).Gives fs r'
  | [], r => ⟨r, .pure r⟩
  | u :: rest, r => by
      obtain ⟨r₁, hhits⟩ := exists_gives_foldHits file u.line
        (scanner.index.resolve scanner.matchUnknown u.reference) r
      obtain ⟨r', hrest⟩ := exists_gives_foldUsages scanner file rest r₁
      exact ⟨r', .bind hhits hrest⟩

theorem exists_gives_foldFiles (scanner : Scanner) (root : Path) :
    ∀ (files : List Path) (cache : Cache (List Usage)) (r : Report),
      ∃ scanned, (scanner.foldFiles root files cache r).Gives fs scanned
  | [], _, _ => ⟨_, .pure _⟩
  | file :: rest, cache, r => by
      cases hread : fs.readBytes file with
      | error e =>
          refine ⟨(cache, .error ⟨file, e⟩), .bind .files ?_⟩
          rw [hread]
          exact .pure _
      | ok content =>
          have hextract : (cache.getOrExtract file content
              (extract scanner.grammar (Text.lossyText content))).Gives fs _ :=
            Cache.gives_getOrExtract (gives_extract scanner.grammar content)
          cases hgiven : cache.given (usages scanner.grammar) file content with
          | ok us =>
              obtain ⟨r', hus⟩ := exists_gives_foldUsages scanner (file.relativeTo root) us r
              obtain ⟨scanned, hrest⟩ := exists_gives_foldFiles scanner root rest
                (cache.insert file content us) r'
              refine ⟨scanned, .bind .files ?_⟩
              rw [hread]
              rw [hgiven] at hextract
              exact .bind hextract (.bind hus hrest)
          | error e =>
              obtain ⟨scanned, hrest⟩ := exists_gives_foldFiles scanner root rest cache r
              refine ⟨scanned, .bind .files ?_⟩
              rw [hread]
              rw [hgiven] at hextract
              exact .bind hextract (.bind (.note _ _ _) hrest)

theorem files_scan (scanner : Scanner) (root : Path) (cache : Cache (List Usage)) (s : Session) :
    ((scanner.scan root cache).run s).2.files = s.files := by
  suffices h : ∃ scanned, (scanner.scan root cache).Gives s.files scanned by
    obtain ⟨_, hgives⟩ := h
    exact (hgives s rfl).2
  unfold scan
  cases hfiles : s.files.phpFiles root scanner.ignoredNames with
  | error e =>
      refine ⟨(cache, .error ⟨e.path, e.cause⟩), .bind (.note _ _ _) (.bind .files ?_)⟩
      rw [hfiles]
      exact .pure _
  | ok files =>
      obtain ⟨scanned, hfold⟩ :=
        exists_gives_foldFiles scanner root files cache (.start scanner.floor)
      refine ⟨scanned, .bind (.note _ _ _) (.bind .files ?_)⟩
      rw [hfiles]
      refine .bind hfold ?_
      obtain ⟨cache', e | r⟩ := scanned
      · exact .pure _
      · exact .bind (.note _ _ _) (.pure _)

end Scanner

namespace Checker

open DataDirectory Requirements

/-! ### Directories -/

/-- If the run gives outcomes, one for the directory tells that the file was updated. -/
def Tells (result : Except CheckFailure (List CheckOutcome)) (dir file : Path) : Prop :=
  ∀ outcomes, result = .ok outcomes → ∃ o ∈ outcomes, o.dir = dir ∧ file ∈ o.updated

/-- In the directories only reports are written, if `saves` holds, and files of plugins edited, if
`updates` holds; what is edited is told. -/
def EditsDirs (c : Checker) (saves updates : Prop) (dirs : List Path)
    (result : Except CheckFailure (List CheckOutcome)) : FileSystem → FileSystem → Prop :=
  Edits (fun p => saves ∧ ∃ dir ∈ dirs, p = Report.path dir)
    (fun p => updates ∧ ∃ dir ∈ dirs, p ∈ candidates c.base dir ∧ Tells result dir p)

section directories
variable {c : Checker} {options : CheckOptions} {given : Requirements} {scanner : Scanner}
  {saves updates : Prop} {dirs dirs' : List Path} {fs fs' : FileSystem} {s s' : Session}
  {result result' : Except CheckFailure (List CheckOutcome)}

theorem tells_error (e : CheckFailure) (dir file : Path) : Tells (.error e) dir file :=
  fun _ hok => by cases hok

theorem tells_ok_iff {outcomes : List CheckOutcome} {dir file : Path} :
    Tells (.ok outcomes) dir file ↔ ∃ o ∈ outcomes, o.dir = dir ∧ file ∈ o.updated :=
  ⟨fun h => h outcomes rfl, fun h _ hok => Except.ok.inj hok ▸ h⟩

theorem EditsDirs.mono (h : EditsDirs c saves updates dirs result fs fs') (hdirs : dirs ⊆ dirs')
    (htells : ∀ dir file, Tells result dir file → Tells result' dir file) :
    EditsDirs c saves updates dirs' result' fs fs' := by
  refine Edits.mono h ?_ ?_
  · rintro p ⟨hsaves, dir, hdir, hp⟩
    exact ⟨hsaves, dir, hdirs hdir, hp⟩
  · rintro p ⟨hupdates, dir, hdir, hp, htold⟩
    exact ⟨hupdates, dir, hdirs hdir, hp, htells dir p htold⟩

/-- What is done in one directory after the other. -/
theorem editsDirs_mapM {step : Path → Run CheckFailure CheckOutcome}
    (hstep : ∀ {dir s s' result}, (step dir).outcome.run s = (result, s') →
      EditsDirs c saves updates [dir] (result.map (fun o => [o])) s.files s'.files) :
    ∀ {dirs : List Path} {s s' : Session} {result : Except CheckFailure (List CheckOutcome)},
      (dirs.mapM step).outcome.run s = (result, s') →
        EditsDirs c saves updates dirs result s.files s'.files
  | [], s, s', result, h => by
      cases h
      exact .refl s.files
  | dir :: rest, s, s', result, h => by
      have hdirs : [dir] ⊆ dir :: rest := by simp
      have hrest : rest ⊆ dir :: rest := List.subset_cons_self dir rest
      rw [List.mapM_cons, Run.run_bind] at h
      rcases hfirst : (step dir).outcome.run s with ⟨e | o, s₁⟩
      · rw [hfirst] at h
        cases h
        exact (hstep hfirst).mono hdirs (fun _ _ _ => tells_error e _ _)
      rw [hfirst] at h
      dsimp only at h
      rw [Run.run_bind] at h
      rcases hothers : (rest.mapM step).outcome.run s₁ with ⟨e | others, s₂⟩
      · rw [hothers] at h
        cases h
        exact ((hstep hfirst).mono hdirs (fun _ _ _ => tells_error e _ _)).trans
          ((editsDirs_mapM hstep hothers).mono hrest (fun _ _ _ => tells_error e _ _))
      · rw [hothers] at h
        cases h
        refine ((hstep hfirst).mono hdirs (fun _ _ htold => ?_)).trans
          ((editsDirs_mapM hstep hothers).mono hrest (fun _ _ htold => ?_))
        · obtain ⟨o', ho', htold⟩ := htold [o] rfl
          exact tells_ok_iff.mpr ⟨o', List.mem_singleton.mp ho' ▸ List.mem_cons_self, htold⟩
        · obtain ⟨o', ho', htold⟩ := tells_ok_iff.mp htold
          exact tells_ok_iff.mpr ⟨o', List.mem_cons_of_mem _ ho', htold⟩

/-- Updates the files of one directory. -/
def updateDir (c : Checker) (given : Requirements) (dir : Path) : Run CheckFailure CheckOutcome := do
  let updated ← Run.lift .patching (given.apply c.base dir)
  return { dir, report := none, reportPath := none, updated }

theorem updateDirs_eq (c : Checker) (given : Requirements) : ∀ dirs : List Path,
    c.updateDirs given dirs = dirs.mapM (c.updateDir given)
  | [] => rfl
  | dir :: rest => by
      rw [updateDirs, updateDirs_eq c given rest, List.mapM_cons, updateDir, bind_assoc]
      simp only [pure_bind]

theorem checkDirs_eq (c : Checker) (options : CheckOptions) (given : Requirements) (scanner : Scanner) :
    ∀ dirs : List Path,
      c.checkDirs options given scanner dirs = dirs.mapM (c.checkDir options given scanner)
  | [] => rfl
  | dir :: rest => by
      rw [checkDirs, checkDirs_eq c options given scanner rest, List.mapM_cons]

theorem edits_apply {r : Requirements} {base : String} {dir : Path}
    {result : Except CheckFailure (List Path)}
    (h : (Run.lift CheckFailure.patching (r.apply base dir)).outcome.run s = (result, s')) :
    Edits (fun _ => False) (fun p => p ∈ candidates base dir ∧
      ∀ updated, result = .ok updated → p ∈ updated) s.files s'.files := by
  rw [Run.run_lift] at h
  rcases hrun : (r.apply base dir).outcome.run s with ⟨e | updated, s₁⟩
  · rw [hrun] at h
    cases h
    refine (edits_applyAll hrun).mono (fun _ => id) (fun p ⟨hp, _⟩ => ⟨hp, fun _ hok => ?_⟩)
    cases hok
  · rw [hrun] at h
    cases h
    refine (edits_applyAll hrun).mono (fun _ => id) (fun p ⟨hp, htold⟩ => ⟨hp, fun _ hok => ?_⟩)
    cases hok
    exact htold updated rfl

theorem editsDirs_updateDir {dir : Path} {result : Except CheckFailure CheckOutcome}
    (h : (c.updateDir given dir).outcome.run s = (result, s')) :
    EditsDirs c False True [dir] (result.map (fun o => [o])) s.files s'.files := by
  rw [updateDir, Run.run_bind] at h
  rcases hrun : (Run.lift CheckFailure.patching (given.apply c.base dir)).outcome.run s with
    ⟨e | updated, s₁⟩
  · rw [hrun] at h
    cases h
    refine (edits_apply hrun).mono (fun _ => False.elim) (fun p ⟨hp, _⟩ => ?_)
    exact ⟨trivial, dir, List.mem_singleton_self dir, hp, tells_error e dir p⟩
  · rw [hrun] at h
    cases h
    refine (edits_apply hrun).mono (fun _ => False.elim) (fun p ⟨hp, htold⟩ => ?_)
    exact ⟨trivial, dir, List.mem_singleton_self dir, hp, tells_ok_iff.mpr
      ⟨_, List.mem_singleton_self _, rfl, htold updated rfl⟩⟩

theorem edits_saveIfWanted (options : CheckOptions) (report : Report) (dir : Path) (s : Session) :
    Edits (fun p => options.saveReport = true ∧ p = Report.path dir) (fun _ => False)
      s.files ((saveIfWanted options report dir).outcome.run s).2.files := by
  refine (?_ : Run.Keeps (Edits _ _ s.files) _) s (.refl s.files)
  unfold saveIfWanted
  split
  · next hwanted =>
      have hwrite : Run.Keeps (Edits (fun p => options.saveReport = true ∧ p = Report.path dir)
          (fun _ => False) s.files) (report.save dir) := by
        refine .bind (.change (fun fs₁ fs₂ h hwrite => h.trans ?_))
          (fun _ => .bind (.note _ _ _) (fun _ => .pure _))
        exact (Edits.of_write hwrite).mono (fun _ hp => ⟨hwanted, hp⟩) (fun _ => id)
      exact Run.Keeps.bind (.lift hwrite) (fun p => .pure (some p))
  · exact .pure none

theorem edits_updateIfWanted {report : Report} {dir : Path} {result : Except CheckFailure (List Path)}
    (h : (c.updateIfWanted options given report dir).outcome.run s = (result, s')) :
    Edits (fun _ => False) (fun p => options.updateFiles = true ∧ p ∈ candidates c.base dir ∧
      ∀ updated, result = .ok updated → p ∈ updated) s.files s'.files := by
  unfold updateIfWanted at h
  split at h
  · next hwanted => exact (edits_apply h).mono (fun _ => id) (fun _ hp => ⟨hwanted, hp⟩)
  · cases h
    exact .refl s.files

/-- What is done in a directory once its report is there. -/
def finishDir (c : Checker) (options : CheckOptions) (given : Requirements) (report : Report)
    (dir : Path) : Run CheckFailure CheckOutcome := do
  let reportPath ← saveIfWanted options report dir
  let updated ← c.updateIfWanted options given report dir
  return { dir, report := some report, reportPath, updated }

theorem editsDirs_finishDir {report : Report} {dir : Path} {result : Except CheckFailure CheckOutcome}
    (h : (c.finishDir options given report dir).outcome.run s = (result, s')) :
    EditsDirs c (options.saveReport = true) (options.updateFiles = true) [dir]
      (result.map (fun o => [o])) s.files s'.files := by
  have hdir := List.mem_singleton_self dir
  have hsave := edits_saveIfWanted options report dir s
  rw [finishDir, Run.run_bind] at h
  rcases hsaved : (saveIfWanted options report dir).outcome.run s with ⟨e | path, s₁⟩
  · rw [hsaved] at h hsave
    cases h
    exact hsave.mono (fun p ⟨hwanted, hp⟩ => ⟨hwanted, dir, hdir, hp⟩) (fun _ => False.elim)
  rw [hsaved] at h hsave
  dsimp only at h
  rw [Run.run_bind] at h
  refine Edits.trans (hsave.mono (fun p ⟨hwanted, hp⟩ => ⟨hwanted, dir, hdir, hp⟩)
    (fun _ => False.elim)) ?_
  rcases hupdated : (c.updateIfWanted options given report dir).outcome.run s₁ with ⟨e | updated, s₂⟩
  · rw [hupdated] at h
    cases h
    exact (edits_updateIfWanted hupdated).mono (fun _ => False.elim)
      (fun p ⟨hwanted, hp, _⟩ => ⟨hwanted, dir, hdir, hp, tells_error e dir p⟩)
  · rw [hupdated] at h
    cases h
    refine (edits_updateIfWanted hupdated).mono (fun _ => False.elim)
      (fun p ⟨hwanted, hp, htold⟩ => ⟨hwanted, dir, hdir, hp, tells_ok_iff.mpr ?_⟩)
    exact ⟨_, List.mem_singleton_self _, rfl, htold updated rfl⟩

theorem editsDirs_checkDir {dir : Path} {result : Except CheckFailure CheckOutcome}
    (h : (c.checkDir options given scanner dir).outcome.run s = (result, s')) :
    EditsDirs c (options.saveReport = true) (options.updateFiles = true) [dir]
      (result.map (fun o => [o])) s.files s'.files := by
  have hscan := scanner.files_scan dir (Cache.inMemory.bypass c.settings.debug.noCache) s
  rw [checkDir_eq, Run.run_bind, Run.run_liftM] at h
  rcases hscanned : (scanner.scan dir (Cache.inMemory.bypass c.settings.debug.noCache)).run s with
    ⟨⟨_, e | report⟩, s₁⟩
  · rw [hscanned] at h hscan
    cases h
    rw [← hscan]
    exact .refl _
  · rw [hscanned] at h hscan
    dsimp only at h hscan
    rw [Run.run_bind, Run.run_note] at h
    change (c.finishDir options given report dir).outcome.run _ = _ at h
    have hedits := editsDirs_finishDir h
    rw [← hscan]
    exact hedits

end directories

/-! ### Runs -/

/-- What a run may have done at a place.  `dirs` are the directories of the plugins. -/
inductive Touched (c : Checker) (options : CheckOptions) (dirs : List Path) (fs fs' : FileSystem)
    (result : Except CheckFailure (List CheckOutcome)) (place : Place) : Prop
  /-- It is in the data directory. -/
  | data (root : Place) (hscan : options.updateFilesOnly = false)
      (hroot : fs.goal? c.directory.path = some root) (hplace : isWithin root place = true)
  /-- It is a directory that was missing on the way to the data directory. -/
  | way (hscan : options.updateFilesOnly = false) (hplace : place ∈ fs.way c.directory.path)
      (hold : fs.get? place = none) (hnew : fs'.get? place = some .directory)
  /-- It is a file of a plugin, and is told as updated. -/
  | plugin (dir file : Path) (hwanted : options.updateFiles = true ∨ options.updateFilesOnly = true)
      (hdir : dir ∈ dirs) (hfile : file ∈ candidates c.base dir) (hplace : fs.goal? file = some place)
      (hold : ∃ old, fs.get? place = some (.file old)) (hnew : ∃ new, fs'.get? place = some (.file new))
      (htold : Tells result dir file)
  /-- It is the report of a directory. -/
  | report (dir : Path) (hscan : options.updateFilesOnly = false) (hwanted : options.saveReport = true)
      (hdir : dir ∈ dirs) (hplace : fs.goal? (Report.path dir) = some place)

section runs
variable {c : Checker} {options : CheckOptions} {dirs : List Path} {fs fs₁ fs' : FileSystem}
  {result : Except CheckFailure (List CheckOutcome)} {root place : Place}

theorem exists_of_bind_ok {ε α β : Type} {x : Except ε α} {f : α → Except ε β} {b : β}
    (h : (x >>= f) = .ok b) : ∃ a, x = .ok a ∧ f a = .ok b := by
  cases x with
  | error e => cases h
  | ok a => exact ⟨a, rfl, h⟩

/-- The directories of an accepted input, and when there is to be no scan. -/
theorem validate_ok {input : Input} (h : c.validate fs dirs options = .ok input) :
    resolveDirs fs dirs = .ok input.dirs ∧ (input.floor = none ↔ options.updateFilesOnly = true) := by
  obtain ⟨found, hfound, h⟩ := exists_of_bind_ok h
  obtain ⟨wordpress, _, h⟩ := exists_of_bind_ok h
  obtain ⟨php, _, h⟩ := exists_of_bind_ok h
  dsimp only at h
  split at h
  · next honly =>
      split at h
      · cases h
      · cases h
        exact ⟨hfound, by simp [honly]⟩
  · next honly =>
      obtain ⟨floor, hfloor, h⟩ := exists_of_bind_ok h
      cases h
      exact ⟨hfound, by simp [givenVersion_eq_none hfloor, honly]⟩

/-- What has happened at a place that changed, first in the data directory and then in the others. -/
theorem touched_of_staysIn (hscan : options.updateFilesOnly = false)
    (hroot : fs.goal? c.directory.path = some root) (hindex : StaysIn c.directory root fs fs₁)
    (hdirs : EditsDirs c (options.saveReport = true) (options.updateFiles = true) dirs result fs₁ fs')
    (hne : fs'.get? place ≠ fs.get? place) : Touched c options dirs fs fs' result place := by
  cases hplace : isWithin root place with
  | true => exact .data root hscan hroot hplace
  | false =>
      rcases hindex.entry place hplace with hkeep | ⟨hway, hold, hmade⟩
      · rcases hdirs.entry place with hsame |
          ⟨⟨p, ⟨hwanted, dir, hdir, rfl⟩, hgoal⟩, _⟩ |
          ⟨⟨file, ⟨hwanted, dir, hdir, hfile, htold⟩, hgoal⟩, hold, hnew⟩
        · exact absurd (hsame.trans hkeep) hne
        · rw [hindex.goal?_eq] at hgoal
          exact .report dir hscan hwanted hdir hgoal
        · rw [hindex.goal?_eq] at hgoal
          rw [hkeep] at hold
          exact .plugin dir file (.inl hwanted) hdir hfile hgoal hold hnew htold
      · -- no file is written where a directory has been made
        refine .way hscan hway hold ?_
        rcases hdirs.entry place with hsame | ⟨_, hnone | ⟨_, hfile⟩, _⟩ | ⟨_, ⟨_, hfile⟩, _⟩
        · rw [hsame, hmade]
        · rw [hmade] at hnone
          cases hnone
        all_goals
          rw [hmade] at hfile
          cases hfile

/-- Scans with an index. -/
def scannerOf (c : Checker) (floor : Version) (index : Index) : Scanner :=
  ⟨c.tools.grammar, index, floor, c.settings.ignoredNames, c.settings.matchUnknownReceivers⟩

theorem run_of_no_floor {input : Input} {s : Session}
    (h : c.validate s.files dirs options = .ok input) (hfloor : input.floor = none) :
    (c.run dirs options).outcome.run s = (c.updateDirs input.given input.dirs).outcome.run s := by
  rw [run, Run.run_bind, Run.run_files]
  dsimp only
  rw [h]
  dsimp only
  rw [hfloor]

theorem run_of_floor {input : Input} {floor : Version} {s : Session}
    (h : c.validate s.files dirs options = .ok input) (hfloor : input.floor = some floor) :
    (c.run dirs options).outcome.run s = (do
      let index ← c.ensureIndex options
      c.checkDirs options input.given (c.scannerOf floor index) input.dirs).outcome.run s := by
  rw [run, Run.run_bind, Run.run_files]
  dsimp only
  rw [h]
  dsimp only
  rw [hfloor]
  rfl

theorem touched_of_run {s : Session} {r : Except CheckFailure (List CheckOutcome) × Session}
    (hlinks : Archive.NoLinks s.files [])
    (hversions : ∀ v, c.tools.source.latest.result = .ok v → '/' ∉ v.text.toList)
    (hr : (c.run dirs options).outcome.run s = r) (hne : r.2.files.get? place ≠ s.files.get? place) :
    ∃ found, resolveDirs s.files dirs = .ok found ∧
      Touched c options found s.files r.2.files r.1 place := by
  cases hvalidate : c.validate s.files dirs options with
  | error e =>
      rw [← hr, run_of_validate_error hvalidate] at hne
      exact absurd rfl hne
  | ok input =>
      obtain ⟨hfound, hfloor⟩ := validate_ok hvalidate
      refine ⟨input.dirs, hfound, ?_⟩
      cases hscan : input.floor with
      | none =>
          rw [run_of_no_floor hvalidate hscan, updateDirs_eq] at hr
          rcases (editsDirs_mapM editsDirs_updateDir hr).entry place with hsame |
            ⟨⟨_, ⟨hno, _⟩, _⟩, _⟩ | ⟨⟨file, ⟨_, dir, hdir, hfile, htold⟩, hgoal⟩, hold, hnew⟩
          · exact absurd hsame hne
          · exact hno.elim
          · exact .plugin dir file (.inr (hfloor.mp hscan)) hdir hfile hgoal hold hnew htold
      | some floor =>
          have honly : options.updateFilesOnly = false := by
            rw [← Bool.not_eq_true, ← hfloor, hscan]
            simp
          obtain ⟨root, hroot⟩ := hlinks.exists_goal? c.directory.path
          have hindex := staysIn_ensureIndex hroot options hversions s (.refl hlinks)
          rw [run_of_floor hvalidate hscan, Run.run_bind] at hr
          rcases hensure : (c.ensureIndex options).outcome.run s with ⟨e | index, s₁⟩
          · rw [hensure] at hr hindex
            subst hr
            exact touched_of_staysIn honly hroot hindex (.refl s₁.files) hne
          · rw [hensure] at hr hindex
            dsimp only at hr
            rw [checkDirs_eq] at hr
            exact touched_of_staysIn honly hroot hindex (editsDirs_mapM editsDirs_checkDir hr) hne

/-- **What a run touches.**  Let there be no links, and no slash in the version that the source offers.
Wherever the files have changed after a run, whether it failed or not, the place is in the data directory
or a directory that was missing on the way to it, unless files only are updated; or it is a file of one of
the plugins that was there before, if files are to be updated, and is told as updated if the run succeeds;
or the report of one of the directories, if it is to be saved.  If nothing is to be written, nothing but the
data directory and the directories on the way to it has changed. -/
theorem run_touches (c : Checker) (dirs : List Path) (options : CheckOptions) (s : Session)
    (hlinks : Archive.NoLinks s.files [])
    (hversions : ∀ v, c.tools.source.latest.result = .ok v → '/' ∉ v.text.toList) :
    let r := (c.run dirs options).outcome.run s
    (∀ place, r.2.files.get? place ≠ s.files.get? place → ∃ found,
      resolveDirs s.files dirs = .ok found ∧
        Touched c options found s.files r.2.files r.1 place) ∧
    (options.saveReport = false → options.updateFiles = false → options.updateFilesOnly = false →
      ∀ root place, s.files.goal? c.directory.path = some root → isWithin root place = false →
        r.2.files.get? place = s.files.get? place ∨
          (place ∈ s.files.way c.directory.path ∧ s.files.get? place = none ∧
            r.2.files.get? place = some .directory)) := by
  intro r
  refine ⟨fun place => touched_of_run hlinks hversions rfl, ?_⟩
  intro hsave hupdate honly root place hroot hplace
  by_cases hsame : r.2.files.get? place = s.files.get? place
  · exact .inl hsame
  obtain ⟨found, _, htouched⟩ := touched_of_run hlinks hversions rfl hsame
  cases htouched with
  | data root' hscan hroot' hplace' =>
      obtain rfl : root = root' := Option.some.inj (hroot.symm.trans hroot')
      rw [hplace'] at hplace
      cases hplace
  | way hscan hway hold hnew => exact .inr ⟨hway, hold, hnew⟩
  | plugin dir file hwanted =>
      rw [hupdate, honly] at hwanted
      exact absurd hwanted (by simp)
  | report dir hscan hwanted =>
      rw [hsave] at hwanted
      cases hwanted

/-- A run that makes the data directory and then fails, since nothing is in the release but a member that
leads out of where it is unpacked to, and a run that only updates files. -/
theorem run_touches_made_and_updated :
    let c : Checker := ⟨.default, ⟨⟨"x/d"⟩⟩, ⟨fun _ => .error ⟨""⟩, .fixed .empty,
      ⟨⟨[], .ok ⟨[6, 7], none⟩⟩,
        fun _ => ⟨[], ⟨some (.archive [("wordpress/../y", .whole "1".toUTF8)]), none⟩⟩,
        fun failed _ => failed⟩⟩, "p"⟩
    let s := Session.start ((FileSystem.empty.put ["p"] .directory).put ["p", "readme.txt"]
      (.file (.bytes "Requires at least: 5.0\n".toUTF8)))
    let scan : CheckOptions := ⟨false, false, true, true, false, none, none⟩
    let update : CheckOptions := ⟨false, false, false, false, true, some "6.1", none⟩
    Archive.NoLinks s.files [] ∧
      (∀ v, c.tools.source.latest.result = .ok v → '/' ∉ v.text.toList) ∧
      ((c.run [⟨"p"⟩] scan).outcome.run s).2.files.get? ["x"] = some .directory ∧
      ((c.run [⟨"p"⟩] update).outcome.run s).2.files.get? ["p", "readme.txt"] =
        some (.file (.bytes "Requires at least: 6.1\n".toUTF8)) ∧
      ∀ options place, let r := (c.run [⟨"p"⟩] options).outcome.run s
        r.2.files.get? place ≠ s.files.get? place →
          Touched c options [⟨"/p"⟩] s.files r.2.files r.1 place := by
  intro c s scan update
  have hlinks : Archive.NoLinks s.files [] :=
    ((Archive.noLinks_empty _).put (List.cons_ne_nil _ _) (fun l hl => by cases hl)).put
      (List.cons_ne_nil _ _) (fun l hl => by cases hl)
  have hversions : ∀ v, c.tools.source.latest.result = .ok v → '/' ∉ v.text.toList := by
    intro v hv
    obtain rfl : ⟨[6, 7], none⟩ = v := Except.ok.inj hv
    decide +kernel
  have hdirs : resolveDirs s.files [⟨"p"⟩] = .ok [⟨"/p"⟩] := by cbv
  refine ⟨hlinks, hversions, by decide +kernel, by decide +kernel, fun options place hne => ?_⟩
  obtain ⟨found, hfound, htouched⟩ := (run_touches c [⟨"p"⟩] options s hlinks hversions).1 place hne
  obtain rfl := Except.ok.inj (hdirs.symm.trans hfound)
  exact htouched

/-- A data directory whose parent is missing: the parent is made, though nothing is asked for but a scan,
and it does not lie in the data directory. -/
theorem run_makes_parent :
    let c : Checker := ⟨.default, ⟨⟨"x/d"⟩⟩, ⟨fun _ => .error ⟨""⟩, .fixed .empty,
      ⟨⟨[], .ok ⟨[6, 7], none⟩⟩, fun _ => ⟨[], ⟨some (.archive []), none⟩⟩, fun failed _ => failed⟩⟩, "p"⟩
    let s := Session.start (FileSystem.empty.put ["p"] .directory)
    let options : CheckOptions := ⟨false, false, false, false, false, none, none⟩
    let after := ((c.run [⟨"p"⟩] options).outcome.run s).2.files
    Archive.NoLinks s.files [] ∧
      (∀ v, c.tools.source.latest.result = .ok v → '/' ∉ v.text.toList) ∧
      s.files.goal? c.directory.path = some ["x", "d"] ∧ isWithin ["x", "d"] ["x"] = false ∧
      s.files.get? ["x"] = none ∧ after.get? ["x"] = some .directory := by
  intro c s options after
  refine ⟨?_, fun v hv => ?_, by decide +kernel, by decide, by decide +kernel, by decide +kernel⟩
  · exact (Archive.noLinks_empty _).put (List.cons_ne_nil _ _) (fun l hl => by cases hl)
  · obtain rfl : ⟨[6, 7], none⟩ = v := Except.ok.inj hv
    decide +kernel

end runs

end Checker

end RequiredVersion
