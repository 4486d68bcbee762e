import RequiredVersion.Proofs.Storing
import RequiredVersion.Proofs.Unpacking
import RequiredVersion.Release.Depot

/-! # Bringing in a release

A release is brought in by three runs one after the other (`fetch_eq`): its archive is supplied, it is
unpacked beside the tree and put in the place of the tree, and what is left to do cannot fail.
`fetch_error_tree` says in what state a failure leaves the tree: as it was, but for one case.  An
archive without anything to unpack is unpacked without an error and leaves nothing to put in the place
of the tree, and this is found out only when the tree has gone. -/

namespace RequiredVersion.Depot

open FileSystem

/-! ### The runs that it is made of -/

/-- Has the archive of a release at its place. -/
def supply (d : Depot) (version : Version) : Run ReleaseFailure Unit := do
  if d.keepArchive && (← Run.files).isFile (d.directory.archive version) then
    Run.note area .info ("Reusing local archive " ++ (d.directory.archive version).quoted)
  else
    d.download version (d.directory.archive version)

/-- Unpacks the archive of a release and puts the release in the place of the tree. -/
def install (d : Depot) (version : Version) : Run ReleaseFailure Unit := do
  removeTree d.directory.staging
  let _ ← Archive.extract (d.directory.archive version) d.directory.staging
  removeTree d.directory.tree
  Run.change (fun e => .io d.directory.tree e)
    (fun fs => fs.rename d.directory.staging d.directory.tree)

/-- What is left to do for a release in its place. -/
def finish (d : Depot) (version : Version) : Run ReleaseFailure Path := do
  if !d.keepArchive then
    match ← liftM (Action.change (fun fs => fs.removeFile (d.directory.archive version))) with
    | .ok () => pure ()
    | .error e =>
      Run.note area .warn ("Failed to remove archive " ++ (d.directory.archive version).because e)
  Run.note area .info ("WordPress " ++ version.text ++ " stored at " ++ d.directory.tree.quoted)
  return d.directory.tree

theorem fetch_eq (d : Depot) (version : Version) :
    d.fetch version = (do d.supply version; d.install version; d.finish version) := by
  unfold fetch supply install finish
  simp only [bind_assoc]
  refine bind_congr (fun fs => ?_)
  split
  · rfl
  · rfl

theorem install_ok {d : Depot} {version : Version} {s s' : Session}
    (h : (d.install version).outcome.run s = (.ok (), s')) :
    ∃ n s₁ s₂ s₃, (removeTree d.directory.staging).outcome.run s = (.ok (), s₁) ∧
      (Archive.extract (d.directory.archive version) d.directory.staging).outcome.run s₁ = (.ok n, s₂) ∧
      (removeTree d.directory.tree).outcome.run s₂ = (.ok (), s₃) ∧
      (Run.change (fun e => ReleaseFailure.io d.directory.tree e)
        (fun fs => fs.rename d.directory.staging d.directory.tree)).outcome.run s₃ = (.ok (), s') := by
  unfold install at h
  obtain ⟨_, s₁, hclear, h⟩ := Run.run_bind_ok h
  obtain ⟨n, s₂, hextract, h⟩ := Run.run_bind_ok h
  obtain ⟨_, s₃, hremove, hmove⟩ := Run.run_bind_ok h
  exact ⟨n, s₁, s₂, s₃, hclear, hextract, hremove, hmove⟩

theorem finish_ok (d : Depot) (version : Version) (s : Session) :
    ∃ s', (d.finish version).outcome.run s = (.ok d.directory.tree, s') := by
  unfold finish
  split
  · rw [Run.run_bind, Run.run_liftM]
    dsimp only
    split
    · exact ⟨_, rfl⟩
    · exact ⟨_, rfl⟩
  · exact ⟨_, rfl⟩

theorem files_finish (d : Depot) (version : Version) (s : Session) :
    ((d.finish version).outcome.run s).2.files = s.files ∨
      s.files.removeFile (d.directory.archive version) =
        .ok ((d.finish version).outcome.run s).2.files := by
  unfold finish
  split
  · rw [Run.run_bind, Run.run_liftM, Action.run_change]
    cases s.files.removeFile (d.directory.archive version) with
    | ok fs => exact .inr rfl
    | error e => exact .inl rfl
  · exact .inl rfl

theorem fetch_ok {d : Depot} {version : Version} {s s' : Session} {tree : Path}
    (h : (d.fetch version).outcome.run s = (.ok tree, s')) : tree = d.directory.tree := by
  rw [fetch_eq] at h
  obtain ⟨_, s₁, _, h⟩ := Run.run_bind_ok h
  obtain ⟨_, s₂, _, hfinish⟩ := Run.run_bind_ok h
  obtain ⟨s₃, hok⟩ := finish_ok d version s₂
  rw [hok] at hfinish
  cases hfinish
  rfl

theorem retained?_eq {d : Depot} {fs : FileSystem} {tree : Path} (h : d.retained? fs = some tree) :
    tree = d.directory.tree := by
  unfold retained? at h
  split at h
  · exact (Option.some.inj h).symm
  · cases h

/-- All ways to fail. -/
theorem fetch_error {d : Depot} {version : Version} {s s' : Session} {e : ReleaseFailure}
    (h : (d.fetch version).outcome.run s = (.error e, s')) :
    (d.supply version).outcome.run s = (.error e, s') ∨
      ∃ s₁, (d.supply version).outcome.run s = (.ok (), s₁) ∧
        (d.install version).outcome.run s₁ = (.error e, s') := by
  rw [fetch_eq] at h
  rcases Run.run_bind_error h with hsupply | ⟨_, s₁, hsupply, h⟩
  · exact .inl hsupply
  · rcases Run.run_bind_error h with hinstall | ⟨_, s₂, _, hfinish⟩
    · exact .inr ⟨s₁, hsupply, hinstall⟩
    · obtain ⟨s₃, hok⟩ := finish_ok d version s₂
      rw [hok] at hfinish
      cases hfinish

/-! ### Supplying the archive -/

/-- What stands at the place of the archive once it has been supplied. -/
def supplied? (d : Depot) (version : Version) (fs : FileSystem) : Option Content :=
  let there := (fs.read (d.directory.archive version)).toOption
  if d.keepArchive && fs.isFile (d.directory.archive version) then there
  else (d.source.download version).result.written.or there

section supply
variable {d : Depot} {version : Version} {fs : FileSystem}

theorem download_eq (d : Depot) (version : Version) (dest : Path) :
    d.download version dest = (do
      modify (fun s => { s with downloads := s.downloads + 1 })
      liftM (Action.notes (d.source.download version).records)
      (d.source.download version).result.written.forM
        (Run.store (fun failed => .io (d.source.reported failed dest)) dest)
      (d.source.download version).result.failure.forM throw) := by
  unfold download
  refine bind_congr (fun _ => bind_congr (fun _ => ?_))
  cases (d.source.download version).result.written with
  | none => rfl
  | some content =>
      unfold Option.forM Run.store
      cases dest.parent? with
      | none => rfl
      | some dir => exact (bind_assoc _ _ _).symm

theorem stores_download (dest : Path) : Run.Keeps (fs.Stores dest) (d.download version dest) := by
  rw [download_eq]
  refine .bind (.modify (fun _ => rfl)) (fun _ => .bind (.notes _) (fun _ => .bind ?_ (fun _ => ?_)))
  · cases (d.source.download version).result.written with
    | none => exact .pure ()
    | some content => exact Run.stores_store
  · cases (d.source.download version).result.failure with
    | none => exact .pure ()
    | some e => exact .throw e

theorem stores_supply :
    Run.Keeps (fs.Stores (d.directory.archive version)) (d.supply version) := by
  unfold supply
  refine .bind .files (fun fs' => ?_)
  split
  · exact .note _ _ _
  · exact stores_download _

theorem supply_grows : Run.Keeps (Grows (· ∈ fs.way (d.directory.archive version))
    (· ∈ fs.way (d.directory.archive version)) fs) (d.supply version) := by
  intro s hs
  have hstores : s.files.Stores (d.directory.archive version)
      ((d.supply version).outcome.run s).2.files := stores_supply s (.refl s.files)
  rw [← hs.way_eq] at hs ⊢
  exact hs.trans (hstores.mono (fun _ => id) (fun _ => And.left))

theorem download_read {dest : Path} {s s' : Session}
    (h : (d.download version dest).outcome.run s = (.ok (), s')) :
    (s'.files.read dest).toOption =
      (d.source.download version).result.written.or (s.files.read dest).toOption := by
  rw [download_eq] at h
  obtain ⟨_, s₁, hmodify, h⟩ := Run.run_bind_ok h
  cases hmodify
  obtain ⟨_, s₂, hnotes, h⟩ := Run.run_bind_ok h
  cases hnotes
  obtain ⟨_, s₃, hstore, hreport⟩ := Run.run_bind_ok h
  have hsame : s' = s₃ := by
    cases hfailure : (d.source.download version).result.failure with
    | some e =>
        rw [hfailure] at hreport
        cases hreport
    | none =>
        rw [hfailure] at hreport
        cases hreport
        rfl
  rw [hsame]
  cases hwritten : (d.source.download version).result.written with
  | none =>
      rw [hwritten] at hstore
      cases hstore
      rfl
  | some content =>
      rw [hwritten] at hstore
      rw [Run.read_of_store hstore]
      rfl

theorem supply_read {s s' : Session} (h : (d.supply version).outcome.run s = (.ok (), s')) :
    (s'.files.read (d.directory.archive version)).toOption = d.supplied? version s.files := by
  unfold supply at h
  obtain ⟨fs', s₁, hfiles, h⟩ := Run.run_bind_ok h
  cases hfiles
  unfold supplied?
  split at h
  · next hreuse =>
      cases h
      rw [if_pos hreuse]
  · next hreuse =>
      rw [if_neg hreuse]
      exact download_read h

end supply

/-! ### Removing a directory -/

/-- All at a place and below it has gone, and all else is as it was. -/
structure Cleared (root : Place) (fs fs' : FileSystem) : Prop where
  cwd_eq : fs'.cwd = fs.cwd
  inside : ∀ place, isWithin root place = true → fs'.get? place = none
  outside : ∀ place, isWithin root place = false → fs'.get? place = fs.get? place

section clearing
variable {p : Path} {x : String} {s s' : Session}

theorem cleared_eraseTree (fs : FileSystem) {root : Place} (hroot : root ≠ []) :
    Cleared root fs (fs.eraseTree root) := by
  refine ⟨rfl, fun place hplace => ?_, fun place hplace => ?_⟩
  · rw [get?_eraseTree _ hroot, hplace, if_pos rfl]
  · rw [get?_eraseTree _ hroot, hplace, if_neg (by simp)]

/-- Removing what a path leads to succeeds, also where nothing is found, only for paths that can be
asked for. -/
theorem isUsable_of_removeTree (hempty : p.text.isEmpty = false)
    (h : (removeTree p).outcome.run s = (.ok (), s')) : IsUsable p := by
  have hok := Run.run_change_ok h
  rw [FileSystem.removeTree, resolve, hempty, if_neg (by simp)] at hok
  by_cases hnul : hasNul p.text = true
  · rw [if_pos hnul] at hok
    cases hok
  · refine ⟨hempty, by simpa using hnul, ?_⟩
    by_contra hlimit
    rw [if_neg hnul, if_pos (Nat.not_le.mp hlimit)] at hok
    cases hok

/-- Removing a directory clears its place, if its path can be followed so far. -/
theorem removeTree_ok (hx : IsFileName x)
    (hfree : ∀ dir, s.files.LeadsInto p dir → s.files.get? (dir ++ [x]) = none →
      ∀ place, isWithin (dir ++ [x]) place = true → s.files.get? place = none)
    (h : (removeTree (p.joinText x)).outcome.run s = (.ok (), s')) :
    IsUsable (p.joinText x) ∧
      ((s'.files = s.files ∧ ∀ dir, ¬ s.files.LeadsInto p dir) ∨
        ∃ dir, s.files.LeadsInto p dir ∧ Cleared (dir ++ [x]) s.files s'.files) := by
  have husable := isUsable_of_removeTree (Path.isEmpty_joinText hx.isName.1) h
  have hok := Run.run_change_ok h
  refine ⟨husable, ?_⟩
  by_cases hleads : ∃ dir, s.files.LeadsInto p dir
  · obtain ⟨dir, hdir⟩ := hleads
    refine .inr ⟨dir, hdir, ?_⟩
    rw [FileSystem.removeTree, resolve_child hx hdir husable, child] at hok
    have herased : Cleared (dir ++ [x]) s.files (s.files.eraseTree (dir ++ [x])) :=
      cleared_eraseTree _ (by simp)
    cases hget : s.files.get? (dir ++ [x]) with
    | none =>
        rw [hget] at hok
        rw [← Except.ok.inj hok]
        exact ⟨rfl, hfree dir hdir hget, fun _ _ => rfl⟩
    | some entry =>
        rw [hget] at hok
        cases entry with
        | file c => cases hok
        | directory =>
            rw [← Except.ok.inj hok]
            exact herased
        | link l =>
            rw [← Except.ok.inj hok]
            exact herased
  · refine .inl ⟨?_, fun dir hdir => hleads ⟨dir, hdir⟩⟩
    -- nothing was found, since no path behind `p` can be followed
    have hnone : ∀ t, s.files.resolve (p.joinText x) .entry ≠ .ok t := fun t ht =>
      hleads ((leadsInto_of_resolve_child hx ht).imp (fun _ h => h.1))
    cases hresolve : s.files.resolve (p.joinText x) .entry with
    | ok t => exact absurd hresolve (hnone t)
    | error cause =>
        rw [FileSystem.removeTree, hresolve] at hok
        cases cause with
        | notFound => exact (Except.ok.inj hok).symm
        | _ => cases hok

theorem removeTree_error {e : ReleaseFailure}
    (h : (removeTree p).outcome.run s = (.error e, s')) : s' = s :=
  (Run.run_change_error h).1

theorem Cleared.way_eq {root : Place} {fs fs' : FileSystem} (h : Cleared root fs fs')
    (hway : ∀ place ∈ fs.way p, isWithin root place = false) : fs'.way p = fs.way p := by
  rw [way, way, route, route, show fs'.start p = fs.start p by rw [start, start, h.cwd_eq]]
  rw [routeSteps_congr p.names (fun place hplace l => by rw [h.outside place (hway place hplace)])]

/-- A path that does not lead through a cleared place leads where it led. -/
theorem Cleared.leadsInto {root dir : Place} {fs fs' : FileSystem} (h : Cleared root fs fs')
    (hway : ∀ place ∈ fs.way p, isWithin root place = false) (hleads : fs.LeadsInto p dir) :
    fs'.LeadsInto p dir := by
  obtain ⟨k, harrives⟩ := hleads
  refine ⟨k, ?_⟩
  rw [show fs'.start p = fs.start p by rw [start, start, h.cwd_eq]]
  exact harrives.congr (fun place hplace => h.outside place (hway place hplace))

end clearing

/-! ### Putting a release in the place of the tree -/

theorem isFileName_staging : IsFileName "wordpress-temp" :=
  ⟨by decide, by decide, by decide⟩

theorem isFileName_tree : IsFileName "wordpress" := ⟨by decide, by decide, by decide⟩

theorem isWithin_tree_of_staging {dir place : Place}
    (h : isWithin (dir ++ ["wordpress-temp"]) place = true) :
    isWithin (dir ++ ["wordpress"]) place = false := by
  obtain ⟨below, rfl⟩ := List.isPrefixOf_iff_prefix.mp h
  rw [Bool.eq_false_iff]
  intro h'
  have hinitial := List.isPrefixOf_iff_prefix.mp h'
  rw [List.append_assoc, List.prefix_append_right_inj, List.singleton_append] at hinitial
  exact absurd (List.cons_prefix_cons.mp hinitial).1 (by decide)

section install
variable {d : Depot} {version : Version} {dir : Place} {s s' : Session}

theorem isAbsolute_archiveName (version : Version) :
    (⟨"wordpress-" ++ version.text ++ ".zip"⟩ : Path).isAbsolute = false := by
  simp [Path.isAbsolute, String.toList_append]

theorem leadsInto_of_read_archive {fs : FileSystem} {content : Content}
    (h : fs.read (d.directory.archive version) = .ok content) :
    ∃ dir, fs.LeadsInto d.directory.path dir := by
  have hrel := isAbsolute_archiveName version
  have hne : ("wordpress-" ++ version.text ++ ".zip").isEmpty = false := by
    rw [Bool.eq_false_iff, ne_eq, String.isEmpty_iff, ← String.toList_inj]
    simp [String.toList_append]
  unfold FileSystem.read at h
  split at h
  · next hresolve =>
      obtain ⟨dir, k, _, harrives, _⟩ :=
        resolve_join_ok hrel (Path.names_ne_nil hrel hne) hresolve
      exact ⟨dir, k, harrives⟩
  · cases h
  · cases h
  · cases h

/-- Unpacking an archive beside the tree changes nothing but what is there, if the path of no member
goes above its start. -/
theorem get?_extract_staging {archive : Path} (hdir : s.files.LeadsInto d.directory.path dir)
    (hlinks : Archive.NoLinks s.files (dir ++ ["wordpress-temp"]))
    (hmembers : ∀ members, s.files.read archive = .ok (.archive members) →
      ∀ name ∈ members.map Prod.fst, Archive.isSafe name = true →
        Archive.staysBelow 0 (Archive.memberPath name).components = true)
    {place : Place} (hplace : isWithin (dir ++ ["wordpress-temp"]) place = false) :
    ((Archive.extract archive d.directory.staging).outcome.run s).2.files.get? place =
      s.files.get? place := by
  have hnolink : ∀ l, s.files.get? (dir ++ ["wordpress-temp"]) ≠ some (.link l) :=
    fun l => hlinks _ l (isWithin_self _)
  rcases Archive.unpacks_extract archive d.directory.staging s with hsame | ⟨members, hread, hgrows⟩
  · rw [hsame]
  · have hgoal : s.files.goal? d.directory.staging = some (dir ++ ["wordpress-temp"]) :=
      goal?_child isFileName_staging hdir hnolink
    have hreached : ¬ Archive.Reached s.files d.directory.staging (members.map Prod.fst) place := by
      intro hreached
      rcases hreached.within_or_escaped hgoal hlinks with hwithin | ⟨name, hname, hsafe, hup, _⟩
      · rw [hwithin] at hplace
        cases hplace
      · rw [hmembers members hread name hname hsafe] at hup
        cases hup
    rcases hgrows.entry place with hkeep | ⟨hway | hreach, hnone, _⟩ | ⟨hreach, _⟩
    · exact hkeep
    · -- the way to the data directory is there already
      obtain ⟨k, harrives⟩ := hdir
      rw [way, DataDirectory.staging, route_child isFileName_staging harrives,
        routeSteps_down isFileName_staging.isName hnolink, routeSteps_nil] at hway
      rcases List.mem_append.mp hway with hway | hlast
      · rcases (harrives.passable place hway).1 with h | ⟨l, h⟩ <;> rw [hnone] at h <;> cases h
      · rw [List.mem_singleton.mp hlast, isWithin_self] at hplace
        cases hplace
    · exact absurd hreach hreached
    · exact absurd hreach hreached

/-- A renaming within the data directory fails only if there is nothing to rename, or a tree in the
way. -/
theorem rename_error {fs : FileSystem} {cause : Cause} (hdir : fs.LeadsInto d.directory.path dir)
    (hstaging : IsUsable d.directory.staging) (htree : IsUsable d.directory.tree)
    (hfree : fs.get? (dir ++ ["wordpress"]) = none)
    (h : fs.rename d.directory.staging d.directory.tree = .error cause) :
    fs.get? (dir ++ ["wordpress-temp"]) = none ∧ cause = .notFound := by
  have hsource : fs.resolve d.directory.staging .entry = .ok (fs.child dir "wordpress-temp") :=
    resolve_child isFileName_staging hdir hstaging
  have hdest : fs.resolve d.directory.tree .entry = .ok (fs.child dir "wordpress") :=
    resolve_child isFileName_tree hdir htree
  rw [rename, hsource, hdest, child, child, hfree] at h
  cases hget : fs.get? (dir ++ ["wordpress-temp"]) with
  | none =>
      rw [hget] at h
      exact ⟨rfl, (Except.error.inj h).symm⟩
  | some entry =>
      rw [hget] at h
      cases h

theorem way_path_subset {fs : FileSystem} :
    fs.way d.directory.path ⊆ fs.way (d.directory.archive version) := by
  intro place hplace
  rw [DataDirectory.archive, Path.joinText, way_join (isAbsolute_archiveName version)]
  exact List.mem_append_left _ hplace

/-- What bringing in a release relies on: where the data directory is, that the archive is not in the
tree or beside it where it is unpacked, that nothing is below these places if they are free, and that
the path of no member goes above its start. -/
structure Ready (d : Depot) (version : Version) (dir : Place) (fs : FileSystem) : Prop where
  goal : fs.goal? d.directory.path = some dir
  off_tree : ∀ place ∈ fs.way (d.directory.archive version),
    isWithin (dir ++ ["wordpress"]) place = false
  off_staging : ∀ place ∈ fs.way (d.directory.archive version),
    isWithin (dir ++ ["wordpress-temp"]) place = false
  free_tree : fs.get? (dir ++ ["wordpress"]) = none →
    ∀ place, isWithin (dir ++ ["wordpress"]) place = true → fs.get? place = none
  free_staging : fs.get? (dir ++ ["wordpress-temp"]) = none →
    ∀ place, isWithin (dir ++ ["wordpress-temp"]) place = true → fs.get? place = none
  members : ∀ members, fs.read (d.directory.archive version) = .ok (.archive members) →
    ∀ name ∈ members.map Prod.fst, Archive.isSafe name = true →
      Archive.staysBelow 0 (Archive.memberPath name).components = true

/-- The tree is removed and another one is put in its place: this changes nothing, or fails for want
of another one. -/
theorem replace_error {e : ReleaseFailure} (hleads : s.files.LeadsInto d.directory.path dir)
    (hway : ∀ place ∈ s.files.way d.directory.path, isWithin (dir ++ ["wordpress"]) place = false)
    (hfree : s.files.get? (dir ++ ["wordpress"]) = none →
      ∀ place, isWithin (dir ++ ["wordpress"]) place = true → s.files.get? place = none)
    (hstaging : IsUsable d.directory.staging)
    (h : (do
      removeTree d.directory.tree
      Run.change (fun e => .io d.directory.tree e)
        (fun fs => fs.rename d.directory.staging d.directory.tree) :
          Run ReleaseFailure Unit).outcome.run s = (.error e, s')) :
    s' = s ∨ (e = .io d.directory.tree .notFound ∧
      s.files.get? (dir ++ ["wordpress-temp"]) = none ∧
      ∀ place, isWithin (dir ++ ["wordpress"]) place = true → s'.files.get? place = none) := by
  have hdirs : ∀ {dir'}, s.files.LeadsInto d.directory.path dir' → dir' = dir := fun h =>
    Option.some.inj (h.goal?_eq.symm.trans hleads.goal?_eq)
  rcases Run.run_bind_error h with h | ⟨_, s₁, hremove, h⟩
  · exact .inl (removeTree_error h)
  obtain ⟨htree, ⟨_, hno⟩ | ⟨dir', hleads', hcleared⟩⟩ := removeTree_ok isFileName_tree
    (fun dir' hdir' => by rw [hdirs hdir']; exact hfree) hremove
  · exact absurd hleads (hno dir)
  obtain rfl := hdirs hleads'
  obtain ⟨rfl, cause, hrename, rfl⟩ := Run.run_change_error h
  obtain ⟨hnone, rfl⟩ := rename_error (hcleared.leadsInto hway hleads) hstaging htree
    (hcleared.inside _ (isWithin_self _)) hrename
  have hother : isWithin (dir' ++ ["wordpress"]) (dir' ++ ["wordpress-temp"]) = false :=
    isWithin_tree_of_staging (isWithin_self _)
  refine .inr ⟨rfl, ?_, hcleared.inside⟩
  rw [← hcleared.outside _ hother]
  exact hnone

theorem get?_supply {fs fs' : FileSystem} {root place : Place}
    (hgrows : Grows (· ∈ fs.way (d.directory.archive version))
      (· ∈ fs.way (d.directory.archive version)) fs fs')
    (hoff : ∀ place ∈ fs.way (d.directory.archive version), isWithin root place = false)
    (hplace : isWithin root place = true) : fs'.get? place = fs.get? place := by
  have hnot : place ∉ fs.way (d.directory.archive version) := fun h => by
    rw [hoff place h] at hplace
    cases hplace
  exact hgrows.get?_eq hnot hnot

theorem extract_of_unread {archive dest : Path}
    (hunread : ∀ content, s.files.read archive ≠ .ok content) :
    ∃ e s', (Archive.extract archive dest).outcome.run s = (.error e, s') ∧ s'.files = s.files := by
  cases hrun : (Archive.extract archive dest).outcome.run s with
  | mk result s' =>
      cases result with
      | ok n =>
          obtain ⟨members, hread, _⟩ := Archive.leadsInto_of_extract hrun
          exact absurd hread (hunread _)
      | error e =>
          refine ⟨e, s', rfl, ?_⟩
          rcases Archive.unpacks_extract archive dest s with hkept | ⟨members, hread, _⟩
          · rwa [hrun] at hkept
          · exact absurd hread (hunread _)

section staging
variable {s₁ : Session} (hready : Ready d version dir s.files)
  (hcleared : Cleared (dir ++ ["wordpress-temp"]) s.files s₁.files)
include hready hcleared

theorem read_archive_of_cleared :
    s₁.files.read (d.directory.archive version) = s.files.read (d.directory.archive version) :=
  read_congr hcleared.cwd_eq
    (fun place hplace => hcleared.outside place (hready.off_staging place hplace))

theorem leadsInto_of_cleared (hleads : s.files.LeadsInto d.directory.path dir) :
    s₁.files.LeadsInto d.directory.path dir :=
  hcleared.leadsInto (fun place hplace => hready.off_staging place (way_path_subset hplace)) hleads

/-- Removing and unpacking beside the tree leaves the tree alone. -/
theorem get?_tree_of_cleared (hleads : s.files.LeadsInto d.directory.path dir) {place : Place}
    (hplace : isWithin (dir ++ ["wordpress"]) place = true) :
    ((Archive.extract (d.directory.archive version)
      d.directory.staging).outcome.run s₁).2.files.get? place = s.files.get? place := by
  have hlinks : Archive.NoLinks s₁.files (dir ++ ["wordpress-temp"]) := by
    intro place l hplace
    rw [hcleared.inside place hplace]
    simp
  have hother : isWithin (dir ++ ["wordpress-temp"]) place = false := by
    rw [Bool.eq_false_iff]
    intro h
    rw [isWithin_tree_of_staging h] at hplace
    cases hplace
  have hmembers := hready.members
  rw [← read_archive_of_cleared hready hcleared] at hmembers
  rw [get?_extract_staging (leadsInto_of_cleared hready hcleared hleads) hlinks hmembers hother,
    hcleared.outside place hother]

end staging

/-- A failure to put a release in the place of the tree leaves the tree as it was, unless the archive
holds nothing to unpack; then the tree has gone. -/
theorem install_error {e : ReleaseFailure} (hready : Ready d version dir s.files)
    (h : (d.install version).outcome.run s = (.error e, s')) :
    (∀ place, isWithin (dir ++ ["wordpress"]) place = true →
      s'.files.get? place = s.files.get? place) ∨
    (e = .io d.directory.tree .notFound ∧
      (∃ members, s.files.read (d.directory.archive version) = .ok (.archive members) ∧
        ∀ name ∈ members.map Prod.fst, ¬ Archive.IsUnpacked name) ∧
      ∀ place, isWithin (dir ++ ["wordpress"]) place = true → s'.files.get? place = none) := by
  have hdirs : ∀ {dir'}, s.files.LeadsInto d.directory.path dir' → dir' = dir := fun h =>
    Option.some.inj (h.goal?_eq.symm.trans hready.goal)
  unfold install at h
  rcases Run.run_bind_error h with h | ⟨_, s₁, hremove, h⟩
  · rw [removeTree_error h]
    exact .inl (fun _ _ => rfl)
  obtain ⟨hstaging, ⟨hsame, hno⟩ | ⟨dir', hleads, hcleared⟩⟩ := removeTree_ok isFileName_staging
    (fun dir' hdir' => by rw [hdirs hdir']; exact hready.free_staging) hremove
  · -- the path of the data directory cannot be followed, so the archive cannot be read
    have hunread : ∀ content, s₁.files.read (d.directory.archive version) ≠ .ok content := by
      intro content hread
      rw [hsame] at hread
      obtain ⟨dir', hdir'⟩ := leadsInto_of_read_archive hread
      exact hno dir' hdir'
    obtain ⟨_, s₂, hextract, hkept⟩ := extract_of_unread hunread
    rw [Run.run_bind, hextract] at h
    cases h
    exact .inl (fun _ _ => by rw [hkept, hsame])
  obtain rfl := hdirs hleads
  have htree : ∀ place, isWithin (dir' ++ ["wordpress"]) place = true → _ :=
    fun place hplace => get?_tree_of_cleared hready hcleared hleads hplace
  rcases Run.run_bind_error h with h | ⟨n, s₂, hextract, h⟩
  · rw [h] at htree
    exact .inl htree
  rw [hextract] at htree
  obtain ⟨names, hgrows⟩ : ∃ names, Archive.Unpacks s₁.files d.directory.staging names s₂.files := by
    have hunpacks := Archive.unpacks_extract (d.directory.archive version) d.directory.staging s₁
    rw [hextract] at hunpacks
    rcases hunpacks with hsame | ⟨members, _, hgrows⟩
    · exact ⟨[], by rw [hsame]; exact .refl _⟩
    · exact ⟨_, hgrows⟩
  have hleads₂ : s₂.files.LeadsInto d.directory.path dir' :=
    hgrows.leadsInto (leadsInto_of_cleared hready hcleared hleads)
  have hway : ∀ place ∈ s₂.files.way d.directory.path,
      isWithin (dir' ++ ["wordpress"]) place = false := by
    rw [hgrows.way_eq, hcleared.way_eq
      (fun place hplace => hready.off_staging place (way_path_subset hplace))]
    exact fun place hplace => hready.off_tree place (way_path_subset hplace)
  have hfree : s₂.files.get? (dir' ++ ["wordpress"]) = none →
      ∀ place, isWithin (dir' ++ ["wordpress"]) place = true → s₂.files.get? place = none := by
    intro hnone place hplace
    rw [htree _ (isWithin_self _)] at hnone
    rw [htree place hplace]
    exact hready.free_tree hnone place hplace
  rcases replace_error hleads₂ hway hfree hstaging h with hsame | ⟨he, hnone, hgone⟩
  · rw [hsame]
    exact .inl htree
  · refine .inr ⟨he, ?_, hgone⟩
    obtain ⟨members, hmembers, hexists⟩ := Archive.leadsInto_of_extract hextract
    rw [read_archive_of_cleared hready hcleared] at hmembers
    refine ⟨members, hmembers, fun name hname hunpacked => ?_⟩
    obtain ⟨dir, hdir⟩ := hexists ⟨name, hname, hunpacked⟩
    exact get?_of_leadsInto_child isFileName_staging hleads₂ hdir hnone

end install

/-- **A release is brought in as a whole or not at all**, unless its archive holds nothing to unpack.
A failure leaves all of the tree as it was, or else the archive has no member that leads to
something, the failure is that nothing is found to put in the place of the tree, and nothing is left
of the tree. -/
theorem fetch_error_tree (d : Depot) (version : Version) (s s' : Session) (e : ReleaseFailure)
    (dir : Place) (hclosed : s.files.Closed)
    (hgoal : s.files.goal? d.directory.path = some dir)
    (hoff : ∀ place ∈ s.files.way (d.directory.archive version),
      isWithin (dir ++ ["wordpress"]) place = false ∧
        isWithin (dir ++ ["wordpress-temp"]) place = false)
    (hmembers : ∀ members, d.supplied? version s.files = some (.archive members) →
      ∀ name ∈ members.map Prod.fst, Archive.isSafe name = true →
        Archive.staysBelow 0 (Archive.memberPath name).components = true)
    (h : (d.fetch version).outcome.run s = (.error e, s')) :
    (∀ place, isWithin (dir ++ ["wordpress"]) place = true →
      s'.files.get? place = s.files.get? place) ∨
    (e = .io d.directory.tree .notFound ∧
      (∃ members, d.supplied? version s.files = some (.archive members) ∧
        ∀ name ∈ members.map Prod.fst, ¬ Archive.IsUnpacked name) ∧
      ∀ place, isWithin (dir ++ ["wordpress"]) place = true → s'.files.get? place = none) := by
  have hgrows : Grows (· ∈ s.files.way (d.directory.archive version))
      (· ∈ s.files.way (d.directory.archive version)) s.files
      ((d.supply version).outcome.run s).2.files := supply_grows s (.refl s.files)
  have htree : ∀ place ∈ s.files.way (d.directory.archive version),
      isWithin (dir ++ ["wordpress"]) place = false := fun place hplace => (hoff place hplace).1
  have hstaging : ∀ place ∈ s.files.way (d.directory.archive version),
      isWithin (dir ++ ["wordpress-temp"]) place = false := fun place hplace => (hoff place hplace).2
  rcases fetch_error h with hsupply | ⟨s₁, hsupply, hinstall⟩
  · rw [hsupply] at hgrows
    exact .inl (fun place hplace => get?_supply hgrows htree hplace)
  rw [hsupply] at hgrows
  have hread := supply_read hsupply
  have hfree : ∀ root : Place, (∀ place ∈ s.files.way (d.directory.archive version),
      isWithin root place = false) → s₁.files.get? root = none →
        ∀ place, isWithin root place = true → s₁.files.get? place = none := by
    intro root hroot hnone place hplace
    rw [get?_supply hgrows hroot (isWithin_self root)] at hnone
    rw [get?_supply hgrows hroot hplace]
    exact hclosed.get?_eq_none hnone hplace
  have hready : Ready d version dir s₁.files := {
    goal := by rw [hgrows.goal?_eq, hgoal]
    off_tree := by rw [hgrows.way_eq]; exact htree
    off_staging := by rw [hgrows.way_eq]; exact hstaging
    free_tree := hfree _ htree
    free_staging := hfree _ hstaging
    members := fun members hmember => hmembers members (by rw [← hread, hmember]; rfl) }
  rcases install_error hready hinstall with hkept | ⟨he, ⟨members, hmember, hnone⟩, hgone⟩
  · exact .inl (fun place hplace => (hkept place hplace).trans (get?_supply hgrows htree hplace))
  · exact .inr ⟨he, ⟨members, by rw [← hread, hmember]; rfl, hnone⟩, hgone⟩

/-- An archive with nothing but its top directory leaves no tree. -/
theorem fetch_error_tree_gone :
    let d : Depot := ⟨⟨⟨"."⟩⟩, ⟨⟨[], .error (.invalidResponse "")⟩,
      fun _ => ⟨[], ⟨some (.archive [("wordpress/", .whole ⟨#[]⟩)]), none⟩⟩, fun failed _ => failed⟩,
      false, false⟩
    let s := Session.start
      ((FileSystem.empty.put ["wordpress"] .directory).put ["wordpress", "a"] (.file (.bytes ⟨#[]⟩)))
    s.files.Closed ∧ s.files.goal? d.directory.path = some [] ∧
      (∀ place ∈ s.files.way (d.directory.archive ⟨[6], none⟩),
        isWithin ["wordpress"] place = false ∧ isWithin ["wordpress-temp"] place = false) ∧
      (∀ members, d.supplied? ⟨[6], none⟩ s.files = some (.archive members) →
        ∀ name ∈ members.map Prod.fst, Archive.isSafe name = true →
          Archive.staysBelow 0 (Archive.memberPath name).components = true) ∧
      ∃ e s', (d.fetch ⟨[6], none⟩).outcome.run s = (.error e, s') ∧
        e = .io d.directory.tree .notFound ∧
        s.files.get? ["wordpress", "a"] ≠ none ∧ s'.files.get? ["wordpress", "a"] = none := by
  intro d s
  have hclosed : s.files.Closed :=
    (closed_empty.put .directory (List.cons_ne_nil _ _) rfl rfl).put _ (List.cons_ne_nil _ _)
      (by decide +kernel) (by decide +kernel)
  have hgoal : s.files.goal? d.directory.path = some [] := by decide +kernel
  have hoff : ∀ place ∈ s.files.way (d.directory.archive ⟨[6], none⟩),
      isWithin ["wordpress"] place = false ∧ isWithin ["wordpress-temp"] place = false := by
    decide +kernel
  have hsupplied : d.supplied? ⟨[6], none⟩ s.files = some (.archive [("wordpress/", .whole ⟨#[]⟩)]) := by
    decide +kernel
  have hmembers : ∀ members, d.supplied? ⟨[6], none⟩ s.files = some (.archive members) →
      ∀ name ∈ members.map Prod.fst, Archive.isSafe name = true →
        Archive.staysBelow 0 (Archive.memberPath name).components = true := by
    intro members h
    rw [hsupplied] at h
    cases h
    decide +kernel
  have hrun : (d.fetch ⟨[6], none⟩).outcome.run s =
      (.error (.io d.directory.tree .notFound), ((d.fetch ⟨[6], none⟩).outcome.run s).2) :=
    Prod.ext (by decide +kernel) rfl
  refine ⟨hclosed, hgoal, hoff, hmembers, _, _, hrun, rfl, by decide +kernel, ?_⟩
  rcases fetch_error_tree d _ s _ _ [] hclosed hgoal hoff hmembers hrun with hkept | ⟨_, _, hgone⟩
  · have hlost : ((d.fetch ⟨[6], none⟩).outcome.run s).2.files.get? ["wordpress"] ≠
        s.files.get? ["wordpress"] := by decide +kernel
    exact absurd (hkept ["wordpress"] (by decide)) hlost
  · exact hgone ["wordpress", "a"] (by decide)

end RequiredVersion.Depot
