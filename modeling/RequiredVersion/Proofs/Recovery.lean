import RequiredVersion.Proofs.TidyDirectory
import RequiredVersion.Proofs.WholeArchives

/-! # Bringing in a release after failures

Attempts leave the data directory tidy, however they end.  So a whole archive that is supplied is brought in
(`Depot.fetch_release`), whatever came before.

What is supplied is another matter.  An archive that is kept is used again as it stands, and one that cannot be
unpacked stays there (`Depot.fetch_useless`).  `Depot.fetch_after_attempts` puts both together. -/

namespace RequiredVersion

open FileSystem

/-! ### Archives with everything or nothing -/

namespace Archive

/-- A whole archive with a version file and no damage. -/
structure IsRelease (dest : Path) (members : List (String × Member)) : Prop where
  whole : IsWhole dest (members.map Prod.fst)
  undamaged : ∀ m ∈ distinct members, isDamaged m.1 m.2 = false
  versionFile : topName ++ "/" ++ Index.versionFile ∈ members.map Prod.fst

/-- No archive, or one of which no member is unpacked or one is damaged. -/
def IsUseless (content : Content) : Prop :=
  ∀ members, content = .archive members →
    (∀ name ∈ members.map Prod.fst, ¬ IsUnpacked name) ∨
      ∃ m ∈ distinct members, isDamaged m.1 m.2 = true

section content
variable {dest : Path} {members : List (String × Member)}

theorem exists_contentAt? {parts : List String} {name : String} (hat : isAt parts name = true)
    (hname : name ∈ members.map Prod.fst) : ∃ data, contentAt? parts members = some data := by
  induction members with
  | nil => cases hname
  | cons m rest ih =>
      rw [contentAt?]
      cases hrest : contentAt? parts rest with
      | some data => exact ⟨data, rfl⟩
      | none =>
          rcases List.mem_cons.mp hname with rfl | hmem
          · exact ⟨m.2.data, by rw [hat]; rfl⟩
          · obtain ⟨data, hdata⟩ := ih hmem
            rw [hrest] at hdata
            cases hdata

theorem IsRelease.isUnpacked : IsUnpacked (topName ++ "/" ++ Index.versionFile) :=
  ⟨by decide, by decide⟩

theorem IsRelease.exists_content (h : IsRelease dest members) :
    ∃ data, contentAt? Index.versionParts (distinct members) = some data :=
  exists_contentAt? (by decide) ((mem_names_distinct _ members).mpr h.versionFile)

theorem IsRelease.isUsable (h : IsRelease dest members) : IsUsable (dest.joinText Index.versionFile) := by
  have hmember : memberPath (topName ++ "/" ++ Index.versionFile) = ⟨Index.versionFile⟩ := by decide
  have husable := h.whole.usable _ h.versionFile IsRelease.isUnpacked
  rwa [hmember] at husable

/-- What is useless leaves nothing where it is unpacked to its end. -/
theorem files_extract_useless {archive : Path} {content : Content} {s s' : Session} {n : Nat}
    (hread : s.files.read archive = .ok content) (huseless : IsUseless content)
    (h : (extract archive dest).outcome.run s = (.ok n, s')) : s'.files = s.files := by
  obtain ⟨members, s₁, s₂, hread', hsame, hwrite, hfiles⟩ := extract_ok h
  cases hread.symm.trans hread'
  rcases huseless members rfl with hnone | ⟨m, hm, hdamaged⟩
  · have hmembers : ∀ m ∈ distinct members, ¬ IsUnpacked m.1 := fun m hm =>
      hnone m.1 ((mem_names_distinct m.1 members).mp (List.mem_map_of_mem hm))
    have hkept : ((writeMembers archive dest (distinct members)).outcome.run s₁).2.files = s.files :=
      keeps_writeMembers (P := (· = s.files)) (fun m hm => keeps_writeMember
      (fun hname => absurd hname (hmembers m hm)) (fun hname => absurd hname (hmembers m hm))) s₁ hsame
    rw [hwrite] at hkept
    rw [hfiles]
    exact hkept
  · rw [isDamaged_of_extract hread h m hm] at hdamaged
    cases hdamaged

end content

end Archive

namespace Depot

open DataDirectory

/-! ### Bringing in a whole archive -/

/-- Is an archive that is there used again? -/
def reuses (d : Depot) (version : Version) (fs : FileSystem) : Bool :=
  d.keepArchive && fs.isFile (d.directory.archive version)

section whole
variable {d : Depot} {version : Version} {dir : Place} {s : Session}
  {members : List (String × Member)}

theorem reuses_eq_true : d.reuses version s.files = true ↔
    d.keepArchive = true ∧ ∃ content, s.files.read (d.directory.archive version) = .ok content := by
  rw [reuses, Bool.and_eq_true]
  refine and_congr_right (fun _ => ⟨fun hfile => ?_, fun ⟨content, hread⟩ => ?_⟩)
  · unfold isFile at hfile
    split at hfile
    · next place content hresolve => exact ⟨content, by rw [FileSystem.read, hresolve]⟩
    · cases hfile
  · obtain ⟨_, hresolve, _⟩ := read_ok hread
    rw [isFile, hresolve]

theorem supply_of_reuses (h : d.reuses version s.files = true) :
    ∃ s', (d.supply version).outcome.run s = (.ok (), s') ∧ s'.files = s.files := by
  rw [reuses] at h
  rw [supply, Run.run_bind, Run.run_files]
  dsimp only
  rw [if_pos h]
  exact ⟨_, rfl, rfl⟩

/-- The source is not asked for an archive that is used again. -/
theorem fetch_of_reuses (source : ReleaseSource) (h : d.reuses version s.files = true) :
    (fetch { d with source } version).outcome.run s = (d.fetch version).outcome.run s := by
  have hsame : (supply { d with source } version).outcome.run s = (d.supply version).outcome.run s := by
    rw [reuses] at h
    rw [supply, supply, Run.run_bind, Run.run_bind, Run.run_files]
    dsimp only
    rw [if_pos h, if_pos h]
  rw [fetch_eq, fetch_eq, Run.run_bind, Run.run_bind, hsame]
  rfl

theorem supply_of_delivered {content : Content} (hname : IsFileName (archiveName version))
    (husable : IsUsable (d.directory.archive version)) (htidy : Tidy d.directory version dir s.files)
    (hreuses : d.reuses version s.files = false)
    (hreply : (d.source.download version).result = ⟨some content, none⟩) :
    ∃ s', (d.supply version).outcome.run s = (.ok (), s') := by
  obtain ⟨s₁, hcount, hfiles₁⟩ : ∃ s₁, (modify (fun s => { s with downloads := s.downloads + 1 }) :
      Run ReleaseFailure Unit).outcome.run s = (.ok (), s₁) ∧ s₁.files = s.files := ⟨_, rfl, rfl⟩
  obtain ⟨s₂, hnotes, hfiles₂⟩ : ∃ s₂, (liftM (Action.notes (d.source.download version).records) :
      Run ReleaseFailure Unit).outcome.run s₁ = (.ok (), s₂) ∧ s₂.files = s₁.files := ⟨_, rfl, rfl⟩
  rw [hfiles₁] at hfiles₂
  have hget : s₂.files.get? (dir ++ [archiveName version]) = none ∨
      ∃ c, s₂.files.get? (dir ++ [archiveName version]) = some (.file c) := by
    rw [hfiles₂]
    exact none_or_file htidy.archive (fun l => htidy.located.found.not_link l)
  obtain ⟨s₃, hstore⟩ := Run.store_child
    (fun failed => ReleaseFailure.io (d.source.reported failed (d.directory.archive version)))
    content hname (hfiles₂ ▸ htidy.leads) husable hget
  change (Run.store _ (d.directory.archive version) content).outcome.run s₂ = _ at hstore
  rw [reuses] at hreuses
  rw [supply, Run.run_bind, Run.run_files]
  dsimp only
  rw [if_neg (by simp [hreuses]), download_eq, Run.run_bind, hcount]
  dsimp only
  rw [Run.run_bind, hnotes]
  dsimp only
  rw [hreply]
  dsimp only [Option.forM]
  rw [Run.run_bind, hstore]
  exact ⟨s₃, rfl⟩

theorem removeTree_clearable {p : Path} {x : String} (hx : IsFileName x)
    (hleads : s.files.LeadsInto p dir) (husable : IsUsable (p.joinText x))
    (hclear : s.files.Clearable (dir ++ [x])) :
    ∃ s', (removeTree (p.joinText x)).outcome.run s = (.ok (), s') ∧
      Cleared (dir ++ [x]) s.files s'.files := by
  rw [removeTree, Run.run_change, FileSystem.removeTree, resolve_child hx hleads husable, child]
  rcases hclear with hdir | hfree
  · rw [hdir]
    exact ⟨_, rfl, cleared_eraseTree _ (by simp)⟩
  · rw [hfree _ (isWithin_self _)]
    exact ⟨_, rfl, rfl, hfree, fun _ _ => rfl⟩

/-- A path is as usable in the tree as beside it. -/
theorem isUsable_tree {q : Path} (hq : q.isAbsolute = false)
    (h : IsUsable (d.directory.staging.join q)) : IsUsable (d.directory.tree.join q) := by
  obtain ⟨before, hbefore⟩ := d.directory.path.exists_text_joinText
  have hjoin : ∀ x, IsPlain x →
      ((d.directory.path.joinText x).join q).text = before ++ x ++ "/" ++ q.text := fun x hx => by
    rw [Path.join_eq (Path.isEmpty_joinText hx.1.1) (getLast?_joinText hx) hq,
      hbefore x hx.isAbsolute]
  obtain ⟨_, hnul, hlimit⟩ := h
  rw [DataDirectory.staging, hjoin _ (by decide)] at hnul hlimit
  rw [IsUsable, DataDirectory.tree, hjoin _ (by decide)]
  refine ⟨?_, ?_, ?_⟩
  · rw [Bool.eq_false_iff, ne_eq, String.isEmpty_iff, ← String.toList_inj]
    simp [String.toList_append]
  · simp only [hasNul, String.toList_append, List.contains_append, Bool.or_eq_false_iff] at hnul ⊢
    exact ⟨⟨⟨hnul.1.1.1, by decide⟩, by decide⟩, hnul.2⟩
  · have htree : "wordpress".utf8ByteSize = 9 := by decide
    have hstaging : "wordpress-temp".utf8ByteSize = 14 := by decide
    simp only [String.utf8ByteSize_append] at hlimit ⊢
    omega

theorem replaceTree_ok (htidy : Tidy d.directory version dir s.files)
    (hstaging : IsUsable d.directory.staging) (htree : IsUsable d.directory.tree)
    (hdir : s.files.get? (dir ++ ["wordpress-temp"]) ≠ none) :
    ∃ s', (do
        removeTree d.directory.tree
        Run.change (fun e => .io d.directory.tree e)
          (fun fs => fs.rename d.directory.staging d.directory.tree) :
            Run ReleaseFailure Unit).outcome.run s = (.ok (), s') ∧
      ∀ below entry, s.files.get? (dir ++ ["wordpress-temp"] ++ below) = some entry →
        s'.files.get? (dir ++ ["wordpress"] ++ below) = some entry := by
  obtain ⟨s₁, hremove, hcleared⟩ :=
    removeTree_clearable isFileName_tree htidy.leads htree htidy.tree
  have hchanges := changes_removeTree (d := d) (x := "wordpress") htidy.located.found (by decide)
  rw [hremove] at hchanges
  have hkept : ∀ below, s₁.files.get? (dir ++ ["wordpress-temp"] ++ below) =
      s.files.get? (dir ++ ["wordpress-temp"] ++ below) := fun below =>
    hchanges.get?_eq htidy.located (by decide) (isWithin_append _ below)
  have hloc := hchanges.located htidy.located
  cases hrename : s₁.files.rename d.directory.staging d.directory.tree with
  | error cause =>
      have hnone := (rename_error (hchanges.leadsInto htidy.located htidy.leads) hstaging htree
        (hcleared.inside _ (isWithin_self _)) hrename).1
      have hsame := hkept []
      rw [List.append_nil, hnone] at hsame
      exact absurd hsame.symm hdir
  | ok fs =>
      change (removeTree d.directory.tree).outcome.run s = _ at hremove
      rw [Run.run_bind, hremove]
      dsimp only
      rw [Run.run_change, hrename]
      refine ⟨_, rfl, fun below entry hentry => ?_⟩
      rw [← hkept] at hentry
      exact get?_rename hloc.found (by decide) (by decide) hrename hentry

theorem read_archive_of_clear {s' : Session} (hv : '/' ∉ version.text.toList)
    (htidy : Tidy d.directory version dir s.files)
    (h : (removeTree d.directory.staging).outcome.run s = (.ok (), s')) :
    s'.files.read (d.directory.archive version) = s.files.read (d.directory.archive version) := by
  have hchanges := changes_removeTree (d := d) (x := "wordpress-temp") htidy.located.found (by decide)
  change (removeTree (d.directory.path.joinText "wordpress-temp")).outcome.run s = _ at h
  rw [h] at hchanges
  refine hchanges.read_eq htidy.located htidy.leads (isPlain_archiveName hv) (fun hmem => ?_)
  exact archiveName_not_mem version (List.mem_cons_of_mem _ hmem)

/-- **A whole archive is put in the place of the tree**, and each of its files stands there in a
directory. -/
theorem install_whole (hv : '/' ∉ version.text.toList)
    (htidy : Tidy d.directory version dir s.files)
    (hread : s.files.read (d.directory.archive version) = .ok (.archive members))
    (hwhole : Archive.IsWhole d.directory.staging (members.map Prod.fst))
    (hdamage : ∀ m ∈ Archive.distinct members, Archive.isDamaged m.1 m.2 = false)
    (hsome : ∃ name ∈ members.map Prod.fst, Archive.IsUnpacked name) :
    ∃ s', (d.install version).outcome.run s = (.ok (), s') ∧
      ∀ init x data, Archive.contentAt? (init ++ [x]) (Archive.distinct members) = some data →
        s'.files.get? (dir ++ ["wordpress"] ++ init) = some .directory ∧
        s'.files.get? (dir ++ ["wordpress"] ++ (init ++ [x])) = some (.file (.bytes data)) := by
  have hpaths : IsUsable d.directory.staging ∧ IsUsable d.directory.tree := by
    obtain ⟨name, hname, hunpacked⟩ := hsome
    have hrel := (Archive.staysBelow_memberPath hunpacked.1).1
    have husable := hwhole.usable name hname hunpacked
    exact ⟨isUsable_of_join (Path.isEmpty_joinText (by decide)) hrel husable,
      isUsable_of_join (Path.isEmpty_joinText (by decide)) hrel (isUsable_tree hrel husable)⟩
  -- the place beside the tree is cleared
  obtain ⟨s₁, hclear, hcleared⟩ :=
    removeTree_clearable isFileName_staging htidy.leads hpaths.1 htidy.staging
  have hholding : Holding d.directory version dir (s.files.get? (dir ++ [archiveName version]))
      ((removeTree (d.directory.path.joinText "wordpress-temp")).outcome.run s).2.files :=
    holding_removeTree (by decide) s ⟨htidy, rfl⟩
  rw [hclear] at hholding
  change (removeTree d.directory.staging).outcome.run s = _ at hclear
  rw [← read_archive_of_clear hv htidy hclear] at hread
  -- the archive is unpacked there
  obtain ⟨n, s₂, hextract, hfits⟩ := Archive.extract_whole isFileName_staging hread hwhole
    hdamage hholding.1.leads hcleared.inside
  have hholding₂ := holding_extract hv s₁ hholding
  change (Archive.extract (d.directory.archive version) d.directory.staging).outcome.run s₁ = _
    at hextract
  rw [hextract] at hholding₂
  have hpresent : s₂.files.get? (dir ++ ["wordpress-temp"]) ≠ none := by
    obtain ⟨members', hread', hleads⟩ := Archive.leadsInto_of_extract hextract
    rw [hread] at hread'
    cases hread'
    obtain ⟨_, hleads⟩ := hleads hsome
    exact get?_of_leadsInto_child isFileName_staging hholding₂.1.leads hleads
  -- and takes the place of the tree
  obtain ⟨s₃, hreplace, hmoved⟩ := replaceTree_ok hholding₂.1 hpaths.1 hpaths.2 hpresent
  refine ⟨s₃, ?_, fun init x data hdata => ?_⟩
  · rw [install, Run.run_bind, hclear]
    dsimp only
    rw [Run.run_bind, hextract]
    exact hreplace
  · have hbytes := Archive.bytesAt?_extract (by simp)
      (hholding.1.located.found.route_entry (x := "wordpress-temp") (by decide)).2
      (fun place l hplace => hholding.1.located.noLinks place l (isWithin_of_child hplace).1) hread
      hwhole.not_up hdata hextract
    rw [bytesAt?_eq_some_iff] at hbytes
    have hclosed := hfits.closed init x (by rw [hbytes]; exact Option.some_ne_none _)
    exact ⟨hmoved _ _ hclosed, hmoved _ _ hbytes⟩

theorem read_versionFile {fs : FileSystem} {content : Content}
    (hleads : fs.LeadsInto d.directory.path dir)
    (husable : IsUsable (d.directory.tree.joinText Index.versionFile))
    (htree : fs.get? (dir ++ ["wordpress"]) = some .directory)
    (hdir : fs.get? (dir ++ ["wordpress"] ++ ["wp-includes"]) = some .directory)
    (hfile : fs.get? (dir ++ ["wordpress"] ++ ["wp-includes", "version.php"]) = some (.file content)) :
    fs.read (d.directory.tree.joinText Index.versionFile) = .ok content := by
  have hincludes : IsFileName "wp-includes" := by decide
  have hversion : IsFileName "version.php" := by decide
  have hpieces : ∀ piece ∈ ["wp-includes".toList, "version.php".toList], piece ≠ [] ∧ '/' ∉ piece := by
    decide
  have hnames : d.directory.tree.joinText Index.versionFile =
      (d.directory.tree.joinText "wp-includes").joinText "version.php" :=
    Path.join_eq_joinNames (List.cons_ne_nil _ _) hpieces (Path.isEmpty_joinText (by decide))
      (getLast?_joinText isFileName_tree.isPlain)
  rw [hnames] at husable ⊢
  refine read_child hversion (leadsInto_child hincludes (leadsInto_child isFileName_tree hleads htree)
    hdir) husable ?_
  rw [List.append_assoc _ ["wp-includes"]]
  exact hfile

/-- What is supplied is a given content: the archive that is used again, or what the source delivers. -/
def Supplies (d : Depot) (version : Version) (fs : FileSystem) (content : Content) : Prop :=
  if d.reuses version fs then fs.read (d.directory.archive version) = .ok content
  else (d.source.download version).result = ⟨some content, none⟩

/-- A release is brought in, and the version file of its members is read in the tree. -/
def Restores (d : Depot) (version : Version) (s : Session) (members : List (String × Member)) : Prop :=
  ∃ s' data, (d.fetch version).outcome.run s = (.ok d.directory.tree, s') ∧
    Archive.contentAt? Index.versionParts (Archive.distinct members) = some data ∧
    s'.files.read (d.directory.tree.joinText Index.versionFile) = .ok (.bytes data)

theorem slash_not_mem_text (h : IsFileName (archiveName version)) : '/' ∉ version.text.toList := by
  have hslash := h.no_slash
  simp only [archiveName, String.toList_append, List.mem_append, not_or] at hslash
  exact hslash.1.2

theorem supply_ok (hname : IsFileName (archiveName version))
    (husable : IsUsable (d.directory.archive version)) (htidy : Tidy d.directory version dir s.files)
    (hinside : Archive.StaysInside members) (hsupplies : d.Supplies version s.files (.archive members)) :
    ∃ s', (d.supply version).outcome.run s = (.ok (), s') ∧ Tidy d.directory version dir s'.files ∧
      s'.files.read (d.directory.archive version) = .ok (.archive members) := by
  unfold Supplies at hsupplies
  split at hsupplies
  · next hreuses =>
      obtain ⟨s₁, hsupply, hsame⟩ := supply_of_reuses hreuses
      exact ⟨s₁, hsupply, hsame ▸ htidy, hsame ▸ hsupplies⟩
  · next hreuses =>
      obtain ⟨s₁, hsupply⟩ :=
        supply_of_delivered hname husable htidy (by simpa using hreuses) hsupplies
      have hdelivers : d.DeliversInside version := by
        intro members' hwritten
        rw [hsupplies] at hwritten
        cases hwritten
        exact hinside
      have htidy₁ := tidy_supply (slash_not_mem_text hname) hdelivers s htidy
      rw [hsupply] at htidy₁
      have hread := supply_read hsupply
      rw [supplied?, ← reuses, if_neg hreuses, hsupplies] at hread
      refine ⟨s₁, hsupply, htidy₁, ?_⟩
      cases hfile : s₁.files.read (d.directory.archive version) with
      | ok content =>
          rw [hfile] at hread
          exact congrArg Except.ok (Option.some.inj hread)
      | error e =>
          rw [hfile] at hread
          cases hread

/-- **A release that is supplied is brought in.** -/
theorem fetch_release (hname : IsFileName (archiveName version))
    (husable : IsUsable (d.directory.archive version)) (htidy : Tidy d.directory version dir s.files)
    (hrelease : Archive.IsRelease d.directory.staging members)
    (hsupplies : d.Supplies version s.files (.archive members)) : d.Restores version s members := by
  have hv := slash_not_mem_text hname
  obtain ⟨s₁, hsupply, htidy₁, hread⟩ := supply_ok hname husable htidy
    (Archive.staysInside_of_not_mem hrelease.whole.not_up) hsupplies
  obtain ⟨s₂, hinstall, hfiles⟩ := install_whole hv htidy₁ hread hrelease.whole hrelease.undamaged
    ⟨_, hrelease.versionFile, Archive.IsRelease.isUnpacked⟩
  have hholding := holding_install hv s₁ ⟨htidy₁, rfl⟩
  rw [hinstall] at hholding
  have htidy₂ : Tidy d.directory version dir s₂.files := hholding.1
  obtain ⟨s₃, hfinish⟩ := finish_ok d version s₂
  have hchanges := changes_finish (d := d) htidy₂.located.found hv
  rw [hfinish] at hchanges
  obtain ⟨data, hdata⟩ := hrelease.exists_content
  obtain ⟨hdir, hfile⟩ := hfiles ["wp-includes"] "version.php" data hdata
  have htree : s₂.files.get? (dir ++ ["wordpress"]) = some .directory :=
    htidy₂.tree.resolve_right (fun hfree => by
      rw [hfree _ (isWithin_append _ _)] at hdir
      cases hdir)
  have hkept : ∀ below, s₃.files.get? (dir ++ ["wordpress"] ++ below) =
      s₂.files.get? (dir ++ ["wordpress"] ++ below) := fun below =>
    hchanges.get?_eq htidy₂.located (by simp [ne_archiveName (x := "wordpress") version (by decide)])
      (isWithin_append _ below)
  refine ⟨s₃, data, ?_, hdata, ?_⟩
  · rw [fetch_eq, Run.run_bind, hsupply]
    dsimp only
    rw [Run.run_bind, hinstall]
    exact hfinish
  · refine read_versionFile (hchanges.leadsInto htidy₂.located htidy₂.leads) ?_ ?_ ?_ ?_
    · exact isUsable_tree (by decide) hrelease.isUsable
    · rw [← List.append_nil (dir ++ ["wordpress"]), hkept, List.append_nil, htree]
    · rw [hkept, hdir]
    · exact (hkept _).trans hfile

end whole

/-! ### Content that cannot be unpacked -/

section useless
variable {d : Depot} {version : Version} {dir : Place} {s : Session} {content : Content}

/-- Nothing is put in the place of the tree where nothing can be unpacked. -/
theorem install_useless (hv : '/' ∉ version.text.toList)
    (htidy : Tidy d.directory version dir s.files)
    (hread : s.files.read (d.directory.archive version) = .ok content)
    (huseless : Archive.IsUseless content) :
    ∃ e s', (d.install version).outcome.run s = (.error e, s') := by
  cases hrun : (d.install version).outcome.run s with
  | mk result s' =>
  cases result with
  | error e => exact ⟨e, s', rfl⟩
  | ok u =>
  exfalso
  obtain ⟨n, s₁, s₂, s₃, hclear, hextract, hremove, hrename⟩ := install_ok hrun
  -- nothing is left beside the tree
  have hcleared : ∀ place, isWithin (dir ++ ["wordpress-temp"]) place = true →
      s₁.files.get? place = none := by
    have hdirs : ∀ {dir'}, s.files.LeadsInto d.directory.path dir' → dir' = dir := fun h =>
      Option.some.inj (h.goal?_eq.symm.trans htidy.leads.goal?_eq)
    obtain ⟨_, ⟨_, hno⟩ | ⟨dir', hleads, hcleared⟩⟩ := removeTree_ok isFileName_staging
      (fun dir' hdir' => by rw [hdirs hdir']; exact htidy.staging.free) hclear
    · exact absurd htidy.leads (hno dir)
    · exact hdirs hleads ▸ hcleared.inside
  have hloc₁ := (changes_removeTree (d := d) (x := "wordpress-temp") htidy.located.found
    (by decide)).located htidy.located
  change Located _ _ ((removeTree d.directory.staging).outcome.run s).2.files at hloc₁
  rw [hclear] at hloc₁
  rw [← read_archive_of_clear hv htidy hclear] at hread
  -- and nothing is unpacked there
  have hsame : s₂.files = s₁.files := Archive.files_extract_useless hread huseless hextract
  rw [← hsame] at hloc₁ hcleared
  have hchanges₃ := changes_removeTree (d := d) (x := "wordpress") hloc₁.found (by decide)
  change (removeTree (d.directory.path.joinText "wordpress")).outcome.run s₂ = _ at hremove
  rw [hremove] at hchanges₃
  have hpresent := (rename_eq (hchanges₃.located hloc₁).found (by decide) (by decide)
    (Run.run_change_ok hrename)).1
  rw [hchanges₃.get?_eq hloc₁ (by decide) (isWithin_self _)] at hpresent
  exact hpresent (hcleared _ (isWithin_self _))

/-- **What cannot be unpacked and is used again makes an attempt fail, and stays there.** -/
theorem fetch_useless (hname : IsFileName (archiveName version))
    (husable : IsUsable (d.directory.archive version)) (htidy : Tidy d.directory version dir s.files)
    (hkeep : d.keepArchive = true) (hread : s.files.read (d.directory.archive version) = .ok content)
    (huseless : Archive.IsUseless content) :
    ∃ e s', (d.fetch version).outcome.run s = (.error e, s') ∧ Tidy d.directory version dir s'.files ∧
      s'.files.read (d.directory.archive version) = .ok content := by
  have hv := slash_not_mem_text hname
  have hget := get?_of_read (htidy.located.found.route_entry hname.isPlain).2 hread
  obtain ⟨s₁, hsupply, hsame⟩ := supply_of_reuses (reuses_eq_true.mpr ⟨hkeep, content, hread⟩)
  rw [← hsame] at htidy hread hget
  obtain ⟨e, s₂, hinstall⟩ := install_useless hv htidy hread huseless
  have hholding := holding_install hv s₁ ⟨htidy, hget⟩
  rw [hinstall] at hholding
  refine ⟨e, s₂, ?_, hholding.1, read_child hname hholding.1.leads husable hholding.2⟩
  rw [fetch_eq, Run.run_bind, hsupply]
  dsimp only
  rw [Run.run_bind, hinstall]

end useless

/-! ### Histories -/

/-- Attempts to bring in a release, one after the other, whether they fail or not. -/
def attempts (version : Version) (ds : List Depot) (s : Session) : Session :=
  ds.foldl (fun s d => ((d.fetch version).outcome.run s).2) s

section histories
variable {directory : DataDirectory} {version : Version} {dir : Place} {content : Content}

theorem tidy_attempts (hv : '/' ∉ version.text.toList) {ds : List Depot} {s : Session}
    (hds : ∀ d ∈ ds, d.directory = directory ∧ d.DeliversInside version)
    (htidy : Tidy directory version dir s.files) :
    Tidy directory version dir (attempts version ds s).files := by
  induction ds generalizing s with
  | nil => exact htidy
  | cons d ds ih =>
      obtain ⟨⟨rfl, hdelivers⟩, hrest⟩ := List.forall_mem_cons.mp hds
      exact ih hrest (tidy_fetch hv hdelivers s htidy)

/-- An archive that cannot be unpacked stays for all attempts that keep archives. -/
theorem read_attempts (hname : IsFileName (archiveName version))
    (husable : IsUsable (directory.archive version)) (huseless : Archive.IsUseless content)
    {ds : List Depot} {s : Session} (hds : ∀ d ∈ ds, d.directory = directory ∧ d.keepArchive = true)
    (htidy : Tidy directory version dir s.files)
    (hread : s.files.read (directory.archive version) = .ok content) :
    Tidy directory version dir (attempts version ds s).files ∧
      (attempts version ds s).files.read (directory.archive version) = .ok content := by
  induction ds generalizing s with
  | nil => exact ⟨htidy, hread⟩
  | cons d ds ih =>
      obtain ⟨⟨rfl, hkeep⟩, hrest⟩ := List.forall_mem_cons.mp hds
      obtain ⟨e, s₁, hfetch, htidy₁, hread₁⟩ :=
        fetch_useless hname husable htidy hkeep hread huseless
      rw [attempts, List.foldl_cons, hfetch]
      exact ih hrest htidy₁ hread₁

end histories

/-- **A release that the source delivers is brought in after any attempts, unless an archive is used again;
then only this one counts.**  If it is no archive, an empty one or a damaged one, all later attempts that keep
archives fail, though the source delivers the release. -/
theorem fetch_after_attempts {d : Depot} {version : Version} {dir : Place} {ds : List Depot} {s : Session}
    {members : List (String × Member)} (hname : IsFileName (archiveName version))
    (husable : IsUsable (d.directory.archive version)) (htidy : Tidy d.directory version dir s.files)
    (hds : ∀ d' ∈ ds, d'.directory = d.directory ∧ d'.DeliversInside version)
    (hrelease : Archive.IsRelease d.directory.staging members)
    (hdelivers : (d.source.download version).result = ⟨some (.archive members), none⟩) :
    (d.reuses version (attempts version ds s).files = false →
      d.Restores version (attempts version ds s) members) ∧
    (d.reuses version (attempts version ds s).files = true →
      (∀ source, (fetch { d with source } version).outcome.run (attempts version ds s) =
        (d.fetch version).outcome.run (attempts version ds s)) ∧
      ∃ kept, (attempts version ds s).files.read (d.directory.archive version) = .ok kept ∧
        (∀ members', kept = .archive members' → Archive.IsRelease d.directory.staging members' →
          d.Restores version (attempts version ds s) members') ∧
        (Archive.IsUseless kept →
          ∀ later : List Depot, (∀ d' ∈ later, d'.directory = d.directory ∧ d'.keepArchive = true) →
            ∃ e s', (d.fetch version).outcome.run
                (attempts version later (attempts version ds s)) = (.error e, s') ∧
              s'.files.read (d.directory.archive version) = .ok kept)) := by
  have htidy₁ := tidy_attempts (slash_not_mem_text hname) hds htidy
  generalize attempts version ds s = t at htidy₁
  constructor
  · intro hreuses
    refine fetch_release hname husable htidy₁ hrelease ?_
    rw [Supplies, hreuses, if_neg (by simp)]
    exact hdelivers
  · intro hreuses
    obtain ⟨hkeep, kept, hread⟩ := reuses_eq_true.mp hreuses
    refine ⟨fun source => fetch_of_reuses source hreuses, kept, hread, ?_,
      fun huseless later hlater => ?_⟩
    · rintro members' rfl hrelease'
      refine fetch_release hname husable htidy₁ hrelease' ?_
      rw [Supplies, hreuses, if_pos rfl]
      exact hread
    · obtain ⟨htidy₂, hread₂⟩ := read_attempts hname husable huseless hlater htidy₁ hread
      obtain ⟨e, s', hfetch, _, hread₃⟩ :=
        fetch_useless hname husable htidy₂ hkeep hread₂ huseless
      exact ⟨e, s', hfetch, hread₃⟩

/-- A source delivers a file that is no archive first, and then a release: this is brought in where archives
are not kept, and never where they are. -/
theorem fetch_after_attempts_broken :
    let version : Version := ⟨[6, 7, 1], none⟩
    let members : List (String × Member) :=
      [("wordpress/wp-includes/", .whole ⟨#[]⟩), ("wordpress/wp-includes/version.php", .whole ⟨#[1]⟩)]
    let directory : DataDirectory := ⟨⟨"d"⟩⟩
    let broken : Depot := ⟨directory, ⟨⟨[], .ok version⟩, fun _ => ⟨[], ⟨some (.bytes ⟨#[120]⟩), none⟩⟩,
      fun failed _ => failed⟩, true, false⟩
    let source : ReleaseSource := ⟨⟨[], .ok version⟩, fun _ => ⟨[], ⟨some (.archive members), none⟩⟩,
      fun failed _ => failed⟩
    let s := Session.start (FileSystem.empty.put ["d"] .directory)
    IsFileName (archiveName version) ∧ Tidy directory version ["d"] s.files ∧
      broken.DeliversInside version ∧ Archive.IsRelease directory.staging members ∧
      Restores ⟨directory, source, false, false⟩ version (attempts version [broken] s) members ∧
      ∀ later : List Depot, (∀ d' ∈ later, d'.directory = directory ∧ d'.keepArchive = true) →
        ∃ e s', (fetch ⟨directory, source, true, false⟩ version).outcome.run
          (attempts version later (attempts version [broken] s)) = (.error e, s') := by
  intro version members directory broken source s
  have hname : IsFileName (archiveName version) := by decide +kernel
  have husable : IsUsable (directory.archive version) := by decide +kernel
  have htidy : Tidy directory version ["d"] s.files := by
    have hlinks : Archive.NoLinks s.files ["d"] :=
      (Archive.noLinks_empty _).put (List.cons_ne_nil _ _) (fun l hl => by cases hl)
    have hway : s.files.way directory.path = [["d"]] := by decide +kernel
    have hleads : s.files.LeadsInto directory.path ["d"] := by
      refine ⟨linkLimit, by decide +kernel, fun place hplace => ?_⟩
      obtain rfl : place = ["d"] := List.mem_singleton.mp (hway ▸ hplace)
      exact ⟨.inl (by decide +kernel), fun name hlast => by cases hlast; decide⟩
    refine tidy_of_free ⟨hleads.goal?_eq, fun place hplace _ => ?_, hlinks⟩ hleads (fun x below => ?_)
    · exact List.mem_singleton.mp (hway ▸ hplace)
    · change (FileSystem.empty.put ["d"] .directory).get? _ = _
      rw [get?_put _ (List.cons_ne_nil _ _), if_neg (by simp)]
      rfl
  have hinside : broken.DeliversInside version := fun members' h => by cases h
  have hrelease : Archive.IsRelease directory.staging members := ⟨by decide +kernel, by decide +kernel, by decide⟩
  have hds : ∀ d' ∈ [broken], d'.directory = directory ∧ d'.DeliversInside version := by
    intro d' hd'
    obtain rfl := List.mem_singleton.mp hd'
    exact ⟨rfl, hinside⟩
  refine ⟨hname, htidy, hinside, hrelease, ?_, ?_⟩
  · exact (fetch_after_attempts (d := ⟨directory, source, false, false⟩) hname husable htidy hds hrelease
      rfl).1 (by decide +kernel)
  · obtain ⟨_, kept, hread, _, hstuck⟩ := (fetch_after_attempts (d := ⟨directory, source, true, false⟩) hname
      husable htidy hds hrelease rfl).2 (by decide +kernel)
    have hbytes : (attempts version [broken] s).files.read (directory.archive version) =
        .ok (.bytes ⟨#[120]⟩) := by decide +kernel
    intro later hlater
    obtain ⟨e, s', hfetch, _⟩ := hstuck (fun members' hkept => by
      rw [hkept] at hread
      cases hbytes.symm.trans hread) later hlater
    exact ⟨e, s', hfetch⟩

end Depot

end RequiredVersion
