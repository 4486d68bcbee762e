import RequiredVersion.Proofs.ReleaseContents
import RequiredVersion.Proofs.UsablePaths

/-! # The data directory between attempts

However an attempt to bring in a release ends, it leaves the data directory such that it can be cleared for
another one: the tree and what is unpacked beside it are directories or missing, and what stands at the
place of the archive is no directory (`DataDirectory.Tidy`).  Every step keeps this, and so does the whole
(`Depot.tidy_fetch`).  Putting a release in the place of the tree leaves the archive alone as well
(`Depot.holding_install`). -/

namespace RequiredVersion

open FileSystem

/-! ### Places that can be cleared -/

namespace FileSystem

/-- A directory stands at the place, or nothing there and below. -/
def Clearable (fs : FileSystem) (root : Place) : Prop :=
  fs.get? root = some .directory ∨ ∀ place, isWithin root place = true → fs.get? place = none

/-- The path leads into a directory where a name stands for another directory, or for nothing. -/
structure Spare (p : Path) (t : String) (dir : Place) (fs : FileSystem) : Prop where
  leads : fs.LeadsInto p dir
  not_link : ∀ l, fs.get? (dir ++ [t]) ≠ some (.link l)
  clearable : fs.Clearable (dir ++ [t])

section clearable
variable {fs fs' : FileSystem} {p q : Path} {t : String} {dir root : Place} {more : List String}

theorem clearable_eraseTree (fs : FileSystem) (hroot : root ≠ []) :
    (fs.eraseTree root).Clearable root := by
  refine .inr (fun place hplace => ?_)
  rw [get?_eraseTree _ hroot, hplace, if_pos rfl]

theorem Clearable.free (h : fs.Clearable root) (hnone : fs.get? root = none) :
    ∀ place, isWithin root place = true → fs.get? place = none := by
  rcases h with hdir | hfree
  · rw [hnone] at hdir
    cases hdir
  · exact hfree

theorem Clearable.congr (h : fs.Clearable root)
    (hsame : ∀ place, isWithin root place = true → fs'.get? place = fs.get? place) :
    fs'.Clearable root := by
  refine h.imp (fun hdir => ?_) (fun hfree place hplace => ?_)
  · rw [hsame root (isWithin_self root), hdir]
  · rw [hsame place hplace, hfree place hplace]

/-- Behind the name a file or a directory is made only if the name stands for a directory. -/
theorem Spare.of_leadsInto {made written : Place → Prop} {dir' : Place} (ht : IsFileName t)
    (h : Spare p t dir fs) (hgrows : Grows made written fs fs')
    (hleads : fs'.LeadsInto (p.joinText t) dir') : Spare p t dir fs' := by
  have hnolink : ∀ l, fs'.get? (dir ++ [t]) ≠ some (.link l) := fun l hl =>
    h.not_link l ((hgrows.link_iff _ l).mp hl)
  have hleads' := hgrows.leadsInto h.leads
  exact ⟨hleads', hnolink, .inl (directory_of_leadsInto_child ht hleads' hleads hnolink)⟩

theorem Spare.of_way (ht : IsFileName t) (h : Spare p t dir fs)
    (hway : fs.way q ⊆ fs.way (p.joinText t))
    (hgrows : Grows (· ∈ fs.way q) (fun _ => False) fs fs') : Spare p t dir fs' := by
  refine ⟨hgrows.leadsInto h.leads, fun l hl => h.not_link l ((hgrows.link_iff _ l).mp hl), ?_⟩
  by_cases hdir : fs'.get? (dir ++ [t]) = some .directory
  · exact .inl hdir
  refine .inr (fun place hplace => ?_)
  rcases h.clearable with hold | hfree
  · exact absurd (hgrows.directory hold) hdir
  rcases hgrows.entry place with hkeep | ⟨hmade, hnone, hnew⟩ | ⟨hfalse, _⟩
  · rw [hkeep, hfree place hplace]
  · have hplaces := hway hmade
    rw [(route_joinText ht.isPlain h.leads.goal?_eq h.not_link).1] at hplaces
    rcases List.mem_append.mp hplaces with hbefore | hlast
    · -- what is before the name is there
      exact absurd hnone (h.leads.get?_ne_none hbefore)
    · rw [List.mem_singleton.mp hlast] at hnew
      exact absurd hnew hdir
  · exact hfalse.elim

theorem Spare.ensureDirectory (ht : IsFileName t) (h : Spare p t dir fs)
    (hnames : q.names <+: (p.joinText t).names ++ more)
    (hstart : q.isAbsolute = (p.joinText t).isAbsolute) (hensure : fs.ensureDirectory q = .ok fs') :
    Spare p t dir fs' := by
  have hgrows := ensureDirectory_grows hensure
  rcases List.prefix_or_prefix_of_prefix hnames (List.prefix_append _ more) with hbefore | ⟨rest, hrest⟩
  · exact h.of_way ht (way_of_names hbefore hstart).subset hgrows
  · by_cases hnil : rest = []
    · rw [hnil, List.append_nil] at hrest
      exact h.of_way ht (way_of_names (hrest ▸ List.prefix_refl _) hstart).subset hgrows
    · obtain ⟨_, hleads⟩ := ensureDirectory_leadsInto hrest.symm hstart hnil hensure
      exact h.of_leadsInto ht hgrows hleads

theorem Spare.makeDirectoriesFrom (ht : IsFileName t) : ∀ (fuel : Nat) {fs : FileSystem} {q : Path},
    Spare p t dir fs → q.names <+: (p.joinText t).names ++ more →
      q.isAbsolute = (p.joinText t).isAbsolute → Spare p t dir (makeDirectoriesFrom fuel fs q).2
  | 0, _, _, h, _, _ => h
  | fuel + 1, fs, q, h, hnames, hstart => by
      rw [FileSystem.makeDirectoriesFrom]
      split
      · exact h
      split
      · next fs₁ hensure => exact h.ensureDirectory ht hnames hstart hensure
      · split
        · exact h
        · next above habove =>
            obtain ⟨hbefore, hsame⟩ := Path.names_parent? habove
            have habove' := Spare.makeDirectoriesFrom ht fuel h (hbefore.trans hnames)
              (hsame.trans hstart)
            split
            · next e fs₁ hfrom =>
                rw [hfrom] at habove'
                exact habove'
            · next fs₁ hfrom =>
                rw [hfrom] at habove'
                split
                · next fs₂ hensure => exact habove'.ensureDirectory ht hnames hstart hensure
                · exact habove'
      · exact h

theorem Spare.write {content : Content} (ht : IsFileName t) (h : Spare p t dir fs)
    (hnames : q.names = (p.joinText t).names ++ more) (hne : more ≠ [])
    (hstart : q.isAbsolute = (p.joinText t).isAbsolute) (hwrite : fs.write q content = .ok fs') :
    Spare p t dir fs' := by
  obtain ⟨target, hresolve, _⟩ := write_eq hwrite
  obtain ⟨_, k, _, harrives, _⟩ := resolve_behind_ok hnames hstart hne hresolve
  have hgrows := write_grows hwrite
  exact h.of_leadsInto ht hgrows (hgrows.leadsInto ⟨k, harrives⟩)

end clearable

end FileSystem

namespace Archive

section spare
variable {p : Path} {t : String} {dir : Place}

theorem spare_writeMember (ht : IsFileName t) (archive : Path) (name : String) (member : Member) :
    Run.Keeps (Spare p t dir) (writeMember archive (p.joinText t) name member) := by
  have hnames : IsUnpacked name → ((p.joinText t).join (memberPath name)).names =
      (p.joinText t).names ++ (memberPath name).names := fun hname =>
    Path.names_join (staysBelow_memberPath hname.1).1
  have hstart : IsUnpacked name → ((p.joinText t).join (memberPath name)).isAbsolute =
      (p.joinText t).isAbsolute := fun hname => Path.isAbsolute_join (staysBelow_memberPath hname.1).1
  refine keeps_writeMember (fun hname q fs hq h => ?_) (fun hname fs fs' h => ?_)
  · rcases hq with rfl | habove
    · have hall : ((p.joinText t).join (memberPath name)).names <+:
          (p.joinText t).names ++ (memberPath name).names := hnames hname ▸ List.prefix_refl _
      exact h.makeDirectoriesFrom ht _ hall (hstart hname)
    · obtain ⟨hbefore, hsame⟩ := Path.names_parent? habove
      exact h.makeDirectoriesFrom ht _ (hnames hname ▸ hbefore) (hsame.trans (hstart hname))
  · exact h.write ht (hnames hname) (Path.names_ne_nil (staysBelow_memberPath hname.1).1 hname.2)
      (hstart hname)

/-- Whatever is unpacked, and wherever this ends, leaves a directory or nothing. -/
theorem spare_extract (ht : IsFileName t) (archive : Path) :
    Run.Keeps (Spare p t dir) (extract archive (p.joinText t)) := by
  intro s hs
  rcases files_extract archive (p.joinText t) s with hsame | ⟨members, s₁, _, hsame, hfiles⟩
  · rwa [hsame]
  · rw [hfiles]
    exact keeps_writeMembers (fun m _ => spare_writeMember ht archive m.1 m.2) s₁ (hsame ▸ hs)

end spare

end Archive

/-! ### The data directory between attempts -/

namespace DataDirectory

open Depot

/-- The data directory as attempts to bring in a release find it and leave it. -/
structure Tidy (d : DataDirectory) (version : Version) (dir : Place) (fs : FileSystem) : Prop where
  located : Located d dir fs
  leads : fs.LeadsInto d.path dir
  tree : fs.Clearable (dir ++ ["wordpress"])
  staging : fs.Clearable (dir ++ ["wordpress-temp"])
  archive : fs.get? (dir ++ [archiveName version]) ≠ some .directory
  inside : ∀ members, fs.get? (dir ++ [archiveName version]) = some (.file (.archive members)) →
    Archive.StaysInside members

/-- The same with what stands at the place of the archive. -/
def Holding (d : DataDirectory) (version : Version) (dir : Place) (entry : Option Entry)
    (fs : FileSystem) : Prop :=
  Tidy d version dir fs ∧ fs.get? (dir ++ [archiveName version]) = entry

section tidy
variable {d : DataDirectory} {version : Version} {dir : Place} {entry : Option Entry}
  {fs fs' : FileSystem} {names : List String} {x : String} {s : Session}

theorem Clearable.of_changes (h : fs.Clearable (dir ++ [x])) (hchanges : Changes d dir names fs fs')
    (hloc : Located d dir fs) (hx : x ∉ names) : fs'.Clearable (dir ++ [x]) :=
  h.congr (fun _ hplace => hchanges.get?_eq hloc hx hplace)

theorem tidy_of_free (hloc : Located d dir fs) (hleads : fs.LeadsInto d.path dir)
    (hfree : ∀ x below, fs.get? (dir ++ x :: below) = none) : Tidy d version dir fs := by
  have hclear : ∀ x, fs.Clearable (dir ++ [x]) := by
    refine fun x => .inr (fun place hplace => ?_)
    obtain ⟨below, rfl⟩ := List.isPrefixOf_iff_prefix.mp hplace
    rw [← List.append_cons]
    exact hfree x below
  exact ⟨hloc, hleads, hclear _, hclear _, by simp [hfree], by simp [hfree]⟩

/-- Changes that leave the archive alone keep the data directory tidy, if what they change can still be
cleared. -/
theorem Holding.of_changes (h : Holding d version dir entry fs) (hchanges : Changes d dir names fs fs')
    (harchive : archiveName version ∉ names)
    (htree : "wordpress" ∈ names → fs'.Clearable (dir ++ ["wordpress"]))
    (hstaging : "wordpress-temp" ∈ names → fs'.Clearable (dir ++ ["wordpress-temp"])) :
    Holding d version dir entry fs' := by
  obtain ⟨htidy, hentry⟩ := h
  have hsame := hchanges.get?_eq htidy.located harchive (isWithin_self _)
  refine ⟨⟨hchanges.located htidy.located, hchanges.leadsInto htidy.located htidy.leads, ?_, ?_,
    hsame ▸ htidy.archive, hsame ▸ htidy.inside⟩, hsame.trans hentry⟩
  · by_cases hx : "wordpress" ∈ names
    · exact htree hx
    · exact Clearable.of_changes htidy.tree hchanges htidy.located hx
  · by_cases hx : "wordpress-temp" ∈ names
    · exact hstaging hx
    · exact Clearable.of_changes htidy.staging hchanges htidy.located hx

/-- Changes of the archive keep the data directory tidy, if they leave no directory and no archive that
goes above its start. -/
theorem Tidy.of_changes (h : Tidy d version dir fs)
    (hchanges : Changes d dir [archiveName version] fs fs')
    (harchive : fs'.get? (dir ++ [archiveName version]) ≠ some .directory)
    (hinside : ∀ members, fs'.get? (dir ++ [archiveName version]) = some (.file (.archive members)) →
      Archive.StaysInside members) : Tidy d version dir fs' := by
  refine ⟨hchanges.located h.located, hchanges.leadsInto h.located h.leads, ?_, ?_, harchive, hinside⟩
  · refine Clearable.of_changes h.tree hchanges h.located ?_
    simpa using ne_archiveName (x := "wordpress") version (by decide)
  · refine Clearable.of_changes h.staging hchanges h.located ?_
    simpa using ne_archiveName (x := "wordpress-temp") version (by decide)

/-- A file that is stored in the data directory stands at its place, or what stood there before. -/
theorem store_entry {ε : Type} (onError : Path → Cause → ε) (content : Content)
    (hloc : Located d dir s.files) (hx : IsPlain x) :
    ((Run.store onError (d.path.joinText x) content).outcome.run s).2.files.get? (dir ++ [x]) =
        s.files.get? (dir ++ [x]) ∨
      ((Run.store onError (d.path.joinText x) content).outcome.run s).2.files.get? (dir ++ [x]) =
        some (.file content) := by
  have hwrite : ∀ {fs₁ fs₂ : FileSystem}, fs₁.goal? (d.path.joinText x) = some (dir ++ [x]) →
      fs₁.write (d.path.joinText x) content = .ok fs₂ →
        fs₂.get? (dir ++ [x]) = some (.file content) := by
    intro fs₁ fs₂ hgoal hok
    obtain ⟨goal, hgoal', _, _, _, hget⟩ := get?_write hok
    rw [hget, if_pos (Option.some.inj (hgoal.symm.trans hgoal'))]
  have hgoal := (hloc.found.route_entry hx).2
  cases hparent : (d.path.joinText x).parent? with
  | none =>
      rw [Run.store_of_no_parent hparent, Run.run_change]
      cases hok : s.files.write (d.path.joinText x) content with
      | error e => exact .inl rfl
      | ok fs₁ => exact .inr (hwrite hgoal hok)
  | some above =>
      have hnames := Path.names_parent?_joinText hx.1.1 hx.1.2.1 hx.2 hparent
      have hstart := (Path.names_parent? hparent).2.trans (Path.isAbsolute_join hx.isAbsolute)
      have hgrows := makeDirectories_grows s.files above
      have hsame : (s.files.makeDirectories above).2.get? (dir ++ [x]) =
          s.files.get? (dir ++ [x]) := by
        refine hgrows.get?_eq (fun hway => ?_) id
        exact hloc.not_mem_way (isWithin_self _) ((way_of_names hnames hstart).subset hway)
      rw [Run.store_of_parent hparent, Run.run_bind, Run.run_makeDirectories]
      rw [← hgrows.goal?_eq] at hgoal
      rcases hmake : s.files.makeDirectories above with ⟨e | _, fs₁⟩
      · rw [hmake] at hsame
        exact .inl hsame
      · rw [hmake] at hsame hgoal
        dsimp only at hsame hgoal ⊢
        rw [Run.run_change]
        dsimp only
        cases hok : fs₁.write (d.path.joinText x) content with
        | error e => exact .inl hsame
        | ok fs₂ => exact .inr (hwrite hgoal hok)

end tidy

end DataDirectory

/-! ### Attempts -/

namespace Depot

open DataDirectory

/-- The path of no member that the source delivers goes above its start. -/
def DeliversInside (d : Depot) (version : Version) : Prop :=
  ∀ members, (d.source.download version).result.written = some (.archive members) →
    Archive.StaysInside members

section attempts
variable {d : Depot} {version : Version} {dir : Place} {entry : Option Entry}

theorem holding_removeTree {x : String} (hx : x ∈ treeNames) :
    Run.Keeps (Holding d.directory version dir entry) (removeTree (d.directory.path.joinText x)) := by
  have hplain : ∀ x ∈ treeNames, IsPlain x := by decide
  intro s h
  rcases files_removeTree h.1.located.found (hplain x hx) with hsame | herased
  · rw [hsame]
    exact h
  · rw [herased]
    have hroot : dir ++ [x] ≠ [] := by simp
    have hcleared := clearable_eraseTree s.files hroot
    refine h.of_changes (changes_eraseTree h.1.located.found) (fun hmem => ?_) (fun hmem => ?_)
      (fun hmem => ?_)
    · exact archiveName_not_mem version (List.mem_singleton.mp hmem ▸ hx)
    · exact List.mem_singleton.mp hmem ▸ hcleared
    · exact List.mem_singleton.mp hmem ▸ hcleared

theorem holding_extract (hv : '/' ∉ version.text.toList) :
    Run.Keeps (Holding d.directory version dir entry)
      (Archive.extract (d.directory.archive version) d.directory.staging) := by
  intro s h
  have hmembers : ∀ members, s.files.read (d.directory.archive version) = .ok (.archive members) →
      Archive.StaysInside members := fun members hread =>
    h.1.inside members
      (get?_of_read (h.1.located.found.route_entry (isPlain_archiveName hv)).2 hread)
  have hspare := Archive.spare_extract isFileName_staging (d.directory.archive version) s
    ⟨h.1.leads, h.1.located.found.not_link, h.1.staging⟩
  refine h.of_changes (changes_extract h.1.located hmembers) (fun hmem => ?_)
    (fun hmem => absurd hmem (by decide)) (fun _ => hspare.clearable)
  exact archiveName_not_mem version (List.mem_cons_of_mem _ hmem)

theorem holding_rename {onError : Cause → ReleaseFailure} :
    Run.Keeps (Holding d.directory version dir entry)
      (Run.change onError (fun fs => fs.rename d.directory.staging d.directory.tree)) := by
  refine .change (fun fs fs' h hrename => ?_)
  have hfound := h.1.located.found
  have hstaging : IsPlain "wordpress-temp" := by decide
  have htree : IsPlain "wordpress" := by decide
  -- what is moved is a directory, since nothing else can stand there
  have hdir : fs.get? (dir ++ ["wordpress-temp"] ++ []) = some .directory := by
    rw [List.append_nil]
    exact h.1.staging.resolve_right (fun hfree =>
      (rename_eq hfound hstaging htree hrename).1 (hfree _ (isWithin_self _)))
  refine h.of_changes (changes_rename hfound hstaging htree hrename) (fun hmem => ?_) (fun _ => .inl ?_)
    (fun _ => .inr (fun place hplace => ?_))
  · exact archiveName_not_mem version (List.mem_reverse.mp hmem)
  · have hmoved := get?_rename hfound hstaging htree hrename hdir
    rwa [List.append_nil] at hmoved
  · rcases get?_of_rename hfound hstaging htree hrename place with hkeep | ⟨below, _, rfl, _⟩
    · rw [hkeep, get?_eraseTree _ (by simp), hplace, if_pos rfl]
    · exact absurd (eq_of_isWithin hplace (isWithin_append _ below)) (by decide)

/-- Putting a release in the place of the tree, fail or not, keeps the data directory tidy and leaves the
archive alone. -/
theorem holding_install (hv : '/' ∉ version.text.toList) :
    Run.Keeps (Holding d.directory version dir entry) (d.install version) := by
  unfold install
  exact .bind (holding_removeTree (by decide)) (fun _ => .bind (holding_extract hv)
    (fun _ => .bind (holding_removeTree (by decide)) (fun _ => holding_rename)))

theorem tidy_store {ε : Type} {onError : Path → Cause → ε} {content : Content}
    (hv : '/' ∉ version.text.toList)
    (hcontent : ∀ members, content = .archive members → Archive.StaysInside members) :
    Run.Keeps (Tidy d.directory version dir)
      (Run.store onError (d.directory.archive version) content) := by
  have hpath : d.directory.archive version = d.directory.path.joinText (archiveName version) := rfl
  rw [hpath]
  intro s h
  have hplain := isPlain_archiveName hv
  have hstores : s.files.Stores (d.directory.path.joinText (archiveName version))
      ((Run.store onError (d.directory.path.joinText (archiveName version)) content).outcome.run
        s).2.files := Run.stores_store s (.refl s.files)
  have hchanges := changes_of_stores_entry h.located.found hplain hstores
  have hentry := store_entry onError content h.located hplain
  generalize ((Run.store onError (d.directory.path.joinText (archiveName version))
    content).outcome.run s).2.files = fs' at hchanges hentry ⊢
  rcases hentry with hkeep | hnew
  · exact h.of_changes hchanges (hkeep ▸ h.archive) (hkeep ▸ h.inside)
  · refine h.of_changes hchanges (by simp [hnew]) (fun members hmembers => hcontent members ?_)
    rw [hnew] at hmembers
    simpa using hmembers

theorem tidy_supply (hv : '/' ∉ version.text.toList) (h : d.DeliversInside version) :
    Run.Keeps (Tidy d.directory version dir) (d.supply version) := by
  unfold supply
  refine .bind .files (fun fs => ?_)
  split
  · exact .note _ _ _
  · rw [download_eq]
    refine .bind (.modify (fun _ => rfl)) (fun _ => .bind (.notes _) (fun _ => .bind ?_ (fun _ => ?_)))
    · cases hwritten : (d.source.download version).result.written with
      | none => exact .pure ()
      | some content =>
          rw [Option.forM]
          exact tidy_store hv (fun members hcontent => h members (by rw [hwritten, hcontent]))
    · cases (d.source.download version).result.failure with
      | none => exact .pure ()
      | some e => exact .throw e

theorem tidy_finish (hv : '/' ∉ version.text.toList) :
    Run.Keeps (Tidy d.directory version dir) (d.finish version) := by
  intro s h
  have hchanges := changes_finish (d := d) h.located.found hv
  rcases files_finish d version s with hsame | hremove
  · rw [hsame]
    exact h
  · obtain ⟨_, _, _, _, hget⟩ := removeFile_eq hremove
    rcases hget (dir ++ [archiveName version]) with hkeep | ⟨_, hnone⟩
    · exact h.of_changes hchanges (hkeep ▸ h.archive) (hkeep ▸ h.inside)
    · exact h.of_changes hchanges (by simp [hnone]) (by simp [hnone])

/-- **An attempt to bring in a release keeps the data directory tidy**, however it ends. -/
theorem tidy_fetch (hv : '/' ∉ version.text.toList) (h : d.DeliversInside version) :
    Run.Keeps (Tidy d.directory version dir) (d.fetch version) := by
  rw [fetch_eq]
  refine .bind (tidy_supply hv h) (fun _ => .bind ?_ (fun _ => tidy_finish hv))
  exact fun s hs => (holding_install hv s ⟨hs, rfl⟩).1

end attempts

end Depot

end RequiredVersion
