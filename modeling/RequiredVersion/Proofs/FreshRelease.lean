import RequiredVersion.Proofs.BlindRuns
import RequiredVersion.Proofs.Recovery
import RequiredVersion.Proofs.UnpackedContents

/-! # A release takes the place of all that was there

Whatever an earlier release, or an attempt that was broken off, has left in the data directory: the release
that is brought in has the contents of its archive and nothing else (`Depot.Stages.replaced`), and it comes
to be there in the same way (`Depot.install_alike`).  `Depot.fetch_contents` says this of bringing in a
release as a whole, and what becomes of the archive. -/

namespace RequiredVersion

namespace FileSystem

/-! ### Removing a file -/

section removing
variable {fs fs' : FileSystem} {p : Path} {lookup : Lookup} {n : Nat} {dir place : Place} {entry : Entry}

theorem mem_way_of_resolveSteps (names : List String) (hentry : entry ≠ .directory)
    (h : fs.resolveSteps lookup n dir names = .ok (.found place entry)) :
    place ∈ (routeSteps fs n dir names).way ∧ fs.get? place = some entry := by
  induction n, dir, names using steps_induction fs with
  | nil n dir =>
      rw [resolveSteps_nil] at h
      cases h
      exact absurd rfl hentry
  | idle n dir name rest hidle ih =>
      rw [resolveSteps_idle hidle] at h
      rw [routeSteps_idle hidle]
      exact ih h
  | up n dir rest ih =>
      rw [resolveSteps_up] at h
      rw [routeSteps_up]
      exact ih h
  | down n dir name rest hname hlink ih =>
      rw [routeSteps_down hname hlink]
      obtain ⟨_, ⟨_, hplace, hget⟩ | ⟨_, h⟩⟩ := resolveSteps_down_ok hname hlink h
      · obtain rfl : place = dir ++ [name] := hplace
        exact ⟨List.mem_cons_self, hget⟩
      · exact ⟨List.mem_cons_of_mem _ (ih h).1, (ih h).2⟩
  | blocked dir name rest l hname hl =>
      rw [routeSteps_blocked hname hl]
      obtain ⟨_, ⟨_, ht⟩ | hbehind⟩ := resolveSteps_link_ok hname hl h
      · cases ht
        exact ⟨List.mem_cons_self, hl⟩
      · cases hbehind
  | link n dir name rest l hname hl ih =>
      rw [routeSteps_link hname hl]
      obtain ⟨_, ⟨_, ht⟩ | hbehind⟩ := resolveSteps_link_ok hname hl h
      · cases ht
        exact ⟨List.mem_cons_self, hl⟩
      · exact ⟨List.mem_cons_of_mem _ (ih hbehind).1, (ih hbehind).2⟩

/-- Where a file is found through links, the file or a link to it is found without following the last. -/
theorem resolveSteps_entry {c : Content} (names : List String)
    (h : fs.resolveSteps .target n dir names = .ok (.found place (.file c))) :
    ∃ place' entry, fs.resolveSteps .entry n dir names = .ok (.found place' entry) ∧
      entry ≠ .directory := by
  induction n, dir, names using steps_induction fs with
  | nil n dir =>
      rw [resolveSteps_nil] at h
      cases h
  | idle n dir name rest hidle ih =>
      rw [resolveSteps_idle hidle] at h ⊢
      exact ih h
  | up n dir rest ih =>
      rw [resolveSteps_up] at h ⊢
      exact ih h
  | down n dir name rest hname hlink ih =>
      obtain ⟨hlimit, ⟨rfl, hplace, hget⟩ | ⟨hget, h⟩⟩ := resolveSteps_down_ok hname hlink h
      · rw [resolveSteps_name hname, if_neg (by simp), if_neg (Nat.not_lt.mpr hlimit), hget]
        exact ⟨_, _, rfl, by simp⟩
      · rw [resolveSteps_name hname, if_neg (by simp), if_neg (Nat.not_lt.mpr hlimit), hget]
        exact ih h
  | blocked dir name rest l hname hl =>
      obtain ⟨_, ⟨_, ht⟩ | hbehind⟩ := resolveSteps_link_ok hname hl h
      · cases ht
      · cases hbehind
  | link n dir name rest l hname hl ih =>
      obtain ⟨hlimit, ⟨_, ht⟩ | hbehind⟩ := resolveSteps_link_ok hname hl h
      · cases ht
      · rw [resolveSteps_name hname, if_neg (by simp), if_neg (Nat.not_lt.mpr hlimit), hl]
        dsimp only
        split
        · exact ⟨_, _, rfl, by simp⟩
        · exact ih hbehind

theorem removeFile_of_read {content : Content} (h : fs.read p = .ok content) :
    ∃ fs', fs.removeFile p = .ok fs' := by
  obtain ⟨place, hresolve, _⟩ := read_ok h
  obtain ⟨hempty, hnul, hlimit, hsteps⟩ := resolve_ok hresolve
  obtain ⟨place', entry, hsteps', hentry⟩ := resolveSteps_entry _ hsteps
  have hfound : fs.resolve p .entry = .ok (.found place' entry) := by
    rw [resolve, if_neg (by simp [hempty]), if_neg (by simp [hnul]), if_neg (Nat.not_lt.mpr hlimit)]
    exact hsteps'
  rw [removeFile, hfound]
  cases entry with
  | directory => exact absurd rfl hentry
  | file c => exact ⟨_, rfl⟩
  | link l => exact ⟨_, rfl⟩

theorem get?_erase (fs : FileSystem) (hne : place ≠ []) (q : Place) :
    FileSystem.get? { fs with entries := fs.entries.erase place } q =
      if q = place then none else fs.get? q := by
  by_cases hq : q = []
  · rw [hq, if_neg hne.symm]
    rfl
  · rw [get?_of_ne_nil _ hq, get?_of_ne_nil _ hq, SortedMap.get?_erase]

theorem get?_removeFile (h : fs.removeFile p = .ok fs') :
    ∃ gone ∈ fs.way p, fs'.cwd = fs.cwd ∧
      ∀ place, fs'.get? place = if place = gone then none else fs.get? place := by
  unfold removeFile at h
  split at h
  · cases h
  · next gone entry hentry hresolve =>
      obtain ⟨hmem, hget⟩ := mem_way_of_resolveSteps _ hentry (resolve_ok hresolve).2.2.2
      rw [routeSteps_text] at hmem
      have hne : gone ≠ [] := by
        rintro rfl
        exact hentry (Option.some.inj hget).symm
      obtain rfl := Except.ok.inj h
      exact ⟨gone, hmem, rfl, get?_erase fs hne⟩
  · cases h
  · cases h

theorem Alike.removeFile {P : Place → Prop} {gs : FileSystem} (h : Alike P fs gs)
    (hway : ∀ place ∈ fs.way p, P place) : SameOutcome P (fs.removeFile p) (gs.removeFile p) := by
  unfold FileSystem.removeFile
  rw [h.resolve_eq hway]
  have herased : ∀ {place entry}, fs.resolve p .entry = .ok (.found place entry) → entry ≠ .directory →
      SameOutcome P (.ok { fs with entries := fs.entries.erase place })
        (.ok { gs with entries := gs.entries.erase place }) := by
    intro place entry hresolve hentry
    have hget := (mem_way_of_resolveSteps _ hentry (resolve_ok hresolve).2.2.2).2
    have hne : place ≠ [] := by
      rintro rfl
      exact hentry (Option.some.inj hget).symm
    refine .ok ⟨h.cwd_eq, fun q hq => ?_⟩
    rw [get?_erase _ hne, get?_erase _ hne, h.get?_eq q hq]
  cases hresolve : fs.resolve p .entry with
  | error e => exact .error e
  | ok t =>
      cases t with
      | vacant dir name => exact .error _
      | found place entry =>
          cases entry with
          | directory => exact .error _
          | file c => exact herased hresolve (by simp)
          | link l => exact herased hresolve (by simp)

theorem isFile_of_removeFile (h : fs.removeFile p = .ok fs') : fs'.isFile p = false := by
  obtain ⟨gone, hmem, hcwd, hget⟩ := get?_removeFile h
  rw [← Bool.not_eq_true]
  intro hfile
  unfold isFile at hfile
  split at hfile
  · next place c hresolve =>
      -- all of its way is there, so the way does not lead through what was removed
      have hother : ∀ q ∈ fs'.way p, q ≠ gone := by
        rintro q hq rfl
        have hnone : fs'.get? q = none := by rw [hget, if_pos rfl]
        rcases way_of_resolve hresolve (fun l hl => by cases hl) hq with ⟨hdir | ⟨l, hl⟩, _⟩ | ⟨_, hlast, _⟩
        · rw [hnone] at hdir
          cases hdir
        · rw [hnone] at hl
          cases hl
        · rw [hnone] at hlast
          cases hlast
      have hway : fs.way p = fs'.way p := by
        rw [way, way, route, route, start, start, hcwd]
        rw [routeSteps_congr _ (fun q hq l => ?_)]
        have hq' : q ∈ fs'.way p := by rwa [way, route, start, hcwd]
        rw [hget, if_neg (hother q hq')]
      rw [hway] at hmem
      exact hother gone hmem rfl
  · cases hfile

end removing

/-! ### Moving -/

/-- What stands where after all at a place and below it was moved. -/
theorem get?_moved (fs : FileSystem) (source dest : Place) (hsource : source ≠ []) (hdest : dest ≠ [])
    (place : Place) :
    ((fs.movedEntries source dest).foldl (fun fs e => fs.put e.1 e.2) (fs.eraseTree source)).get? place =
      if isWithin dest place then
        (fs.get? (source ++ place.drop dest.length)).or ((fs.eraseTree source).get? place)
      else (fs.eraseTree source).get? place := by
  have hne : ∀ e ∈ fs.movedEntries source dest, e.1 ≠ [] := fun e he hnil => by
    have hwithin := isWithin_of_mem_movedEntries hsource he
    rw [hnil] at hwithin
    exact hdest (List.prefix_nil.mp (List.isPrefixOf_iff_prefix.mp hwithin))
  split
  · next hwithin =>
      obtain ⟨below, rfl⟩ := List.isPrefixOf_iff_prefix.mp hwithin
      rw [List.drop_left]
      cases hentry : fs.get? (source ++ below) with
      | some entry =>
          rw [Option.some_or]
          refine get?_foldl_put_of_mem (e := (dest ++ below, entry)) hne (fun e he hsame => ?_)
            ((mem_movedEntries_iff hsource).mpr ⟨below, rfl, hentry⟩)
          obtain ⟨below', hplace, hget⟩ := (mem_movedEntries_iff hsource).mp he
          rw [← List.append_cancel_left (hsame.symm.trans hplace), hentry] at hget
          exact (Option.some.inj hget).symm
      | none =>
          rw [Option.none_or]
          rcases get?_foldl_put (dest ++ below) _ (fs.eraseTree source) hne with hkeep | ⟨e, he, hplace, _⟩
          · exact hkeep
          · obtain ⟨below', hplace', hget⟩ := (mem_movedEntries_iff hsource).mp he
            rw [← List.append_cancel_left (hplace.symm.trans hplace'), hentry] at hget
            cases hget
  · next hwithin =>
      rcases get?_foldl_put place _ (fs.eraseTree source) hne with hkeep | ⟨e, he, rfl, _⟩
      · exact hkeep
      · exact absurd (isWithin_of_mem_movedEntries hsource he) hwithin

end FileSystem

open FileSystem

theorem Run.session_of_change {ε : Type} {onError : Cause → ε} {f : FileSystem → Except Cause FileSystem}
    {s s' : Session} (h : (Run.change onError f).outcome.run s = (.ok (), s')) :
    s' = { s with files := s'.files } := by
  rw [run_change] at h
  cases hf : f s.files with
  | ok fs =>
      rw [hf] at h
      cases h
      rfl
  | error e =>
      rw [hf] at h
      cases h

theorem Archive.grown_extract {archive dest : Path} {s s' : Session} {n : Nat}
    (h : (extract archive dest).outcome.run s = (.ok n, s')) : Grown s.files s'.files := by
  have hunpacks := unpacks_extract archive dest s
  rw [h] at hunpacks
  rcases hunpacks with hsame | ⟨members, _, hgrows⟩
  · rw [show s'.files = s.files from hsame]
    exact .refl _
  · exact hgrows.grown

namespace Archive

/-- What stands at a path below an empty directory once an archive with the members was unpacked there. -/
def unpacked? (members : List (String × Member)) (below : List String) : Option Entry :=
  if below = [] then some .directory else contents? (distinct members) below

/-- The path leads into a directory that has nothing in it. -/
structure IsEmptyDirectory (fs : FileSystem) (dest : Path) (root : Place) : Prop where
  leads : fs.LeadsInto dest root
  directory : fs.get? root = some .directory
  empty : ∀ below, below ≠ [] → fs.get? (root ++ below) = none

theorem IsEmptyDirectory.isDestination {fs : FileSystem} {dest : Path} {root : Place}
    (h : IsEmptyDirectory fs dest root) : IsDestination fs dest root := by
  refine ⟨h.leads.goal?_eq, fun place l hplace => ?_, fun below hmem => ?_⟩
  · obtain ⟨below, rfl⟩ := List.isPrefixOf_iff_prefix.mp hplace
    by_cases hne : below = []
    · rw [hne, List.append_nil, h.directory]
      simp
    · rw [h.empty below hne]
      simp
  · by_contra hne
    exact h.leads.get?_ne_none hmem (h.empty below hne)

/-- An archive that is unpacked into an empty directory leaves what its members say. -/
theorem get?_extract_empty {archive dest : Path} {root : Place} {s s' : Session} {n : Nat}
    {members : List (String × Member)} (hempty : IsEmptyDirectory s.files dest root)
    (hread : s.files.read archive = .ok (.archive members))
    (hmembers : ∀ name ∈ members.map Prod.fst, ".." ∉ (⟨name⟩ : Path).components)
    (h : (extract archive dest).outcome.run s = (.ok n, s')) (below : List String) :
    s'.files.get? (root ++ below) = unpacked? members below := by
  unfold unpacked?
  split
  · next hnil =>
      rw [hnil, List.append_nil]
      exact (grown_extract h).directory hempty.directory
  · next hne =>
      rw [get?_extract hempty.isDestination hread hmembers h hne, hempty.empty below hne, Option.or_none]

end Archive

namespace Depot

open DataDirectory

/-! ### The steps of putting a release in its place -/

/-- The sessions that putting a release in the place of the tree goes through, from `s` to `s'`: what is
beside the tree is removed, the archive is unpacked there, the tree is removed, and the release is moved. -/
structure Stages (d : Depot) (version : Version) (dir : Place) (s s₁ s₂ s₃ s' : Session) : Prop where
  leads : s.files.LeadsInto d.directory.path dir
  usable_staging : IsUsable d.directory.staging
  usable_tree : IsUsable d.directory.tree
  clear : (removeTree d.directory.staging).outcome.run s = (.ok (), s₁)
  cleared : Cleared (dir ++ ["wordpress-temp"]) s.files s₁.files
  unpack : ∃ n,
    (Archive.extract (d.directory.archive version) d.directory.staging).outcome.run s₁ = (.ok n, s₂)
  remove : (removeTree d.directory.tree).outcome.run s₂ = (.ok (), s₃)
  removed : Cleared (dir ++ ["wordpress"]) s₂.files s₃.files
  move : (Run.change (fun e => ReleaseFailure.io d.directory.tree e)
    (fun fs => fs.rename d.directory.staging d.directory.tree)).outcome.run s₃ = (.ok (), s')

section install
variable {d : Depot} {version : Version} {dir : Place} {s s₁ s₂ s₃ s' : Session}

theorem install_stages (hready : Ready d version dir s.files)
    (h : (d.install version).outcome.run s = (.ok (), s')) :
    ∃ s₁ s₂ s₃, Stages d version dir s s₁ s₂ s₃ s' := by
  have hdirs : ∀ {dir'}, s.files.LeadsInto d.directory.path dir' → dir' = dir := fun h =>
    Option.some.inj (h.goal?_eq.symm.trans hready.goal)
  obtain ⟨n, s₁, s₂, s₃, hclear, hextract, hremove, hmove⟩ := install_ok h
  obtain ⟨members, hread, _⟩ := Archive.leadsInto_of_extract hextract
  obtain ⟨hstaging, ⟨hsame, hno⟩ | ⟨dir', hleads, hcleared⟩⟩ := removeTree_ok isFileName_staging
    (fun dir' hdir' => by rw [hdirs hdir']; exact hready.free_staging) hclear
  · -- an archive was read, so the path of the data directory can be followed
    rw [hsame] at hread
    obtain ⟨dir', hdir'⟩ := leadsInto_of_read_archive hread
    exact absurd hdir' (hno dir')
  obtain rfl := hdirs hleads
  have htree : ∀ place, isWithin (dir' ++ ["wordpress"]) place = true →
      s₂.files.get? place = s.files.get? place := fun place hplace => by
    have hkept := get?_tree_of_cleared hready hcleared hleads hplace
    rwa [hextract] at hkept
  have hleads₂ : s₂.files.LeadsInto d.directory.path dir' :=
    (Archive.grown_extract hextract).leadsInto (leadsInto_of_cleared hready hcleared hleads)
  have hfree : s₂.files.get? (dir' ++ ["wordpress"]) = none →
      ∀ place, isWithin (dir' ++ ["wordpress"]) place = true → s₂.files.get? place = none := by
    intro hnone place hplace
    rw [htree _ (isWithin_self _)] at hnone
    rw [htree place hplace]
    exact hready.free_tree hnone place hplace
  have hdirs₂ : ∀ {dir}, s₂.files.LeadsInto d.directory.path dir → dir = dir' := fun h =>
    Option.some.inj (h.goal?_eq.symm.trans hleads₂.goal?_eq)
  obtain ⟨husable, ⟨_, hno⟩ | ⟨dir, hleads', hremoved⟩⟩ := removeTree_ok isFileName_tree
    (fun dir hdir => by rw [hdirs₂ hdir]; exact hfree) hremove
  · exact absurd hleads₂ (hno dir')
  obtain rfl := hdirs₂ hleads'
  exact ⟨s₁, s₂, s₃, hleads, hstaging, husable, hclear, hcleared, ⟨n, hextract⟩, hremove, hremoved, hmove⟩

section stages
variable (hready : Ready d version dir s.files) (h : Stages d version dir s s₁ s₂ s₃ s')
include hready h

theorem Stages.leads₁ : s₁.files.LeadsInto d.directory.path dir :=
  leadsInto_of_cleared hready h.cleared h.leads

theorem Stages.leads₂ : s₂.files.LeadsInto d.directory.path dir := by
  obtain ⟨n, hextract⟩ := h.unpack
  exact (Archive.grown_extract hextract).leadsInto (h.leads₁ hready)

theorem Stages.way₁ :
    s₁.files.way (d.directory.archive version) = s.files.way (d.directory.archive version) :=
  h.cleared.way_eq hready.off_staging

theorem Stages.way₂ :
    s₂.files.way (d.directory.archive version) = s.files.way (d.directory.archive version) := by
  obtain ⟨n, hextract⟩ := h.unpack
  rw [(Archive.grown_extract hextract).way_eq, h.way₁ hready]

theorem Stages.leads₃ : s₃.files.LeadsInto d.directory.path dir := by
  refine h.removed.leadsInto (fun place hplace => hready.off_tree place ?_) (h.leads₂ hready)
  rw [← h.way₂ hready]
  exact way_path_subset hplace

omit hready in
theorem Stages.noLinks : Archive.NoLinks s₁.files (dir ++ ["wordpress-temp"]) := fun place l hplace => by
  rw [h.cleared.inside place hplace]
  simp

theorem Stages.way_staging : s₁.files.way d.directory.staging =
    s₁.files.way d.directory.path ++ [dir ++ ["wordpress-temp"]] :=
  (route_joinText isFileName_staging.isPlain (h.leads₁ hready).goal?_eq
    (fun l => h.noLinks _ l (isWithin_self _))).1

theorem Stages.isDestination :
    Archive.IsDestination s₁.files d.directory.staging (dir ++ ["wordpress-temp"]) := by
  have hleads := h.leads₁ hready
  refine ⟨goal?_child isFileName_staging hleads (fun l => h.noLinks _ l (isWithin_self _)), h.noLinks,
    fun below hmem => ?_⟩
  rw [h.way_staging hready] at hmem
  rcases List.mem_append.mp hmem with hway | hlast
  · exact absurd (h.cleared.inside _ (isWithin_append _ below)) (hleads.get?_ne_none hway)
  · simpa using List.mem_singleton.mp hlast

end stages

end install

/-! ### What stands where in the end -/

/-- The tree has the contents of an archive, nothing is left beside it, and all else is as it was. -/
structure Replaced (dir : Place) (members : List (String × Member)) (fs fs' : FileSystem) : Prop where
  cwd_eq : fs'.cwd = fs.cwd
  tree : ∀ below, fs'.get? (dir ++ ["wordpress"] ++ below) = Archive.unpacked? members below
  staging : ∀ below, fs'.get? (dir ++ ["wordpress-temp"] ++ below) = none
  outside : ∀ place, ¬Below dir treeNames place → fs'.get? place = fs.get? place

/-- A release beside a tree that is not there is moved to its place. -/
theorem rename_eq_moved {d : Depot} {dir : Place} {fs : FileSystem}
    (hleads : fs.LeadsInto d.directory.path dir) (hstaging : IsUsable d.directory.staging)
    (htree : IsUsable d.directory.tree) (hfree : fs.get? (dir ++ ["wordpress"]) = none) :
    fs.rename d.directory.staging d.directory.tree =
      if fs.get? (dir ++ ["wordpress-temp"]) = none then .error .notFound
      else .ok ((fs.movedEntries (dir ++ ["wordpress-temp"]) (dir ++ ["wordpress"])).foldl
        (fun fs e => fs.put e.1 e.2) (fs.eraseTree (dir ++ ["wordpress-temp"]))) := by
  have hsource : fs.resolve d.directory.staging .entry = .ok (fs.child dir "wordpress-temp") :=
    resolve_child isFileName_staging hleads hstaging
  have hdest : fs.resolve d.directory.tree .entry = .ok (fs.child dir "wordpress") :=
    resolve_child isFileName_tree hleads htree
  rw [rename, hsource, hdest, child, child, hfree]
  cases fs.get? (dir ++ ["wordpress-temp"]) with
  | none => rfl
  | some entry => rfl

theorem not_below_treeNames {dir place : Place} : ¬Below dir treeNames place ↔
    isWithin (dir ++ ["wordpress"]) place = false ∧ isWithin (dir ++ ["wordpress-temp"]) place = false := by
  simp [Below, treeNames]

section contents
variable {d : Depot} {version : Version} {dir : Place} {s s₁ s₂ s₃ s' : Session}
  {members : List (String × Member)}

section unpacked
variable (hready : Ready d version dir s.files) (h : Stages d version dir s s₁ s₂ s₃ s')
  (hread : s.files.read (d.directory.archive version) = .ok (.archive members))
  (hup : ∀ name ∈ members.map Prod.fst, ".." ∉ (⟨name⟩ : Path).components)
include hready h hread

theorem Stages.read₁ : s₁.files.read (d.directory.archive version) = .ok (.archive members) :=
  (read_archive_of_cleared hready h.cleared).trans hread

include hup

theorem Stages.get?_staging (hthere : s₂.files.get? (dir ++ ["wordpress-temp"]) ≠ none)
    (below : List String) :
    s₂.files.get? (dir ++ ["wordpress-temp"] ++ below) = Archive.unpacked? members below := by
  have hdest := h.isDestination hready
  have hread₁ := h.read₁ hready hread
  have hnone : ∀ below, s₁.files.get? (dir ++ ["wordpress-temp"] ++ below) = none := fun below =>
    h.cleared.inside _ (isWithin_append _ below)
  obtain ⟨n, hextract⟩ := h.unpack
  unfold Archive.unpacked?
  split
  · next hnil =>
      -- no member is written at the destination itself, so a directory was made there
      have hnone' := hnone []
      rw [List.append_nil] at hnone'
      rw [hnil, List.append_nil]
      have hunpacks := Archive.unpacks_extract (d.directory.archive version) d.directory.staging s₁
      rw [hextract] at hunpacks
      rcases hunpacks with hsame | ⟨members', hread', hgrows⟩
      · rw [show s₂.files = s₁.files from hsame] at hthere
        exact absurd hnone' hthere
      · obtain rfl : members' = members := by
          have hsame := hread'.symm.trans hread₁
          cases hsame
          rfl
        rcases hgrows.entry (dir ++ ["wordpress-temp"]) with
          hkeep | ⟨_, _, hdir⟩ | ⟨⟨name, hname, _, hway⟩, _⟩
        · exact absurd (hkeep.trans hnone') hthere
        · exact hdir
        · obtain ⟨below, hne, _, hplace⟩ := (mem_wayBehind_iff hdest.goal hdest.noLinks
            (Archive.up_not_mem_memberPath (hup name hname))).mp hway
          exact absurd (List.self_eq_append_right.mp hplace) hne
  · next hne =>
      rw [Archive.get?_extract hdest hread₁ hup hextract hne, hnone, Option.or_none]

/-- **The tree has the contents of the archive and nothing else**, once it was installed. -/
theorem Stages.replaced : Replaced dir members s.files s'.files := by
  have hrename := Run.run_change_ok h.move
  have hfree : s₃.files.get? (dir ++ ["wordpress"]) = none := h.removed.inside _ (isWithin_self _)
  rw [rename_eq_moved (h.leads₃ hready) h.usable_staging h.usable_tree hfree] at hrename
  split at hrename
  · cases hrename
  next hthere =>
  have hmoved := Except.ok.inj hrename
  have hother : ∀ {place}, isWithin (dir ++ ["wordpress-temp"]) place = true →
      s₃.files.get? place = s₂.files.get? place := fun hplace =>
    h.removed.outside _ (isWithin_tree_of_staging hplace)
  have hstaged := h.get?_staging hready hread hup (by rwa [← hother (isWithin_self _)])
  have hget := get?_moved s₃.files (dir ++ ["wordpress-temp"]) (dir ++ ["wordpress"]) (by simp) (by simp)
  rw [hmoved] at hget
  obtain ⟨n, hextract⟩ := h.unpack
  refine ⟨?_, fun below => ?_, fun below => ?_, fun place hplace => ?_⟩
  · calc s'.files.cwd = s₃.files.cwd := by rw [← hmoved, cwd_foldl_put]; rfl
      _ = s₂.files.cwd := h.removed.cwd_eq
      _ = s₁.files.cwd := (Archive.grown_extract hextract).cwd_eq
      _ = s.files.cwd := h.cleared.cwd_eq
  · have hwithin := isWithin_append (dir ++ ["wordpress"]) below
    rw [hget, if_pos hwithin, List.drop_left, hother (isWithin_append _ below), hstaged,
      get?_eraseTree _ (by simp), h.removed.inside _ hwithin, ite_self, Option.or_none]
  · have hwithin := isWithin_append (dir ++ ["wordpress-temp"]) below
    rw [hget, isWithin_tree_of_staging hwithin, if_neg (by simp), get?_eraseTree _ (by simp), if_pos hwithin]
  · obtain ⟨htree, hstaging⟩ := not_below_treeNames.mp hplace
    have hmembers := hready.members
    rw [← read_archive_of_cleared hready h.cleared] at hmembers
    have hkept := get?_extract_staging (h.leads₁ hready) h.noLinks hmembers hstaging
    rw [hextract] at hkept
    calc s'.files.get? place = s₃.files.get? place := by
          rw [hget, htree, if_neg (by simp), get?_eraseTree _ (by simp), hstaging, if_neg (by simp)]
      _ = s₂.files.get? place := h.removed.outside place htree
      _ = s₁.files.get? place := hkept
      _ = s.files.get? place := h.cleared.outside place hstaging

end unpacked

end contents

/-! ### What was there before plays no part -/

theorem session_of_removeTree {p : Path} {s s' : Session}
    (h : (removeTree p).outcome.run s = (.ok (), s')) : s' = { s with files := s'.files } := by
  unfold removeTree at h
  exact Run.session_of_change h

/-- A renaming of a release comes to the same in file systems that have the same everywhere. -/
theorem moved_alike {fs gs : FileSystem} (h : Alike (fun _ => True) fs gs) (source dest : Place)
    (hsource : source ≠ []) (hdest : dest ≠ []) :
    Alike (fun _ => True)
      ((fs.movedEntries source dest).foldl (fun fs e => fs.put e.1 e.2) (fs.eraseTree source))
      ((gs.movedEntries source dest).foldl (fun fs e => fs.put e.1 e.2) (gs.eraseTree source)) := by
  refine ⟨?_, fun place _ => ?_⟩
  · rw [cwd_foldl_put, cwd_foldl_put]
    exact h.cwd_eq
  · rw [get?_moved fs source dest hsource hdest, get?_moved gs source dest hsource hdest,
      get?_eraseTree _ hsource, get?_eraseTree _ hsource, h.get?_eq _ trivial, h.get?_eq _ trivial]

section alike
variable {d : Depot} {version : Version} {dir : Place} {s s₁ s₂ s₃ s' : Session} {gs : FileSystem}

/-- A directory is removed from both in the same way, and then they have the same also in it. -/
theorem removeTree_alike {P Q : Place → Prop} {p : Path} {x : String} (hx : IsFileName x)
    (halike : Alike P s.files gs) (hQ : ∀ place, Q place → isWithin (dir ++ [x]) place = false → P place)
    (hleads : gs.LeadsInto p dir) (husable : IsUsable (p.joinText x)) (hclear : gs.Clearable (dir ++ [x]))
    (h : (removeTree (p.joinText x)).outcome.run s = (.ok (), s₁))
    (hcleared : Cleared (dir ++ [x]) s.files s₁.files) :
    ∃ gs', Alike Q s₁.files gs' ∧ Cleared (dir ++ [x]) gs gs' ∧
      (removeTree (p.joinText x)).outcome.run { s with files := gs } =
        (.ok (), { s₁ with files := gs' }) := by
  obtain ⟨t, hrun, hcleared'⟩ := removeTree_clearable (s := { s with files := gs }) hx hleads husable hclear
  refine ⟨t.files, ⟨?_, fun place hplace => ?_⟩, hcleared', ?_⟩
  · rw [hcleared'.cwd_eq, hcleared.cwd_eq]
    exact halike.cwd_eq
  · cases hwithin : isWithin (dir ++ [x]) place with
    | true => rw [hcleared'.inside place hwithin, hcleared.inside place hwithin]
    | false =>
        rw [hcleared'.outside place hwithin, hcleared.outside place hwithin]
        exact halike.get?_eq place (hQ place hplace hwithin)
  · rw [hrun, session_of_removeTree h, session_of_removeTree hrun]

/-- The ways to what is unpacked do not lead through the tree. -/
theorem Stages.off_tree (hready : Ready d version dir s.files) (h : Stages d version dir s s₁ s₂ s₃ s')
    {members : List (String × Member)}
    (hread : s₁.files.read (d.directory.archive version) = .ok (.archive members))
    {name : String} (hname : name ∈ members.map Prod.fst) (hsafe : Archive.isSafe name = true) :
    ∀ place ∈ s₁.files.way (d.directory.staging.join (Archive.memberPath name)),
      isWithin (dir ++ ["wordpress"]) place = false := by
  have hdest := h.isDestination hready
  have hstays : Archive.staysBelow 0 (Archive.memberPath name).names = true := by
    rw [Archive.staysBelow_names]
    rw [read_archive_of_cleared hready h.cleared] at hread
    exact hready.members members hread name hname hsafe
  intro place hplace
  rw [way_join (Archive.staysBelow_memberPath hsafe).1] at hplace
  rcases List.mem_append.mp hplace with hway | hbehind
  · rw [h.way_staging hready] at hway
    rcases List.mem_append.mp hway with hway | hlast
    · refine hready.off_tree place ?_
      rw [← h.way₁ hready]
      exact way_path_subset hway
    · rw [List.mem_singleton.mp hlast]
      exact isWithin_tree_of_staging (isWithin_self _)
  · have hgoal : s₁.files.goal? d.directory.staging = some (dir ++ ["wordpress-temp"] ++ []) := by
      rw [List.append_nil]
      exact hdest.goal
    exact isWithin_tree_of_staging (Archive.wayBehind_within hgoal hdest.noLinks hstays hbehind)

/-- **A release is installed in the same way whatever was in its place and beside it**, and in the end all
files are the same. -/
theorem install_alike (hready : Ready d version dir s.files) (hready' : Ready d version dir gs)
    (halike : Alike (fun place => ¬Below dir treeNames place) s.files gs)
    (hstaging : gs.Clearable (dir ++ ["wordpress-temp"])) (htree : gs.Clearable (dir ++ ["wordpress"]))
    (h : (d.install version).outcome.run s = (.ok (), s')) :
    ∃ gs', Alike (fun _ => True) s'.files gs' ∧
      (d.install version).outcome.run { s with files := gs } = (.ok (), { s' with files := gs' }) := by
  obtain ⟨s₁, s₂, s₃, hstages⟩ := install_stages hready h
  have hoff : ∀ place ∈ s.files.way d.directory.path, ¬Below dir treeNames place := fun place hplace =>
    not_below_treeNames.mpr ⟨hready.off_tree place (way_path_subset hplace),
      hready.off_staging place (way_path_subset hplace)⟩
  -- what is beside the tree is removed: from here on the files differ in the tree alone
  have hleads : gs.LeadsInto d.directory.path dir := halike.leadsInto hoff hstages.leads
  obtain ⟨gs₁, halike₁, hcleared, hclear⟩ := removeTree_alike isFileName_staging halike
    (Q := fun place => isWithin (dir ++ ["wordpress"]) place = false)
    (fun place htree hstaging => not_below_treeNames.mpr ⟨htree, hstaging⟩) hleads hstages.usable_staging
    hstaging hstages.clear hstages.cleared
  change (removeTree d.directory.staging).outcome.run _ = _ at hclear
  -- the archive is unpacked, which does not look at the tree
  obtain ⟨n, hextract⟩ := hstages.unpack
  obtain ⟨gs₂, halike₂, hextract'⟩ := Archive.extract_alike (d.directory.archive version)
    d.directory.staging halike₁ (by rw [hstages.way₁ hready]; exact hready.off_tree)
    (fun members hread name hname hsafe => hstages.off_tree hready hread hname hsafe)
  rw [hextract] at halike₂ hextract'
  -- the tree is removed, and the files are the same everywhere
  have htree₂ : gs₂.Clearable (dir ++ ["wordpress"]) := by
    refine htree.congr (fun place hplace => ?_)
    have hcleared₁ : Cleared _ gs (Session.files { s₁ with files := gs₁ }) := hcleared
    have hkept := get?_tree_of_cleared (s := { s with files := gs }) hready' hcleared₁ hleads hplace
    rwa [hextract'] at hkept
  have hleads₂ : gs₂.LeadsInto d.directory.path dir := by
    refine halike₂.leadsInto (fun place hplace => hready.off_tree place ?_) (hstages.leads₂ hready)
    rw [← hstages.way₂ hready]
    exact way_path_subset hplace
  obtain ⟨gs₃, halike₃, hremoved, hremove⟩ := removeTree_alike isFileName_tree halike₂
    (Q := fun _ => True) (fun _ _ hplace => hplace) hleads₂ hstages.usable_tree htree₂ hstages.remove
    hstages.removed
  change (removeTree d.directory.tree).outcome.run _ = _ at hremove
  -- so the release is moved in the same way
  have hrename := Run.run_change_ok hstages.move
  rw [rename_eq_moved (hstages.leads₃ hready) hstages.usable_staging hstages.usable_tree
    (hstages.removed.inside _ (isWithin_self _))] at hrename
  split at hrename
  · cases hrename
  next hthere =>
  have hrename' : gs₃.rename d.directory.staging d.directory.tree = _ :=
    rename_eq_moved (halike₃.leadsInto (fun _ _ => trivial) (hstages.leads₃ hready)) hstages.usable_staging
      hstages.usable_tree (hremoved.inside _ (isWithin_self _))
  rw [halike₃.get?_eq _ trivial, if_neg hthere] at hrename'
  have hmoved := moved_alike halike₃ (dir ++ ["wordpress-temp"]) (dir ++ ["wordpress"]) (by simp) (by simp)
  rw [Except.ok.inj hrename] at hmoved
  refine ⟨_, hmoved, ?_⟩
  unfold install
  rw [Run.run_bind, hclear]
  dsimp only
  rw [Run.run_bind, hextract']
  dsimp only
  rw [Run.run_bind, hremove]
  dsimp only
  rw [Run.run_change, hrename', Run.session_of_change hstages.move]

end alike

/-! ### Bringing in a release -/

section fetch
variable {d : Depot} {version : Version} {dir : Place} {s s' : Session} {gs : FileSystem}

theorem Replaced.alike {members : List (String × Member)} {fs fs' : FileSystem}
    (h : Replaced dir members fs fs') : Alike (fun place => ¬Below dir treeNames place) fs fs' :=
  ⟨h.cwd_eq, h.outside⟩

theorem finish_alike (d : Depot) (version : Version) (halike : Alike (fun _ => True) s.files gs) :
    ∃ gs', Alike (fun _ => True) ((d.finish version).outcome.run s).2.files gs' ∧
      (d.finish version).outcome.run { s with files := gs } =
        (((d.finish version).outcome.run s).1,
          { ((d.finish version).outcome.run s).2 with files := gs' }) := by
  unfold finish
  split
  · have hsame := halike.removeFile (p := d.directory.archive version) (fun _ _ => trivial)
    rw [Run.run_bind, Run.run_liftM, Action.run_change, Run.run_bind, Run.run_liftM, Action.run_change]
    dsimp only
    generalize s.files.removeFile (d.directory.archive version) = r,
      gs.removeFile (d.directory.archive version) = r' at hsame
    cases hsame with
    | ok h => exact ⟨_, h, rfl⟩
    | error e => exact ⟨gs, halike, rfl⟩
  · exact ⟨gs, halike, rfl⟩

/-- In the end the archive is there if it is to be kept, and what is off the way to it is as it was. -/
theorem finish_archive {content : Content}
    (hread : s.files.read (d.directory.archive version) = .ok content) :
    ((d.finish version).outcome.run s).2.files.isFile (d.directory.archive version) = d.keepArchive ∧
      ∀ place, place ∉ s.files.way (d.directory.archive version) →
        ((d.finish version).outcome.run s).2.files.get? place = s.files.get? place := by
  unfold finish
  cases hkeep : d.keepArchive with
  | true =>
      obtain ⟨place, hresolve, _⟩ := read_ok hread
      refine ⟨?_, fun _ _ => rfl⟩
      change s.files.isFile (d.directory.archive version) = true
      rw [isFile, hresolve]
  | false =>
      obtain ⟨fs', hremove⟩ := removeFile_of_read hread
      obtain ⟨gone, hmem, _, hget⟩ := get?_removeFile hremove
      rw [Bool.not_false, if_pos rfl, Run.run_bind, Run.run_liftM, Action.run_change, hremove]
      refine ⟨isFile_of_removeFile hremove, fun place hplace => ?_⟩
      have hother : place ≠ gone := by
        rintro rfl
        exact hplace hmem
      exact (hget place).trans (if_neg hother)

/-- What bringing in a release relies on holds once the archive was supplied. -/
theorem ready_of_supply {s₁ : Session} (hclosed : s.files.Closed)
    (hgoal : s.files.goal? d.directory.path = some dir)
    (hoff : ∀ place ∈ s.files.way (d.directory.archive version), ¬Below dir treeNames place)
    (hup : ∀ members, d.supplied? version s.files = some (.archive members) →
      ∀ name ∈ members.map Prod.fst, ".." ∉ (⟨name⟩ : Path).components)
    (hsupply : (d.supply version).outcome.run s = (.ok (), s₁)) : Ready d version dir s₁.files := by
  have hgrows : Grows (· ∈ s.files.way (d.directory.archive version))
      (· ∈ s.files.way (d.directory.archive version)) s.files
      ((d.supply version).outcome.run s).2.files := supply_grows s (.refl s.files)
  rw [hsupply] at hgrows
  have htree : ∀ place ∈ s.files.way (d.directory.archive version),
      isWithin (dir ++ ["wordpress"]) place = false := fun place hplace =>
    (not_below_treeNames.mp (hoff place hplace)).1
  have hstaging : ∀ place ∈ s.files.way (d.directory.archive version),
      isWithin (dir ++ ["wordpress-temp"]) place = false := fun place hplace =>
    (not_below_treeNames.mp (hoff place hplace)).2
  have hfree : ∀ root : Place, (∀ place ∈ s.files.way (d.directory.archive version),
      isWithin root place = false) → s₁.files.get? root = none →
        ∀ place, isWithin root place = true → s₁.files.get? place = none := by
    intro root hroot hnone place hplace
    rw [get?_supply hgrows hroot (isWithin_self root)] at hnone
    rw [get?_supply hgrows hroot hplace]
    exact hclosed.get?_eq_none hnone hplace
  exact {
    goal := by rw [hgrows.goal?_eq, hgoal]
    off_tree := by rw [hgrows.way_eq]; exact htree
    off_staging := by rw [hgrows.way_eq]; exact hstaging
    free_tree := hfree _ htree
    free_staging := hfree _ hstaging
    members := fun members hmember => Archive.staysInside_of_not_mem
      (hup members (by rw [← supply_read hsupply, hmember]; rfl)) }

theorem clearable_of_supply {x : String} {s₁ : Session} (hx : x ∈ treeNames) (hclosed : s.files.Closed)
    (hoff : ∀ place ∈ s.files.way (d.directory.archive version), ¬Below dir treeNames place)
    (hdir : s.files.get? (dir ++ [x]) = none ∨ s.files.get? (dir ++ [x]) = some .directory)
    (hsupply : (d.supply version).outcome.run s = (.ok (), s₁)) : s₁.files.Clearable (dir ++ [x]) := by
  have hgrows : Grows (· ∈ s.files.way (d.directory.archive version))
      (· ∈ s.files.way (d.directory.archive version)) s.files
      ((d.supply version).outcome.run s).2.files := supply_grows s (.refl s.files)
  rw [hsupply] at hgrows
  have hclear : s.files.Clearable (dir ++ [x]) :=
    hdir.elim (fun hnone => .inr (fun place hplace => hclosed.get?_eq_none hnone hplace)) .inl
  refine hclear.congr (fun place hplace => get?_supply hgrows (fun q hq => ?_) hplace)
  rw [Bool.eq_false_iff]
  exact fun hwithin => hoff q hq ⟨x, hx, hwithin⟩

/-- A release is brought in in the same way whatever directories were in its place and beside it. -/
theorem fetch_alike {tree : Path} (hclosed : s.files.Closed)
    (hgoal : s.files.goal? d.directory.path = some dir)
    (hoff : ∀ place ∈ s.files.way (d.directory.archive version), ¬Below dir treeNames place)
    (hup : ∀ members, d.supplied? version s.files = some (.archive members) →
      ∀ name ∈ members.map Prod.fst, ".." ∉ (⟨name⟩ : Path).components)
    (hclosed' : gs.Closed) (halike : Alike (fun place => ¬Below dir treeNames place) s.files gs)
    (hdirs : ∀ x ∈ treeNames, gs.get? (dir ++ [x]) = none ∨ gs.get? (dir ++ [x]) = some .directory)
    (h : (d.fetch version).outcome.run s = (.ok tree, s')) :
    ∃ gs', Alike (fun _ => True) s'.files gs' ∧
      (d.fetch version).outcome.run { s with files := gs } = (.ok tree, { s' with files := gs' }) := by
  rw [fetch_eq] at h ⊢
  obtain ⟨_, s₁, hsupply, h⟩ := Run.run_bind_ok h
  obtain ⟨_, s₂, hinstall, hfinish⟩ := Run.run_bind_ok h
  -- the same archive is supplied
  obtain ⟨gs₁, halike₁, hsupply'⟩ := supply_alike halike hoff
  rw [hsupply] at halike₁ hsupply'
  have hgoal' : gs.goal? d.directory.path = some dir := by
    rw [goal?, halike.route_eq (fun place hplace => hoff place (way_path_subset hplace))]
    exact hgoal
  have hoff' : ∀ place ∈ gs.way (d.directory.archive version), ¬Below dir treeNames place := by
    rw [way, halike.route_eq hoff]
    exact hoff
  have hsupplied : d.supplied? version gs = d.supplied? version s.files := by
    rw [supplied?, supplied?, halike.read_eq hoff, halike.isFile_eq hoff]
  have hready' := ready_of_supply (s := { s with files := gs }) hclosed' hgoal' hoff'
    (fun members hmembers => hup members (hsupplied ▸ hmembers)) hsupply'
  have hclear : ∀ x ∈ treeNames, gs₁.Clearable (dir ++ [x]) := fun x hx =>
    clearable_of_supply (s := { s with files := gs }) hx hclosed' hoff' (hdirs x hx) hsupply'
  obtain ⟨gs₂, halike₂, hinstall'⟩ := install_alike (ready_of_supply hclosed hgoal hoff hup hsupply) hready'
    halike₁ (hclear _ (by decide)) (hclear _ (by decide)) hinstall
  obtain ⟨gs₃, halike₃, hfinish'⟩ := finish_alike d version halike₂
  rw [hfinish] at halike₃ hfinish'
  refine ⟨gs₃, halike₃, ?_⟩
  rw [Run.run_bind, hsupply']
  dsimp only
  rw [Run.run_bind, hinstall']
  exact hfinish'

end fetch

/-- **A release that was brought in is all that is left.**  The tree has what unpacking its archive into an
empty directory gives, nothing is beside it, and the archive is there if it is to be kept.  What was in these
directories before plays no part in this.  It is asked that the path of the archive does not lead through
them, as it may if the version has slashes, and that no member goes up. -/
theorem fetch_contents (d : Depot) (version : Version) (s s' : Session) (tree : Path) (dir : Place)
    (hclosed : s.files.Closed) (hgoal : s.files.goal? d.directory.path = some dir)
    (hoff : ∀ place ∈ s.files.way (d.directory.archive version), ¬Below dir treeNames place)
    (hup : ∀ members, d.supplied? version s.files = some (.archive members) →
      ∀ name ∈ members.map Prod.fst, ".." ∉ (⟨name⟩ : Path).components)
    (h : (d.fetch version).outcome.run s = (.ok tree, s')) :
    ∃ members, d.supplied? version s.files = some (.archive members) ∧
      (∀ below, s'.files.get? (dir ++ ["wordpress"] ++ below) = Archive.unpacked? members below) ∧
      (∀ (t t' : Session) (archive dest : Path) (root : Place) (n : Nat),
        t.files.read archive = .ok (.archive members) → Archive.IsEmptyDirectory t.files dest root →
        (Archive.extract archive dest).outcome.run t = (.ok n, t') →
        ∀ below, s'.files.get? (dir ++ ["wordpress"] ++ below) = t'.files.get? (root ++ below)) ∧
      (∀ below, s'.files.get? (dir ++ ["wordpress-temp"] ++ below) = none) ∧
      s'.files.isFile (d.directory.archive version) = d.keepArchive ∧
      ∀ gs : FileSystem, gs.Closed → Alike (fun place => ¬Below dir treeNames place) s.files gs →
        (∀ x ∈ treeNames, gs.get? (dir ++ [x]) = none ∨ gs.get? (dir ++ [x]) = some .directory) →
        ∃ gs', (∀ place, gs'.get? place = s'.files.get? place) ∧
          (d.fetch version).outcome.run { s with files := gs } = (.ok tree, { s' with files := gs' }) := by
  have hrun := h
  rw [fetch_eq] at hrun
  obtain ⟨_, s₁, hsupply, hrun⟩ := Run.run_bind_ok hrun
  obtain ⟨_, s₂, hinstall, hfinish⟩ := Run.run_bind_ok hrun
  have hready := ready_of_supply hclosed hgoal hoff hup hsupply
  obtain ⟨t₁, t₂, t₃, hstages⟩ := install_stages hready hinstall
  obtain ⟨n, hextract⟩ := hstages.unpack
  obtain ⟨members, hread, _⟩ := Archive.leadsInto_of_extract hextract
  rw [read_archive_of_cleared hready hstages.cleared] at hread
  have hsupplied : d.supplied? version s.files = some (.archive members) := by
    rw [← supply_read hsupply, hread]
    rfl
  have hreplaced := hstages.replaced hready hread (hup members hsupplied)
  -- finishing removes the archive at most, which is not in these directories
  have hoff₁ : ∀ place ∈ s₁.files.way (d.directory.archive version), ¬Below dir treeNames place :=
    fun place hplace => not_below_treeNames.mpr
      ⟨hready.off_tree place hplace, hready.off_staging place hplace⟩
  have hoff₂ : ∀ place, Below dir treeNames place → place ∉ s₂.files.way (d.directory.archive version) := by
    intro place hbelow hmem
    rw [way, hreplaced.alike.route_eq hoff₁] at hmem
    exact hoff₁ place hmem hbelow
  obtain ⟨harchive, hkept⟩ := finish_archive ((hreplaced.alike.read_eq hoff₁).trans hread)
  rw [hfinish] at harchive hkept
  have htree : ∀ below, s'.files.get? (dir ++ ["wordpress"] ++ below) = Archive.unpacked? members below :=
    fun below => (hkept _ (hoff₂ _ ⟨"wordpress", by decide, isWithin_append _ below⟩)).trans
      (hreplaced.tree below)
  refine ⟨members, hsupplied, htree, fun t t' archive dest root n hread hempty hextract below => ?_,
    fun below => ?_, harchive, fun gs hclosed' hsame hdirs => ?_⟩
  · rw [htree, Archive.get?_extract_empty hempty hread (hup members hsupplied) hextract]
  · exact (hkept _ (hoff₂ _ ⟨"wordpress-temp", by decide, isWithin_append _ below⟩)).trans
      (hreplaced.staging below)
  · obtain ⟨gs', halike, hrun'⟩ := fetch_alike hclosed hgoal hoff hup hclosed' hsame hdirs h
    exact ⟨gs', fun place => halike.get?_eq place trivial, hrun'⟩

/-- Neither an old tree nor a broken unpacking leaves a trace.  An archive with a path through the old tree
stays, though it is not to be kept. -/
theorem fetch_contents_stale :
    let plain : Version := ⟨[6], none⟩
    let odd : Version := ⟨[6], some ⟨.other, 0, "a/../wordpress/s/../../k"⟩⟩
    let members : List (String × Member) := [("wordpress/a", .whole ⟨#[]⟩)]
    let d : Depot := ⟨⟨⟨"."⟩⟩, ⟨⟨[], .ok odd⟩, fun _ => ⟨[], ⟨some (.archive members), none⟩⟩,
      fun failed _ => failed⟩, false, false⟩
    let clean := FileSystem.empty.put ["wordpress-6-a"] .directory
    let s := Session.start ((((clean.put ["wordpress"] .directory).put ["wordpress", "s"] .directory).put
      ["wordpress-temp"] .directory).put ["wordpress-temp", "b"] (.file (.bytes ⟨#[]⟩)))
    s.files.Closed ∧ s.files.goal? d.directory.path = some [] ∧
      (∀ place ∈ s.files.way (d.directory.archive plain), ¬Below [] treeNames place) ∧
      (∀ members, d.supplied? plain s.files = some (.archive members) →
        ∀ name ∈ members.map Prod.fst, ".." ∉ (⟨name⟩ : Path).components) ∧
      (∃ s', (d.fetch plain).outcome.run s = (.ok d.directory.tree, s') ∧
        s'.files.get? ["wordpress", "a"] = some (.file (.bytes ⟨#[]⟩)) ∧
        s'.files.get? ["wordpress", "s"] = none ∧ s'.files.get? ["wordpress-temp", "b"] = none ∧
        s'.files.isFile (d.directory.archive plain) = false ∧
        ∃ gs', (∀ place, gs'.get? place = s'.files.get? place) ∧
          (d.fetch plain).outcome.run { s with files := clean } =
            (.ok d.directory.tree, { s' with files := gs' })) ∧
      Version.parse "6-a/../wordpress/s/../../k" = .ok odd ∧
      ["wordpress", "s"] ∈ s.files.way (d.directory.archive odd) ∧
      (((d.fetch odd).outcome.run s).1 = .ok d.directory.tree ∧
        ((d.fetch odd).outcome.run s).2.files.get? ["k.zip"] = some (.file (.archive members))) := by
  intro plain odd members d clean s
  have hclean : clean.Closed := closed_empty.put .directory (List.cons_ne_nil _ _) rfl rfl
  have hclosed : s.files.Closed :=
    (((hclean.put .directory (List.cons_ne_nil _ _) (by decide +kernel) (by decide +kernel)).put
      .directory (List.cons_ne_nil _ _) (by decide +kernel) (by decide +kernel)).put
      .directory (List.cons_ne_nil _ _) (by decide +kernel) (by decide +kernel)).put
      _ (List.cons_ne_nil _ _) (by decide +kernel) (by decide +kernel)
  have hgoal : s.files.goal? d.directory.path = some [] := by decide +kernel
  have hway : ∀ place ∈ s.files.way (d.directory.archive plain),
      isWithin ["wordpress"] place = false ∧ isWithin ["wordpress-temp"] place = false := by decide +kernel
  have hoff : ∀ place ∈ s.files.way (d.directory.archive plain), ¬Below [] treeNames place :=
    fun place hplace => not_below_treeNames.mpr (hway place hplace)
  have hsupplied : d.supplied? plain s.files = some (.archive members) := by decide +kernel
  have hup : ∀ members, d.supplied? plain s.files = some (.archive members) →
      ∀ name ∈ members.map Prod.fst, ".." ∉ (⟨name⟩ : Path).components := by
    intro members h
    rw [hsupplied] at h
    cases h
    decide +kernel
  have halike : Alike (fun place => ¬Below [] treeNames place) s.files clean := by
    have htrees : ∀ x ∈ treeNames, ∀ below, ¬¬Below [] treeNames (x :: below) :=
      fun x hx below hnot => hnot ⟨x, hx, isWithin_append [x] below⟩
    have hsame : Alike (fun place => ¬Below [] treeNames place) clean clean := ⟨rfl, fun _ _ => rfl⟩
    exact (((hsame.put_of_not (List.cons_ne_nil _ _) (htrees "wordpress" (by decide) []) _).put_of_not
      (List.cons_ne_nil _ _) (htrees "wordpress" (by decide) ["s"]) _).put_of_not
      (List.cons_ne_nil _ _) (htrees "wordpress-temp" (by decide) []) _).put_of_not
      (List.cons_ne_nil _ _) (htrees "wordpress-temp" (by decide) ["b"]) _
  have hresult : ((d.fetch plain).outcome.run s).1 = .ok d.directory.tree := by decide +kernel
  rcases hrun : (d.fetch plain).outcome.run s with ⟨result, s'⟩
  rw [hrun] at hresult
  obtain rfl : result = .ok d.directory.tree := hresult
  obtain ⟨found, hfound, htree, _, hstaging, harchive, hany⟩ :=
    fetch_contents d plain s _ _ [] hclosed hgoal hoff hup hrun
  obtain rfl : members = found := by
    rw [hsupplied] at hfound
    cases hfound
    rfl
  exact ⟨hclosed, hgoal, hoff, hup,
    ⟨s', rfl, (htree ["a"]).trans (by decide +kernel), (htree ["s"]).trans (by decide +kernel),
      hstaging ["b"], harchive, hany clean hclean halike (by decide +kernel)⟩,
    by decide +kernel, by decide +kernel, by decide +kernel⟩

end Depot

end RequiredVersion
