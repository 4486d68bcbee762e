import RequiredVersion.Proofs.ReleaseContents
import RequiredVersion.Proofs.UsablePaths

/-! # Archives that can be unpacked

An archive is whole if the paths of its members are made of plain names, can be used at the destination
and leave one another room: no file has a path that the path of another member goes on behind
(`Archive.IsWhole`).  Unpacking such an archive where nothing stands succeeds (`Archive.extract_whole`)
unless a member is damaged, and then it fails (`Archive.isDamaged_of_extract`).
What holds from member to member is that files stand only at the paths of files, and directories at no
such path (`Archive.Fits`). -/

namespace RequiredVersion

open FileSystem

namespace Archive

/-- The member with this name is unpacked as a file. -/
def IsFileMember (name : String) : Prop := IsUnpacked name ∧ isDirectoryName name = false

/-- The members with these names can all be unpacked at a path. -/
structure IsWhole (dest : Path) (names : List String) : Prop where
  plain : ∀ name ∈ names, IsUnpacked name →
    ∀ piece ∈ (memberPath name).pieces, IsFileName (String.ofList piece)
  usable : ∀ name ∈ names, IsUnpacked name → IsUsable (dest.join (memberPath name))
  not_up : ∀ name ∈ names, ".." ∉ (⟨name⟩ : Path).components
  /-- What a file is in the way of is a file at the same path. -/
  room : ∀ name ∈ names, IsFileMember name → ∀ other ∈ names, IsUnpacked other →
    (memberPath name).parts <+: (memberPath other).parts →
      (memberPath other).parts = (memberPath name).parts ∧ isDirectoryName other = false

instance (name : String) : Decidable (IsUnpacked name) := inferInstanceAs (Decidable (_ ∧ _))

instance (name : String) : Decidable (IsFileMember name) := inferInstanceAs (Decidable (_ ∧ _))

/-- Does the member make unpacking fail?  It cannot be opened, or it is a file that cannot be read to its
end. -/
def isDamaged (name : String) : Member → Bool
  | .unreadable => true
  | .readable _ failure => failure.isSome && decide (IsFileMember name)

instance (dest : Path) (names : List String) : Decidable (IsWhole dest names) :=
  decidable_of_iff
    ((∀ name ∈ names, IsUnpacked name →
        ∀ piece ∈ (memberPath name).pieces, IsFileName (String.ofList piece)) ∧
      (∀ name ∈ names, IsUnpacked name → IsUsable (dest.join (memberPath name))) ∧
      (∀ name ∈ names, ".." ∉ (⟨name⟩ : Path).components) ∧
      ∀ name ∈ names, IsFileMember name → ∀ other ∈ names, IsUnpacked other →
        (memberPath name).parts <+: (memberPath other).parts →
          (memberPath other).parts = (memberPath name).parts ∧ isDirectoryName other = false)
    ⟨fun ⟨h₁, h₂, h₃, h₄⟩ => ⟨h₁, h₂, h₃, h₄⟩, fun ⟨h₁, h₂, h₃, h₄⟩ => ⟨h₁, h₂, h₃, h₄⟩⟩

/-- Files stand only where members are unpacked as files, and directories at no such place; and all
stands in directories. -/
structure Fits (names : List String) (root : Place) (fs : FileSystem) : Prop where
  file : ∀ parts c, fs.get? (root ++ parts) = some (.file c) →
    ∃ name ∈ names, IsFileMember name ∧ (memberPath name).parts = parts
  directory : ∀ name ∈ names, IsFileMember name →
    fs.get? (root ++ (memberPath name).parts) ≠ some .directory
  closed : ∀ parts x, fs.get? (root ++ (parts ++ [x])) ≠ none →
    fs.get? (root ++ parts) = some .directory

section whole
variable {p : Path} {t name : String} {dir : Place} {names : List String} {fs fs' : FileSystem}

theorem IsWhole.parts_eq {dest : Path} (h : IsWhole dest names) (hname : name ∈ names)
    (hunpacked : IsUnpacked name) :
    (memberPath name).parts = (memberPath name).pieces.map String.ofList ∧
      ∀ x ∈ (memberPath name).parts, IsFileName x := by
  have hplain := h.plain name hname hunpacked
  have hparts : (memberPath name).parts = (memberPath name).pieces.map String.ofList := by
    rw [Path.parts, List.filter_eq_self.mpr]
    intro piece hpiece
    have hidle := Path.isIdle_toList (hplain piece hpiece).isName.1 (hplain piece hpiece).isName.2.1
    rw [String.toList_ofList] at hidle
    rw [hidle]
    rfl
  refine ⟨hparts, fun x hx => ?_⟩
  rw [hparts] at hx
  obtain ⟨piece, hpiece, rfl⟩ := List.mem_map.mp hx
  exact hplain piece hpiece

theorem IsWhole.parts_ne_nil {dest : Path} (h : IsWhole dest names) (hname : name ∈ names)
    (hunpacked : IsUnpacked name) : (memberPath name).parts ≠ [] := by
  rw [(h.parts_eq hname hunpacked).1]
  simpa using (memberPath name).pieces_ne_nil

theorem IsWhole.join_eq (ht : IsFileName t) (h : IsWhole (p.joinText t) names)
    (hname : name ∈ names) (hunpacked : IsUnpacked name) :
    (p.joinText t).join (memberPath name) = p.joinNames (t :: (memberPath name).parts) := by
  have hclean : ∀ piece ∈ (memberPath name).pieces, piece ≠ [] ∧ '/' ∉ piece := by
    intro piece hpiece
    refine ⟨fun hnil => ?_, Text.not_mem_of_mem_splitAt '/' hpiece⟩
    exact (h.plain name hname hunpacked piece hpiece).isName.1 (congrArg String.ofList hnil)
  rw [(h.parts_eq hname hunpacked).1]
  conv_lhs => rw [← Path.ofPieces_pieces (memberPath name)]
  exact Path.join_eq_joinNames (memberPath name).pieces_ne_nil hclean
    (Path.isEmpty_joinText ht.isName.1) (getLast?_joinText ht.isPlain)

theorem exists_of_prefix_cons {above init : List String} {x : String}
    (h : above ++ [x] <+: t :: init) : ∃ more, above ++ [x] = t :: more ∧ more <+: init := by
  cases above with
  | nil =>
      obtain ⟨rfl, _⟩ := List.cons_prefix_cons.mp h
      exact ⟨[], rfl, List.nil_prefix⟩
  | cons y above =>
      obtain ⟨rfl, hbelow⟩ := List.cons_prefix_cons.mp h
      exact ⟨above ++ [x], rfl, hbelow⟩

/-- Where no file is at the path of the names or above it, nothing is in their way. -/
theorem Fits.isOpen {init : List String} (hfits : Fits names (dir ++ [t]) fs)
    (hlinks : NoLinks fs (dir ++ [t]))
    (hfree : ∀ name ∈ names, IsFileMember name → ¬ (memberPath name).parts <+: init) :
    fs.IsOpen dir (t :: init) := by
  intro above x hinitial
  obtain ⟨more, hmore, hbelow⟩ := exists_of_prefix_cons hinitial
  rw [hmore, List.append_cons]
  cases hget : fs.get? (dir ++ [t] ++ more) with
  | none => exact .inl rfl
  | some entry =>
      cases entry with
      | directory => exact .inr rfl
      | link l => exact absurd hget (hlinks _ l (isWithin_append _ _))
      | file c =>
          obtain ⟨name, hname, hfile, hparts⟩ := hfits.file more c hget
          exact absurd (hparts ▸ hbelow) (hfree name hname hfile)

/-- Directories above the files of no members can be made, and all stays fit. -/
theorem Fits.makeDirectories {init : List String} (ht : IsFileName t)
    (hinit : ∀ x ∈ init, IsFileName x) (hfits : Fits names (dir ++ [t]) fs)
    (hlinks : NoLinks fs (dir ++ [t])) (hleads : fs.LeadsInto p dir)
    (hfree : ∀ name ∈ names, IsFileMember name → ¬ (memberPath name).parts <+: init)
    (husable : IsUsable (p.joinNames (t :: init))) :
    ∃ fs', fs.makeDirectories (p.joinNames (t :: init)) = (.ok (), fs') ∧
      fs'.LeadsInto (p.joinNames (t :: init)) (dir ++ [t] ++ init) ∧
      fs'.get? (dir ++ [t] ++ init) = some .directory ∧ NoLinks fs' (dir ++ [t]) ∧
      Fits names (dir ++ [t]) fs' := by
  obtain ⟨fs', hmake, hleads', hdirs, hgrows⟩ := makeDirectories_joinNames (List.cons_ne_nil t init)
    (List.forall_mem_cons.mpr ⟨ht, hinit⟩) hleads (hfits.isOpen hlinks hfree) husable
  rw [List.append_cons] at hleads'
  have hmade : ∀ more, more <+: init → fs'.get? (dir ++ [t] ++ more) = some .directory := by
    intro more hmore
    rcases List.eq_nil_or_concat (t :: more) with hnil | ⟨above, x, hconcat⟩
    · cases hnil
    · rw [List.concat_eq_append] at hconcat
      rw [← List.append_cons, hconcat]
      exact hdirs above x (hconcat ▸ List.cons_prefix_cons.mpr ⟨rfl, hmore⟩)
  -- all that is new are directories at the names or above them
  have hentry : ∀ parts, fs'.get? (dir ++ [t] ++ parts) = fs.get? (dir ++ [t] ++ parts) ∨
      (parts <+: init ∧ fs'.get? (dir ++ [t] ++ parts) = some .directory) := by
    intro parts
    rcases hgrows.entry (dir ++ [t] ++ parts) with
      hkeep | ⟨⟨above, x, hinitial, hplace⟩, _, hdir⟩ | ⟨hfalse, _⟩
    · exact .inl hkeep
    · rw [← List.append_cons, List.append_cancel_left_eq] at hplace
      rw [← hplace] at hinitial
      exact .inr ⟨(List.cons_prefix_cons.mp hinitial).2, hdir⟩
    · exact hfalse.elim
  refine ⟨fs', hmake, hleads', hmade init (List.prefix_refl _),
    fun place l hplace hl => hlinks place l hplace ((hgrows.link_iff place l).mp hl), ?_, ?_, ?_⟩
  · intro parts c hget
    rcases hentry parts with hkeep | ⟨_, hdir⟩
    · exact hfits.file parts c (hkeep ▸ hget)
    · rw [hdir] at hget
      cases hget
  · intro name hname hfile hget
    rcases hentry (memberPath name).parts with hkeep | ⟨hbelow, _⟩
    · exact hfits.directory name hname hfile (hkeep ▸ hget)
    · exact hfree name hname hfile hbelow
  · intro parts x hsome
    rcases hentry (parts ++ [x]) with hkeep | ⟨hbelow, _⟩
    · rw [hkeep] at hsome
      exact hgrows.directory (hfits.closed parts x hsome)
    · exact hmade parts ((List.prefix_append parts [x]).trans hbelow)

/-- A file can be written where a member is unpacked as one, and all stays fit. -/
theorem Fits.write {above : Path} {init : List String} {x : String} (content : ByteArray)
    (hname : name ∈ names) (hfile : IsFileMember name)
    (hparts : (memberPath name).parts = init ++ [x]) (hx : IsFileName x)
    (hfits : Fits names (dir ++ [t]) fs) (hlinks : NoLinks fs (dir ++ [t]))
    (hleads : fs.LeadsInto above (dir ++ [t] ++ init))
    (hdir : fs.get? (dir ++ [t] ++ init) = some .directory) (husable : IsUsable (above.joinText x)) :
    ∃ fs', fs.write (above.joinText x) (.bytes content) = .ok fs' ∧ Fits names (dir ++ [t]) fs' := by
  have hplace : dir ++ [t] ++ init ++ [x] = dir ++ [t] ++ (memberPath name).parts := by
    rw [hparts, List.append_assoc _ init]
  have hget : fs.get? (dir ++ [t] ++ init ++ [x]) = none ∨
      ∃ c, fs.get? (dir ++ [t] ++ init ++ [x]) = some (.file c) := by
    rw [hplace]
    exact none_or_file (hfits.directory name hname hfile) (fun l => hlinks _ l (isWithin_append _ _))
  have hne : dir ++ [t] ++ init ++ [x] ≠ [] := by simp
  have hput := get?_put fs hne (.file (.bytes content))
  rw [hplace] at hput
  -- no directory is lost, since none stood there
  have hkept : ∀ place, fs.get? place = some .directory →
      (fs.put (dir ++ [t] ++ (memberPath name).parts) (.file (.bytes content))).get? place =
        some .directory := by
    intro place h
    rw [hput, if_neg, h]
    rintro rfl
    exact hfits.directory name hname hfile h
  refine ⟨_, write_child hx hleads husable hget, ?_, ?_, ?_⟩
  · intro parts c h
    rw [hplace, hput] at h
    split at h
    · next hsame => exact ⟨name, hname, hfile, (List.append_cancel_left hsame).symm⟩
    · exact hfits.file parts c h
  · intro other hother hfile' h
    rw [hplace, hput] at h
    split at h
    · cases h
    · exact hfits.directory other hother hfile' h
  · intro parts y hsome
    rw [hplace] at hsome ⊢
    rw [hput] at hsome
    split at hsome
    · next hsame =>
        rw [List.append_cancel_left_eq, hparts] at hsame
        rw [(List.append_inj' hsame rfl).1]
        exact hkept _ hdir
    · exact hkept _ (hfits.closed parts y hsome)

end whole

/-! ### Unpacking -/

section unpacking
variable {archive p : Path} {t : String} {dir : Place} {names : List String} {s : Session}

theorem writeMember_whole {name : String} {member : Member} (ht : IsFileName t)
    (hwhole : IsWhole (p.joinText t) names) (hname : name ∈ names)
    (hdamage : isDamaged name member = false) (hleads : s.files.LeadsInto p dir)
    (hlinks : NoLinks s.files (dir ++ [t])) (hfits : Fits names (dir ++ [t]) s.files) :
    ∃ n s', (writeMember archive (p.joinText t) name member).outcome.run s = (.ok n, s') ∧
      Fits names (dir ++ [t]) s'.files := by
  unfold writeMember
  split
  · cases hdamage
  next data failure =>
  dsimp only
  split
  · exact ⟨0, _, rfl, hfits⟩
  next hsafe =>
  split
  · exact ⟨0, _, rfl, hfits⟩
  next hempty =>
  have hunpacked : IsUnpacked name := ⟨by simpa using hsafe, by simpa using hempty⟩
  have hparts := (hwhole.parts_eq hname hunpacked).2
  have husable := hwhole.usable name hname hunpacked
  rw [hwhole.join_eq ht hname hunpacked] at husable ⊢
  split
  · next hdir =>
      have hfree : ∀ other ∈ names, IsFileMember other →
          ¬ (memberPath other).parts <+: (memberPath name).parts := by
        intro other hother hfile hinitial
        have hsame := (hwhole.room other hother hfile name hname hunpacked hinitial).2
        rw [hsame] at hdir
        cases hdir
      obtain ⟨fs₁, hmake, _, _, _, hfits₁⟩ :=
        hfits.makeDirectories ht hparts hlinks hleads hfree husable
      rw [Run.run_bind, Run.run_makeDirectories, hmake]
      exact ⟨0, _, rfl, hfits₁⟩
  · next hdir =>
      have hfile : IsFileMember name := ⟨hunpacked, by simpa using hdir⟩
      obtain rfl : failure = none := by
        rwa [isDamaged, decide_eq_true hfile, Bool.and_true, Option.isSome_eq_false_iff,
          Option.isNone_iff_eq_none] at hdamage
      obtain ⟨init, x, hlast⟩ : ∃ init x, (memberPath name).parts = init ++ [x] := by
        rcases List.eq_nil_or_concat (memberPath name).parts with hnil | ⟨init, x, hconcat⟩
        · exact absurd hnil (hwhole.parts_ne_nil hname hunpacked)
        · exact ⟨init, x, by rw [hconcat, List.concat_eq_append]⟩
      obtain ⟨hinit, hx⟩ : (∀ y ∈ init, IsFileName y) ∧ IsFileName x := by
        rw [hlast] at hparts
        exact ⟨fun y hy => hparts y (List.mem_append_left _ hy), hparts x (by simp)⟩
      have hfree : ∀ other ∈ names, IsFileMember other → ¬ (memberPath other).parts <+: init := by
        intro other hother hfile' hinitial
        have hbefore : init <+: (memberPath name).parts := hlast ▸ List.prefix_append init [x]
        have hsame := (hwhole.room other hother hfile' name hname hunpacked (hinitial.trans hbefore)).1
        have hlength := hinitial.length_le
        rw [← hsame, hlast, List.length_append, List.length_singleton] at hlength
        omega
      rw [hlast, ← List.cons_append, Path.joinNames_concat] at husable ⊢
      obtain ⟨hparent, hempty⟩ := parent?_joinNames (p := p) (List.cons_ne_nil t init)
        (List.forall_mem_cons.mpr ⟨ht, hinit⟩) hx
      obtain ⟨fs₁, hmake, hleads₁, hdir₁, hlinks₁, hfits₁⟩ := hfits.makeDirectories ht hinit hlinks
        hleads hfree (isUsable_of_join hempty hx.isPlain.isAbsolute husable)
      obtain ⟨fs₂, hwrite, hfits₂⟩ :=
        hfits₁.write data hname hfile hlast hx hlinks₁ hleads₁ hdir₁ husable
      rw [hparent]
      dsimp only
      rw [Run.run_bind, Run.run_makeDirectories, hmake]
      dsimp only
      rw [writeData, Run.run_bind, Run.run_change]
      dsimp only
      rw [hwrite]
      exact ⟨1, _, rfl, hfits₂⟩

theorem writeMembers_whole (ht : IsFileName t) (hwhole : IsWhole (p.joinText t) names) :
    ∀ {members : List (String × Member)} {s : Session}, (∀ m ∈ members, m.1 ∈ names) →
      (∀ m ∈ members, isDamaged m.1 m.2 = false) →
      s.files.LeadsInto p dir → NoLinks s.files (dir ++ [t]) → Fits names (dir ++ [t]) s.files →
        ∃ n s', (writeMembers archive (p.joinText t) members).outcome.run s = (.ok n, s') ∧
          Fits names (dir ++ [t]) s'.files
  | [], s, _, _, _, _, hfits => ⟨0, s, rfl, hfits⟩
  | (name, member) :: rest, s, hmembers, hdamage, hleads, hlinks, hfits => by
      obtain ⟨hname, hrest⟩ := List.forall_mem_cons.mp hmembers
      obtain ⟨hsound, hothers⟩ := List.forall_mem_cons.mp hdamage
      obtain ⟨n, s₁, hfirst, hfits₁⟩ := writeMember_whole ht hwhole hname hsound hleads hlinks hfits
      have hgrows : Unpacks s.files (p.joinText t) [name]
          ((writeMember archive (p.joinText t) name member).outcome.run s).2.files :=
        unpacks_writeMember (List.mem_singleton_self name) member s (.refl s.files)
      rw [hfirst] at hgrows
      have hlinks₁ : NoLinks s₁.files (dir ++ [t]) := fun place l hplace hl =>
        hlinks place l hplace ((hgrows.link_iff place l).mp hl)
      obtain ⟨m, s₂, hrest, hfits₂⟩ :=
        writeMembers_whole ht hwhole hrest hothers (hgrows.leadsInto hleads) hlinks₁ hfits₁
      refine ⟨n + m, s₂, ?_, hfits₂⟩
      rw [writeMembers, Run.run_bind, hfirst]
      dsimp only
      rw [Run.run_bind, hrest]
      rfl

/-- **A whole archive is unpacked where nothing stands.** -/
theorem extract_whole {members : List (String × Member)} (ht : IsFileName t)
    (hread : s.files.read archive = .ok (.archive members))
    (hwhole : IsWhole (p.joinText t) (members.map Prod.fst))
    (hdamage : ∀ m ∈ distinct members, isDamaged m.1 m.2 = false) (hleads : s.files.LeadsInto p dir)
    (hfree : ∀ place, isWithin (dir ++ [t]) place = true → s.files.get? place = none) :
    ∃ n s', (extract archive (p.joinText t)).outcome.run s = (.ok n, s') ∧
      Fits (members.map Prod.fst) (dir ++ [t]) s'.files := by
  have hnone : ∀ parts, s.files.get? (dir ++ [t] ++ parts) = none := fun parts =>
    hfree _ (isWithin_append _ _)
  have hlinks : NoLinks s.files (dir ++ [t]) := by
    intro place l hplace
    rw [hfree place hplace]
    simp
  have hfits : Fits (members.map Prod.fst) (dir ++ [t]) s.files := by
    refine ⟨?_, ?_, fun parts x hsome => absurd (hnone _) hsome⟩
    · intro parts c hget
      rw [hnone] at hget
      cases hget
    · intro name _ _
      rw [hnone]
      simp
  have hmembers : ∀ m ∈ distinct members, m.1 ∈ members.map Prod.fst := fun m hm =>
    (mem_names_distinct m.1 members).mp (List.mem_map_of_mem hm)
  obtain ⟨s₁, hnote, hsame⟩ : ∃ s₁, (Run.note area .info ("Extracting " ++ archive.quoted ++ " to " ++
      (p.joinText t).quoted) : Run ReleaseFailure Unit).outcome.run s = (.ok (), s₁) ∧
        s₁.files = s.files := ⟨_, rfl, rfl⟩
  rw [← hsame] at hread hleads hlinks hfits
  obtain ⟨n, s₂, hwrite, hfits₂⟩ := writeMembers_whole ht hwhole hmembers hdamage hleads hlinks hfits
  rw [extract, Run.run_bind, hnote]
  dsimp only
  rw [Run.run_bind, Run.run_files]
  dsimp only
  rw [hread]
  dsimp only
  rw [Run.run_bind, hwrite]
  exact ⟨n, _, rfl, hfits₂⟩

end unpacking

/-! ### Damage -/

section damage
variable {archive dest : Path} {s' : Session} {n : Nat}

theorem isDamaged_of_writeMember {name : String} {member : Member} {s : Session}
    (h : (writeMember archive dest name member).outcome.run s = (.ok n, s')) :
    isDamaged name member = false := by
  unfold writeMember at h
  split at h
  · cases h
  next data failure =>
  rw [isDamaged, Bool.and_eq_false_iff, decide_eq_false_iff_not, Decidable.or_iff_not_imp_right,
    Decidable.not_not]
  intro hfile
  rw [if_neg (by simp [hfile.1.1])] at h
  dsimp only at h
  rw [if_neg (by simp [hfile.1.2]), if_neg (by simp [hfile.2])] at h
  have hdata : ∃ s₁ : Session, (writeData (dest.join (memberPath name)) data failure).outcome.run s₁ =
      (.ok n, s') := by
    split at h
    · obtain ⟨_, s₁, _, h⟩ := Run.run_bind_ok h
      exact ⟨s₁, h⟩
    · exact ⟨s, h⟩
  obtain ⟨s₁, hdata⟩ := hdata
  rw [(writeData_ok hdata).1]
  rfl

theorem isDamaged_of_writeMembers : ∀ {members : List (String × Member)} {s : Session} {n : Nat},
    (writeMembers archive dest members).outcome.run s = (.ok n, s') →
      ∀ m ∈ members, isDamaged m.1 m.2 = false
  | [], _, _, _ => fun _ hm => absurd hm List.not_mem_nil
  | m :: rest, s, n, h => by
      obtain ⟨_, _, s₁, hfirst, hrest⟩ := writeMembers_cons_ok h
      exact List.forall_mem_cons.mpr ⟨isDamaged_of_writeMember hfirst, isDamaged_of_writeMembers hrest⟩

/-- An archive with a damaged member is never unpacked to its end. -/
theorem isDamaged_of_extract {members : List (String × Member)} {s : Session}
    (hread : s.files.read archive = .ok (.archive members))
    (h : (extract archive dest).outcome.run s = (.ok n, s')) :
    ∀ m ∈ distinct members, isDamaged m.1 m.2 = false := by
  obtain ⟨members', s₁, s₂, hread', _, hwrite, _⟩ := extract_ok h
  cases hread.symm.trans hread'
  exact isDamaged_of_writeMembers hwrite

end damage

end Archive

end RequiredVersion
