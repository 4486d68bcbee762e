import RequiredVersion.Proofs.FileChanges
import RequiredVersion.Proofs.RequirementTexts
import RequiredVersion.Proofs.Runs
import RequiredVersion.Proofs.VersionText

/-! # Requirements in files

Setting the requirements in a file leaves them set there, and does not undo what was set in another
file, also where links make two of them one (`applyTo_isSettled`).  So all files of a plugin are
settled after a run over them (`apply_isSettled`), and settled files are left alone
(`applyAll_of_isSettled`). -/

namespace RequiredVersion

open FileSystem

/-! ### Texts in files -/

namespace FileSystem

variable {fs : FileSystem} {p : Path}

theorem readText_eq_ok_iff {text : String} : fs.readText p = .ok text ↔
    ∃ content, fs.read p = .ok content ∧ String.fromUTF8? content.toBytes = some text := by
  unfold readText readBytes
  cases fs.read p with
  | error e => simp [Except.map]
  | ok content =>
      simp only [Except.map, Except.ok.injEq, exists_eq_left']
      cases String.fromUTF8? content.toBytes <;> simp

theorem readText_of_read {text : String} (h : fs.read p = .ok (.bytes text.toUTF8)) :
    fs.readText p = .ok text :=
  readText_eq_ok_iff.mpr ⟨_, h, Text.fromUTF8?_toUTF8 text⟩

theorem isFile_of_readText {text : String} (h : fs.readText p = .ok text) : fs.isFile p = true := by
  obtain ⟨content, hread, _⟩ := readText_eq_ok_iff.mp h
  obtain ⟨place, hresolve, _⟩ := read_ok hread
  rw [isFile, hresolve]

end FileSystem

namespace Requirements

open Requirement

/-- Is a file patched as a readme? -/
def isReadme (file : Path) : Bool := file.fileName? == some readmeName

/-- A file cannot be changed by setting the requirements: all of them are set in it, or there is no
such file. -/
def IsSettled (r : Requirements) (fs : FileSystem) (file : Path) : Prop :=
  fs.isFile file = true → ∃ text, fs.readText file = .ok text ∧
    IsSet (isReadme file) r.fields text.toList

/-- All versions are plain. -/
def IsPlain (r : Requirements) : Prop := ∀ f ∈ r.fields, Requirement.IsPlain f.2.chars

variable {r : Requirements} {file : Path} {s s' : Session}

theorem pairwise_fields (r : Requirements) : r.fields.Pairwise (fun f g => f.1 ≠ g.1) := by
  obtain ⟨wordpress, php⟩ := r
  cases wordpress <;> cases php <;> simp [fields]

theorem mem_fields_iff {f : Requirement × Version} : f ∈ r.fields ↔
    (f.1 = .wordpress ∧ r.wordpress = some f.2) ∨ (f.1 = .php ∧ r.php = some f.2) := by
  obtain ⟨field, version⟩ := f
  unfold fields
  simp only [List.mem_append, Option.mem_toList, Option.map_eq_some_iff, Prod.mk.injEq]
  constructor
  · rintro (⟨v, hv, rfl, rfl⟩ | ⟨v, hv, rfl, rfl⟩)
    · exact .inl ⟨rfl, hv⟩
    · exact .inr ⟨rfl, hv⟩
  · rintro (⟨rfl, hv⟩ | ⟨rfl, hv⟩)
    · exact .inl ⟨version, hv, rfl, rfl⟩
    · exact .inr ⟨version, hv, rfl, rfl⟩

theorem eq_of_mem_fields {f g : Requirement × Version} (hf : f ∈ r.fields) (hg : g ∈ r.fields)
    (h : f.1 = g.1) : f.2 = g.2 := by
  rcases mem_fields_iff.mp hf with ⟨hf, hv⟩ | ⟨hf, hv⟩ <;>
    rcases mem_fields_iff.mp hg with ⟨hg, hw⟩ | ⟨hg, hw⟩
  · exact Option.some.inj (hv.symm.trans hw)
  · rw [hf, hg] at h
    cases h
  · rw [hf, hg] at h
    cases h
  · exact Option.some.inj (hv.symm.trans hw)

/-- All that setting the requirements in a file can do. -/
theorem applyTo_ok {b : Bool} (h : (r.applyTo file).outcome.run s = (.ok b, s')) :
    (s.files.isFile file = false ∧ s'.files = s.files) ∨
      ∃ text, s.files.readText file = .ok text ∧
        (((patch (isReadme file) r.fields text.toList).1 = text.toList ∧ s'.files = s.files) ∨
          (b = true ∧ s.files.writeText file
            (String.ofList (patch (isReadme file) r.fields text.toList).1) = .ok s'.files)) := by
  unfold applyTo at h
  obtain ⟨fs, s₁, hfiles, h⟩ := Run.run_bind_ok h
  cases hfiles
  split at h
  · next hfile =>
      cases h
      exact .inl ⟨by simpa using hfile, rfl⟩
  · split at h
    · cases h
    · next text htext =>
        refine .inr ⟨text, htext, ?_⟩
        dsimp only at h
        split at h
        · next hsame =>
            cases h
            exact .inl ⟨hsame, rfl⟩
        · obtain ⟨_, s₂, hchange, h⟩ := Run.run_bind_ok h
          cases h
          exact .inr ⟨rfl, Run.run_change_ok hchange⟩

theorem applyTo_error {e : PatchFailure} (h : (r.applyTo file).outcome.run s = (.error e, s')) :
    s'.files = s.files := by
  unfold applyTo at h
  rw [Run.run_bind, Run.run_files] at h
  dsimp only at h
  split at h
  · cases h
  · split at h
    · cases h
      rfl
    · split at h
      · cases h
      · rcases Run.run_bind_error h with hchange | ⟨_, s₁, _, h⟩
        · rw [(Run.run_change_error hchange).1]
        · cases h

/-- A file is settled when the requirements have been set in it, and so is every file that was,
unless a readme is patched that is also another file. -/
theorem applyTo_isSettled (hplain : r.IsPlain) {b : Bool}
    (h : (r.applyTo file).outcome.run s = (.ok b, s')) :
    IsSettled r s'.files file ∧
      ∀ other, isReadme file = false → IsSettled r s.files other → IsSettled r s'.files other := by
  rcases applyTo_ok h with ⟨hfile, hsame⟩ | ⟨text, htext, ⟨hset, hsame⟩ | ⟨_, hwrite⟩⟩
  · rw [hsame]
    refine ⟨fun hisFile => ?_, fun _ _ h => h⟩
    rw [hfile] at hisFile
    cases hisFile
  · rw [hsame]
    refine ⟨fun _ => ⟨text, htext, ?_⟩, fun _ _ h => h⟩
    rw [← hset]
    exact isSet_patch hplain (pairwise_fields r)
  · obtain ⟨content, hread, hbytes⟩ := readText_eq_ok_iff.mp htext
    obtain ⟨place, hget, hput⟩ := write_of_read hread
    have hnew := readText_of_read (read_write hwrite)
    rw [writeText, hput] at hwrite
    have hset : IsSet (isReadme file) r.fields (patch (isReadme file) r.fields text.toList).1 :=
      isSet_patch hplain (pairwise_fields r)
    rw [← Except.ok.inj hwrite] at hnew ⊢
    refine ⟨fun _ => ⟨_, hnew, by rwa [String.toList_ofList]⟩, fun other hreadme hother hisFile => ?_⟩
    · rw [isFile_put_file hget] at hisFile
      obtain ⟨text', htext', hset'⟩ := hother hisFile
      rcases read_put_file hget _ other with hkept | ⟨hread', hold⟩
      · refine ⟨text', ?_, hset'⟩
        rw [readText_eq_ok_iff] at htext' ⊢
        rwa [hkept]
      · -- the same file under another name
        obtain ⟨content', hcontent', hbytes'⟩ := readText_eq_ok_iff.mp htext'
        rw [hold] at hcontent'
        obtain rfl := Except.ok.inj hcontent'
        rw [hbytes] at hbytes'
        obtain rfl := Option.some.inj hbytes'
        refine ⟨_, readText_of_read hread', ?_⟩
        rw [String.toList_ofList]
        rw [hreadme] at hset ⊢
        cases hother : isReadme other with
        | true =>
            rw [hother] at hset'
            exact isSet_readme_patch hplain
              (fun g hg => ⟨hplain g hg, fun f hf => eq_of_mem_fields hg hf⟩) hset'
        | false => exact hset

/-- Files that are not readmes are settled one after the other. -/
theorem applyAll_isSettled (hplain : r.IsPlain) : ∀ {files changed : List Path} {s s' : Session},
    (∀ file ∈ files, isReadme file = false) →
      (r.applyAll files).outcome.run s = (.ok changed, s') →
        (∀ other, IsSettled r s.files other → IsSettled r s'.files other) ∧
          ∀ file ∈ files, IsSettled r s'.files file
  | [], _, s, s', _, h => by
      cases h
      exact ⟨fun _ h => h, fun file hfile => absurd hfile List.not_mem_nil⟩
  | file :: rest, changed, s, s', hreadme, h => by
      unfold applyAll at h
      obtain ⟨b, s₁, hfile, h⟩ := Run.run_bind_ok h
      obtain ⟨others, s₂, hrest, h⟩ := Run.run_bind_ok h
      cases h
      obtain ⟨hsettled, hkeep⟩ := applyTo_isSettled hplain hfile
      obtain ⟨hkeep', hsettled'⟩ := applyAll_isSettled hplain
        (fun file hmem => hreadme file (List.mem_cons_of_mem _ hmem)) hrest
      refine ⟨fun other hother =>
        hkeep' other (hkeep other (hreadme file List.mem_cons_self) hother), ?_⟩
      exact List.forall_mem_cons.mpr ⟨hkeep' file hsettled, hsettled'⟩

theorem applyTo_of_isSettled (h : IsSettled r s.files file) :
    ∃ s', (r.applyTo file).outcome.run s = (.ok false, s') ∧ s'.files = s.files := by
  unfold applyTo
  rw [Run.run_bind, Run.run_files]
  dsimp only
  by_cases hfile : s.files.isFile file = true
  · obtain ⟨text, htext, hset⟩ := h hfile
    rw [hfile, if_neg (by simp), htext]
    dsimp only
    rw [← isReadme, patch_of_isSet hset]
    dsimp only
    rw [if_pos rfl]
    exact ⟨_, rfl, rfl⟩
  · rw [if_pos (by simpa using hfile)]
    exact ⟨_, rfl, rfl⟩

theorem applyAll_of_isSettled : ∀ {files : List Path} {s : Session},
    (∀ file ∈ files, IsSettled r s.files file) →
      ∃ s', (r.applyAll files).outcome.run s = (.ok [], s') ∧ s'.files = s.files
  | [], s, _ => ⟨s, rfl, rfl⟩
  | file :: rest, s, h => by
      obtain ⟨hfile, hrest⟩ := List.forall_mem_cons.mp h
      obtain ⟨s₁, hrun, hfiles⟩ := applyTo_of_isSettled hfile
      rw [← hfiles] at hrest
      obtain ⟨s₂, hrun', hfiles'⟩ := applyAll_of_isSettled hrest
      refine ⟨s₂, ?_, hfiles'.trans hfiles⟩
      rw [applyAll, Run.run_bind, hrun]
      dsimp only
      rw [Run.run_bind, hrun']
      rfl

/-! ### The files of a plugin -/

theorem isReadme_php (dir : Path) (name : String) :
    isReadme (dir.joinText (name ++ ".php")) = false := by
  have hchars : (name ++ ".php").toList = (name.toList ++ ['.', 'p', 'h']) ++ ['p'] := by
    rw [String.toList_append, List.append_assoc]
    rfl
  have hlast : (dir.joinText (name ++ ".php")).text.toList.getLast? = some 'p' := by
    have hjoin : (dir.joinText (name ++ ".php")).text.toList.getLast? =
        (name ++ ".php").toList.getLast? := Path.getLast?_join (by rw [hchars]; simp)
    rw [hjoin, hchars, List.getLast?_concat]
  obtain ⟨front, hfront⟩ := List.getLast?_eq_some_iff.mp hlast
  obtain ⟨piece, hpiece⟩ := Text.getLast?_splitAt_append (show '/' ∉ ['p'] by decide) front
  rw [← hfront] at hpiece
  have hidle : Path.isIdle (piece ++ ['p']) = false := by
    cases piece with
    | nil => decide
    | cons c cs => cases cs <;> simp [Path.isIdle]
  rw [isReadme, beq_eq_false_iff_ne, Path.fileName?, Path.getLast?_components hpiece hidle]
  dsimp only
  split
  · simp
  · intro hname
    have hchars := congrArg String.toList (Option.some.inj hname)
    rw [String.toList_ofList] at hchars
    have hlast := congrArg List.getLast? hchars
    rw [List.getLast?_concat] at hlast
    exact absurd hlast (by decide)

/-- The readme comes first, and no other file of a plugin is one. -/
theorem candidates_eq (base : String) (dir : Path) :
    ∃ rest, candidates base dir = dir.joinText readmeName :: rest ∧
      ∀ file ∈ rest, isReadme file = false := by
  refine ⟨_, rfl, ?_⟩
  intro file hfile
  obtain ⟨name, hname, rfl⟩ := List.mem_map.mp hfile
  obtain ⟨stem, rfl⟩ : ∃ stem, name = stem ++ ".php" := by
    rcases List.mem_cons.mp hname with rfl | hname
    · exact ⟨"index", rfl⟩
    rcases List.mem_cons.mp hname with rfl | hname
    · exact ⟨base, rfl⟩
    cases hdir : dir.fileName? with
    | none =>
        rw [hdir] at hname
        cases hname
    | some own =>
        rw [hdir] at hname
        dsimp only at hname
        split at hname
        · cases hname
        · exact ⟨base ++ "-" ++ own, List.mem_singleton.mp hname⟩
  exact isReadme_php dir stem

theorem apply_isSettled (hplain : r.IsPlain) {base : String} {dir : Path} {changed : List Path}
    (h : (r.apply base dir).outcome.run s = (.ok changed, s')) :
    ∀ file ∈ candidates base dir, IsSettled r s'.files file := by
  obtain ⟨rest, hrest, hreadme⟩ := candidates_eq base dir
  rw [apply, hrest, applyAll] at h
  obtain ⟨b, s₁, hfile, h⟩ := Run.run_bind_ok h
  obtain ⟨others, s₂, hothers, h⟩ := Run.run_bind_ok h
  cases h
  obtain ⟨hkeep, hsettled⟩ := applyAll_isSettled hplain hreadme hothers
  rw [hrest]
  exact List.forall_mem_cons.mpr ⟨hkeep _ (applyTo_isSettled hplain hfile).1, hsettled⟩

end Requirements

end RequiredVersion
