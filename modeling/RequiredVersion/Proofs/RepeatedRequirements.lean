import RequiredVersion.Proofs.RequirementFiles

/-! # Requirements set again

Setting the requirements of a plugin again changes nothing, for every plugin, exactly if no version
has a blank or a star in it (`isIdempotent_iff`).  For plain versions this is the work of
`apply_isSettled`.

A version that is not plain grows: with a line feed, every run leaves more lines in a readme
(`count_patch`); without one, every run leaves a longer line in a header, since the value that is
found there again is only the part before the blank or the star (`isPlain_of_patch_again`). -/

namespace RequiredVersion

open Text FileSystem

/-! ### Line feeds -/

namespace Text

theorem count_unlines_map_le {f : List Char → List Char} : ∀ {ls : List (List Char)},
    (∀ line ∈ ls, '\n' ∉ line) → (unlines ls).count '\n' ≤ (unlines (ls.map f)).count '\n'
  | [], _ => Nat.le_refl _
  | [line], h => by
      rw [Requirement.unlines_singleton, List.count_eq_zero.mpr (h line List.mem_cons_self)]
      exact Nat.zero_le _
  | line :: next :: ls, h => by
      obtain ⟨hline, hrest⟩ := List.forall_mem_cons.mp h
      have ih : (unlines (next :: ls)).count '\n' ≤ (unlines (f next :: ls.map f)).count '\n' :=
        count_unlines_map_le hrest
      rw [List.map_cons, List.map_cons, Requirement.unlines_cons_cons, Requirement.unlines_cons_cons,
        List.count_append, List.count_append, List.count_cons_self, List.count_cons_self,
        List.count_eq_zero.mpr hline]
      omega

theorem count_unlines_map_lt {f : List Char → List Char} {line : List Char}
    {ls : List (List Char)} (h : ∀ l ∈ line :: ls, '\n' ∉ l) (hlf : '\n' ∈ f line) :
    (unlines (line :: ls)).count '\n' < (unlines ((line :: ls).map f)).count '\n' := by
  obtain ⟨hline, hrest⟩ := List.forall_mem_cons.mp h
  have hpos := List.count_pos_iff.mpr hlf
  cases ls with
  | nil =>
      rwa [List.map_cons, List.map_nil, Requirement.unlines_singleton, Requirement.unlines_singleton,
        List.count_eq_zero.mpr hline]
  | cons next ls =>
      have hle : (unlines (next :: ls)).count '\n' ≤ (unlines (f next :: ls.map f)).count '\n' :=
        count_unlines_map_le hrest
      rw [List.map_cons, List.map_cons, Requirement.unlines_cons_cons, Requirement.unlines_cons_cons,
        List.count_append, List.count_append, List.count_cons_self, List.count_cons_self,
        List.count_eq_zero.mpr hline]
      omega

end Text

namespace Requirement

variable {field other : Requirement} {version : Version} {content : List Char}

theorem head_lines {start : List Char} (h : '\n' ∉ start) (rest : List Char) :
    ∃ line ls, lines (start ++ rest) = (start ++ line) :: ls := by
  obtain ⟨line, ls, hlines⟩ := List.exists_cons_of_ne_nil (lines_ne_nil rest)
  have hstart : lines start = [start] := splitAt_of_not_mem h
  exact ⟨line, ls, by rw [lines_append, hstart, hlines]; rfl⟩

theorem not_mem_keyChars (field : Requirement) : '\n' ∉ field.keyChars := by
  cases field <;> decide

theorem not_mem_key_append (field : Requirement) {rest : List Char} (h : '\n' ∉ rest) :
    '\n' ∉ field.keyChars ++ rest := by
  rw [List.mem_append, not_or]
  exact ⟨field.not_mem_keyChars, h⟩

theorem prefix_unlines (line : List Char) (ls : List (List Char)) :
    line <+: unlines (line :: ls) := by
  cases ls with
  | nil => exact ⟨[], by rw [unlines_singleton, List.append_nil]⟩
  | cons next ls => exact List.prefix_append _ _

/-- A readme that starts with a key starts with it however fields are set. -/
theorem prefix_patchReadme (h : field.keyChars <+: content) :
    field.keyChars <+: other.patchReadme version content := by
  obtain ⟨rest, rfl⟩ := h
  obtain ⟨line, ls, hlines⟩ := head_lines field.not_mem_keyChars rest
  have hhead : field.keyChars <+:
      setLine (readmeLine? other version.chars) (field.keyChars ++ line) := by
    unfold setLine
    cases hline : readmeLine? other version.chars (field.keyChars ++ line) with
    | none => exact List.prefix_append _ _
    | some line' =>
        obtain ⟨key, more, hkey, htext, rfl⟩ := readmeLine?_eq_some_iff.mp hline
        obtain rfl := eq_of_isKey (isKey_keyChars field) hkey htext
        exact List.prefix_append _ _
  rw [patchReadme_eq, mapLines, hlines, List.map_cons]
  exact hhead.trans (prefix_unlines _ _)

theorem count_patchReadme (content : List Char) :
    content.count '\n' ≤ (other.patchReadme version content).count '\n' := by
  have hle : (unlines (lines content)).count '\n' ≤ (other.patchReadme version content).count '\n' :=
    count_unlines_map_le (fun _ => not_mem_lines)
  rwa [unlines_lines] at hle

theorem count_patchReadme_lt (hlf : '\n' ∈ version.chars) (h : field.keyChars <+: content) :
    content.count '\n' < (field.patchReadme version content).count '\n' := by
  obtain ⟨rest, rfl⟩ := h
  obtain ⟨line, ls, hlines⟩ := head_lines field.not_mem_keyChars rest
  have hset : readmeLine? field version.chars (field.keyChars ++ line) = some _ :=
    readmeLine?_eq_some_iff.mpr ⟨_, line, isKey_keyChars field, rfl, rfl⟩
  have hlf' : '\n' ∈ setLine (readmeLine? field version.chars) (field.keyChars ++ line) := by
    rw [setLine, hset, Option.getD_some]
    simp [hlf]
  have hclean : ∀ l ∈ (field.keyChars ++ line) :: ls, '\n' ∉ l := by
    rw [← hlines]
    exact fun _ => not_mem_lines
  have hlt := count_unlines_map_lt hclean hlf'
  rwa [← hlines, unlines_lines] at hlt

/-! ### Longer lines -/

/-- A header that starts on a line of its own, and the text behind it. -/
def opened (rest : List Char) : List Char := '/' :: '*' :: '\n' :: rest

theorem mapLines_opened {f : List Char → List Char} (hf : f ['/', '*'] = ['/', '*'])
    {line : List Char} (hlf : '\n' ∉ line) : mapLines f (opened line) = opened (f line) := by
  have hopened : ∀ line, opened line = unlines [['/', '*'], line] := fun line => by
    rw [unlines_cons_cons, unlines_singleton]
    rfl
  have hlines : lines (opened line) = [['/', '*'], line] := by
    rw [hopened, lines_unlines (List.cons_ne_nil _ _)]
    simp [hlf]
  rw [mapLines, hlines, List.map_cons, List.map_cons, List.map_nil, hf, ← hopened]

theorem exists_close {rest : List Char} (h : fromEnd? rest ≠ none) :
    ∃ close after, rest = close ++ after ∧ fromEnd? close = some ['*', '/'] := by
  obtain ⟨more, hmore⟩ := Option.ne_none_iff_exists'.mp h
  obtain ⟨⟨inner, more⟩, hsplit, rfl⟩ := Option.map_eq_some_iff.mp hmore
  obtain ⟨rfl, ⟨after, rfl⟩, hnone⟩ := splitBefore?_eq hsplit
  refine ⟨inner ++ ['*', '/'], after, by simp, ?_⟩
  rw [fromEnd?, splitBefore?_append_cons_cons (by decide) hnone, Option.map_some]

theorem patchHeader_opened {close : List Char} (hlf : '\n' ∉ close)
    (hclose : fromEnd? close = some ['*', '/']) (after : List Char) :
    field.patchHeader version (opened (close ++ after)) =
      opened (setLine (headerLine? field version.chars) close ++ after) := by
  have hheader : splitHeader? (opened (close ++ after)) = some ([], opened close, after) := by
    refine splitHeader?_eq_some_iff.mpr ⟨rfl, rfl, _, rfl, ?_⟩
    rw [← hclose]
    exact fromEnd?_append_of_not_mem (show '*' ∉ ['\n'] by decide)
  rw [patchHeader_eq hheader, mapLines_opened (setLine_headerLine?_slash _ _) hlf]
  rfl

section key
variable {rest : List Char}

theorem fromEnd?_keyChars (field : Requirement) (rest : List Char) :
    fromEnd? (field.keyChars ++ rest) = fromEnd? rest :=
  fromEnd?_append_of_not_mem (by cases field <;> decide)

theorem patchHeader_key (hlf : '\n' ∉ rest) (hend : fromEnd? rest ≠ none) :
    field.patchHeader version (opened (field.keyChars ++ rest)) =
      opened (field.keyChars ++ (' ' :: version.chars ++ afterValue rest)) := by
  obtain ⟨close, after, rfl, hclose⟩ := exists_close hend
  have hlf' := not_mem_key_append field (fun h => hlf (List.mem_append_left after h))
  have hset : headerLine? field version.chars (field.keyChars ++ close) = some _ :=
    headerLine?_eq_some_iff.mpr
      ⟨[], field.keyChars, close, .inl (by simp), isKey_keyChars field, rfl, rfl⟩
  rw [← List.append_assoc, patchHeader_opened hlf' (by rw [fromEnd?_keyChars, hclose]), setLine, hset,
    afterValue_append (by simp [hclose])]
  simp

theorem patchHeader_other_key (hne : field ≠ other) (hlf : '\n' ∉ rest)
    (hend : fromEnd? rest ≠ none) :
    other.patchHeader version (opened (field.keyChars ++ rest)) =
      opened (field.keyChars ++ rest) := by
  obtain ⟨close, after, rfl, hclose⟩ := exists_close hend
  have hlf' := not_mem_key_append field (fun h => hlf (List.mem_append_left after h))
  have hnone : setLine (headerLine? other version.chars) (field.keyChars ++ close) =
      field.keyChars ++ close := by
    rw [setLine_eq_self_iff]
    intro line' hline
    have hset : headerLine? field [] (field.keyChars ++ close) = some _ :=
      headerLine?_eq_some_iff.mpr
        ⟨[], field.keyChars, close, .inl (by simp), isKey_keyChars field, rfl, rfl⟩
    exact absurd (eq_of_headerLine? hset hline) hne
  rw [← List.append_assoc, patchHeader_opened hlf' (by rw [fromEnd?_keyChars, hclose]), hnone]

end key

theorem isPlain_of_afterValue {value rest : List Char} (hne : value ≠ [])
    (hhead : ∀ c, value.head? = some c → isBlank c = false)
    (h : afterValue (' ' :: value ++ rest) = rest) : IsPlain value := by
  obtain ⟨d, ds, rfl⟩ := List.exists_cons_of_ne_nil hne
  have hspace : isTabOrSpace d = false := by
    rw [isTabOrSpace, Bool.or_eq_false_iff, beq_eq_false_iff_ne, beq_eq_false_iff_ne]
    constructor <;> rintro rfl <;> exact absurd (hhead _ rfl) (by decide)
  rw [afterValue, List.cons_append, List.dropWhile_cons_of_pos (by decide), List.cons_append,
    List.dropWhile_cons_of_neg (by simp [hspace]), ← List.cons_append, List.dropWhile_append] at h
  split at h
  · next hempty =>
      have hall := List.dropWhile_eq_nil_iff.mp (List.isEmpty_iff.mp hempty)
      have hchar : ∀ c ∈ d :: ds, isBlank c = false ∧ c ≠ '*' := fun c hc => by
        simpa using hall c hc
      exact ⟨hne, fun c hc => (hchar c hc).1, fun hstar => (hchar _ hstar).2 rfl⟩
  · next hrest =>
      have hnil : (d :: ds).dropWhile (fun c => !isBlank c && c != '*') = [] :=
        List.append_cancel_right (h.trans (List.nil_append rest).symm)
      exact absurd (List.isEmpty_iff.mpr hnil) hrest

theorem fromEnd?_append_ne_none {rest : List Char} (h : fromEnd? rest ≠ none) :
    ∀ front : List Char, fromEnd? (front ++ rest) ≠ none
  | [] => h
  | c :: front => by
      have hrest := fromEnd?_append_ne_none h front
      rw [List.cons_append]
      cases hmore : front ++ rest with
      | nil =>
          rw [hmore] at hrest
          exact absurd rfl hrest
      | cons d ds =>
          rw [hmore] at hrest
          rw [fromEnd?, splitBefore?]
          split
          · simp
          · rw [Option.map_map, ne_eq, Option.map_eq_none_iff]
            rwa [fromEnd?, ne_eq, Option.map_eq_none_iff] at hrest

end Requirement

namespace Requirements

open Requirement

variable {f : Requirement × Version} {fields : List (Requirement × Version)} {content : List Char}

theorem prefix_patch (h : f.1.keyChars <+: content) :
    f.1.keyChars <+: (patch true fields content).1 := by
  induction fields generalizing content with
  | nil => exact h
  | cons g rest ih => exact ih (prefix_patchReadme h)

theorem count_le_patch : content.count '\n' ≤ (patch true fields content).1.count '\n' := by
  induction fields generalizing content with
  | nil => exact Nat.le_refl _
  | cons g rest ih => exact Nat.le_trans (count_patchReadme content) ih

/-- A line feed in a version makes every run leave more lines. -/
theorem count_patch (hf : f ∈ fields) (hlf : '\n' ∈ f.2.chars) (h : f.1.keyChars <+: content) :
    content.count '\n' < (patch true fields content).1.count '\n' := by
  induction fields generalizing content with
  | nil => exact absurd hf List.not_mem_nil
  | cons g rest ih =>
      rw [patch_cons]
      rcases List.mem_cons.mp hf with rfl | hf
      · exact Nat.lt_of_lt_of_le (count_patchReadme_lt hlf h) count_le_patch
      · exact Nat.lt_of_le_of_lt (count_patchReadme content) (ih hf (prefix_patchReadme h))

theorem patch_other_key {field : Requirement} (hother : ∀ g ∈ fields, field ≠ g.1)
    {rest : List Char} (hlf : '\n' ∉ rest) (hend : fromEnd? rest ≠ none) :
    (patch false fields (opened (field.keyChars ++ rest))).1 = opened (field.keyChars ++ rest) := by
  induction fields with
  | nil => rfl
  | cons g more ih =>
      obtain ⟨hg, hother⟩ := List.forall_mem_cons.mp hother
      have hkept : patchIn false g.1 g.2 (opened (field.keyChars ++ rest)) = _ :=
        patchHeader_other_key hg hlf hend
      rw [patch_cons, hkept, ih hother]

/-- What setting the fields does to a header with one line. -/
theorem patch_key (hdistinct : fields.Pairwise (fun f g => f.1 ≠ g.1)) (hf : f ∈ fields)
    (hvalue : '\n' ∉ f.2.chars) {rest : List Char} (hlf : '\n' ∉ rest) (hend : fromEnd? rest ≠ none) :
    (patch false fields (opened (f.1.keyChars ++ rest))).1 =
      opened (f.1.keyChars ++ (' ' :: f.2.chars ++ afterValue rest)) := by
  induction fields with
  | nil => exact absurd hf List.not_mem_nil
  | cons g more ih =>
      obtain ⟨hother, hdistinct⟩ := List.pairwise_cons.mp hdistinct
      rw [patch_cons]
      rcases List.mem_cons.mp hf with rfl | hf
      · have hset : patchIn false f.1 f.2 (opened (f.1.keyChars ++ rest)) = _ :=
          patchHeader_key hlf hend
        have hend' : fromEnd? (' ' :: f.2.chars ++ afterValue rest) ≠ none :=
          fromEnd?_append_ne_none (by rwa [fromEnd?_afterValue]) _
        rw [hset, patch_other_key hother (not_mem_set_value hvalue hlf) hend']
      · have hkept : patchIn false g.1 g.2 (opened (f.1.keyChars ++ rest)) = _ :=
          patchHeader_other_key (hother f hf).symm hlf hend
        rw [hkept, ih hdistinct hf]

/-- **Only plain versions stay.** -/
theorem isPlain_of_patch_again (hdistinct : fields.Pairwise (fun f g => f.1 ≠ g.1))
    (h : ∀ readme content, (patch readme fields (patch readme fields content).1).1 =
      (patch readme fields content).1)
    (hf : f ∈ fields) (hne : f.2.chars ≠ [])
    (hhead : ∀ c, f.2.chars.head? = some c → isBlank c = false) :
    Requirement.IsPlain f.2.chars := by
  have hlf : '\n' ∉ f.2.chars := by
    intro hlf
    have hstart : f.1.keyChars <+: (patch true fields f.1.keyChars).1 := prefix_patch List.prefix_rfl
    have hgrows := count_patch hf hlf hstart
    rw [h] at hgrows
    exact Nat.lt_irrefl _ hgrows
  have hend : fromEnd? ['*', '/'] ≠ none := by decide
  have hlf₀ : '\n' ∉ ['*', '/'] := by decide
  have hend' : fromEnd? (' ' :: f.2.chars ++ afterValue ['*', '/']) ≠ none :=
    fromEnd?_append_ne_none hend _
  have hagain := h false (opened (f.1.keyChars ++ ['*', '/']))
  rw [patch_key hdistinct hf hlf hlf₀ hend,
    patch_key hdistinct hf hlf (not_mem_set_value hlf hlf₀) hend'] at hagain
  simp only [opened, List.cons.injEq, true_and, List.append_cancel_left_eq] at hagain
  exact isPlain_of_afterValue hne hhead hagain

/-! ### Runs over files -/

section runs
variable {r : Requirements} {file : Path} {files : List Path} {text : String} {s s' : Session}

theorem applyTo_of_readText (h : s.files.readText file = .ok text) :
    ∃ b s', (r.applyTo file).outcome.run s = (.ok b, s') ∧
      s'.files.readText file =
        .ok (String.ofList (patch (isReadme file) r.fields text.toList).1) ∧
      ∀ other, s'.files.isFile other = s.files.isFile other := by
  unfold applyTo
  rw [Run.run_bind, Run.run_files]
  dsimp only
  rw [isFile_of_readText h, if_neg (by simp), h]
  dsimp only
  rw [← isReadme]
  by_cases hsame : (patch (isReadme file) r.fields text.toList).1 = text.toList
  · rw [if_pos hsame, hsame, String.ofList_toList]
    exact ⟨false, _, rfl, h, fun _ => rfl⟩
  · obtain ⟨content, hread, _⟩ := readText_eq_ok_iff.mp h
    obtain ⟨place, hget, hput⟩ := write_of_read hread
    have hwrite : s.files.writeText file
        (String.ofList (patch (isReadme file) r.fields text.toList).1) = .ok _ := hput _
    rw [if_neg hsame, Run.run_bind, Run.run_change, hwrite]
    exact ⟨true, _, rfl, readText_of_read (read_write hwrite), isFile_put_file hget _⟩

theorem applyTo_false (h : (r.applyTo file).outcome.run s = (.ok false, s')) :
    s'.files = s.files ∧ ∀ text, s.files.readText file = .ok text →
      (patch (isReadme file) r.fields text.toList).1 = text.toList := by
  rcases applyTo_ok h with ⟨hnone, hfiles⟩ | ⟨text, htext, ⟨hsame, hfiles⟩ | ⟨hb, _⟩⟩
  · refine ⟨hfiles, fun text htext => ?_⟩
    rw [isFile_of_readText htext] at hnone
    cases hnone
  · refine ⟨hfiles, fun text' htext' => ?_⟩
    rw [htext] at htext'
    obtain rfl := Except.ok.inj htext'
    exact hsame
  · cases hb

theorem isSettled_of_not_isFile {fs : FileSystem} (h : fs.isFile file = false) :
    IsSettled r fs file := by
  intro hfile
  rw [h] at hfile
  cases hfile

theorem applyAll_of_readText (hnodup : files.Nodup) (hfile : file ∈ files)
    (hother : ∀ other ∈ files, other ≠ file → s.files.isFile other = false)
    (h : s.files.readText file = .ok text) :
    ∃ changed s', (r.applyAll files).outcome.run s = (.ok changed, s') ∧
      s'.files.readText file =
        .ok (String.ofList (patch (isReadme file) r.fields text.toList).1) := by
  induction files generalizing s with
  | nil => exact absurd hfile List.not_mem_nil
  | cons first rest ih =>
      obtain ⟨hfirst, hnodup⟩ := List.nodup_cons.mp hnodup
      obtain ⟨habsent, hother⟩ := List.forall_mem_cons.mp hother
      rw [applyAll, Run.run_bind]
      by_cases heq : first = file
      · subst heq
        obtain ⟨b, s₁, hrun, htext, hisFile⟩ := applyTo_of_readText h
        have hrest : ∀ other ∈ rest, IsSettled r s₁.files other := by
          intro other hmem
          refine isSettled_of_not_isFile ?_
          rw [hisFile]
          exact hother other hmem (fun e => hfirst (e ▸ hmem))
        obtain ⟨s₂, hrun', hfiles⟩ := applyAll_of_isSettled hrest
        rw [← hfiles] at htext
        rw [hrun]
        dsimp only
        rw [Run.run_bind, hrun']
        exact ⟨_, s₂, rfl, htext⟩
      · have hmem : file ∈ rest := (List.mem_cons.mp hfile).resolve_left (fun e => heq e.symm)
        obtain ⟨s₁, hrun, hfiles⟩ := applyTo_of_isSettled (isSettled_of_not_isFile (habsent heq))
        rw [← hfiles] at hother h
        obtain ⟨changed, s₂, hrun', htext⟩ := ih hnodup hmem hother h
        rw [hrun]
        dsimp only
        rw [Run.run_bind, hrun']
        exact ⟨_, s₂, rfl, htext⟩

theorem patch_of_applyAll_nil (h : (r.applyAll files).outcome.run s = (.ok [], s'))
    (hfile : file ∈ files) (htext : s.files.readText file = .ok text) :
    (patch (isReadme file) r.fields text.toList).1 = text.toList := by
  induction files generalizing s with
  | nil => exact absurd hfile List.not_mem_nil
  | cons first rest ih =>
      rw [applyAll] at h
      obtain ⟨b, s₁, hrun, h⟩ := Run.run_bind_ok h
      obtain ⟨others, s₂, hrest, h⟩ := Run.run_bind_ok h
      cases b with
      | true => cases h
      | false =>
          cases h
          obtain ⟨hfiles, hset⟩ := applyTo_false hrun
          rcases List.mem_cons.mp hfile with rfl | hfile
          · exact hset text htext
          · exact ih hrest hfile (by rwa [hfiles])

end runs

/-! ### Plugins with one file -/

/-- Setting the requirements of a plugin again changes nothing, whatever the plugin is. -/
def IsIdempotent (r : Requirements) : Prop :=
  ∀ (base : String) (dir : Path) (s s' : Session) (changed : List Path),
    (r.apply base dir).outcome.run s = (.ok changed, s') →
      ∃ s'', (r.apply base dir).outcome.run s' = (.ok [], s'') ∧ s''.files = s'.files

/-- The only file of a plugin: its readme, or its index. -/
def loneFile (readme : Bool) : Path := ⟨if readme then "p/readme.txt" else "p/index.php"⟩

def lonePlugin (readme : Bool) (content : List Char) : FileSystem :=
  (FileSystem.empty.put ["p"] .directory).put ["p", if readme then "readme.txt" else "index.php"]
    (.file (.bytes (String.ofList content).toUTF8))

theorem readText_lonePlugin (readme : Bool) (content : List Char) :
    (lonePlugin readme content).readText (loneFile readme) = .ok (String.ofList content) := by
  refine readText_of_read ?_
  cases readme <;> rfl

theorem isFile_lonePlugin (readme : Bool) (content : List Char) :
    ∀ file ∈ candidates "p" ⟨"p"⟩, file ≠ loneFile readme →
      (lonePlugin readme content).isFile file = false := by
  have hfiles : candidates "p" ⟨"p"⟩ = [loneFile true, loneFile false, ⟨"p/p.php"⟩] := by decide
  intro file hfile hne
  simp only [hfiles, List.mem_cons, List.not_mem_nil, or_false] at hfile
  rcases hfile with rfl | rfl | rfl
  · cases readme with
    | true => exact absurd rfl hne
    | false => rfl
  · cases readme with
    | true => rfl
    | false => exact absurd rfl hne
  · cases readme <;> rfl

/-- If the requirements of every plugin can be set again, so can those of every text. -/
theorem IsIdempotent.patch {r : Requirements} (h : r.IsIdempotent) (readme : Bool)
    (content : List Char) :
    (patch readme r.fields (patch readme r.fields content).1).1 =
      (patch readme r.fields content).1 := by
  have hreadme : isReadme (loneFile readme) = readme := by cases readme <;> decide
  have hmem : loneFile readme ∈ candidates "p" ⟨"p"⟩ := by cases readme <;> decide
  have hothers := isFile_lonePlugin readme content
  have htext := readText_lonePlugin readme content
  rw [show lonePlugin readme content = (Session.start (lonePlugin readme content)).files from rfl]
    at hothers htext
  obtain ⟨changed, s', hrun, htext'⟩ := applyAll_of_readText (by decide) hmem hothers htext
  obtain ⟨s'', hrun', _⟩ := h _ _ _ _ _ hrun
  have hset := patch_of_applyAll_nil hrun' hmem htext'
  simpa only [hreadme, String.toList_ofList] using hset

/-- **Setting requirements again** changes nothing, whatever the plugin is, exactly if no version has
a blank or a star in it. -/
theorem isIdempotent_iff {r : Requirements}
    (hparsed : ∀ f ∈ r.fields, ∃ text, Version.parse text = .ok f.2) :
    r.IsIdempotent ↔ ∀ f ∈ r.fields, ∀ c ∈ f.2.chars, isBlank c = false ∧ c ≠ '*' := by
  have hne : ∀ f ∈ r.fields, f.2.chars ≠ [] := by
    intro f hf
    obtain ⟨text, hparse⟩ := hparsed f hf
    exact Version.chars_ne_nil (Version.written_of_ofChars? (Version.parse_eq_ok_iff.mp hparse))
  constructor
  · intro h f hf c hc
    have hplain := isPlain_of_patch_again (pairwise_fields r) h.patch hf (hne f hf)
      (fun c hc => Version.isBlank_head_chars hc)
    exact ⟨hplain.blank c hc, fun e => hplain.star (e ▸ hc)⟩
  · intro h base dir s s' changed hrun
    have hplain : r.IsPlain := fun f hf =>
      ⟨hne f hf, fun c hc => (h f hf c hc).1, fun hc => (h f hf _ hc).2 rfl⟩
    exact applyAll_of_isSettled (apply_isSettled hplain hrun)

/-- A release candidate and a release can be set again, a version with a space in it cannot. -/
theorem isIdempotent_iff_space :
    let candidate : Requirements :=
      ⟨some ⟨[6, 5], some (.ofChars ['R', 'C', '1'])⟩, some ⟨[7, 4], none⟩⟩
    let spaced : Requirements := ⟨some ⟨[6, 5], some (.ofChars ['a', ' ', 'b'])⟩, none⟩
    (∀ f ∈ candidate.fields, ∃ text, Version.parse text = .ok f.2) ∧
      (∀ f ∈ spaced.fields, ∃ text, Version.parse text = .ok f.2) ∧
      candidate.IsIdempotent ∧ ¬spaced.IsIdempotent := by
  intro candidate spaced
  have hnone : ∀ f : Requirement × Version, f ∈ [] → ∃ text, Version.parse text = .ok f.2 :=
    fun f hf => absurd hf List.not_mem_nil
  have hcandidate : ∀ f ∈ candidate.fields, ∃ text, Version.parse text = .ok f.2 :=
    List.forall_mem_cons.mpr ⟨⟨"6.5-RC1", by decide +kernel⟩,
      List.forall_mem_cons.mpr ⟨⟨"7.4", by decide +kernel⟩, hnone⟩⟩
  have hspaced : ∀ f ∈ spaced.fields, ∃ text, Version.parse text = .ok f.2 :=
    List.forall_mem_cons.mpr ⟨⟨"6.5-a b", by decide +kernel⟩, hnone⟩
  have hplain : candidate.fields.all (fun f => f.2.chars.all (fun c => !isBlank c && c != '*')) =
      true := by decide +kernel
  have hspace : ' ' ∈ (⟨[6, 5], some (.ofChars ['a', ' ', 'b'])⟩ : Version).chars :=
    List.contains_iff_mem.mp (by decide +kernel)
  refine ⟨hcandidate, hspaced, (isIdempotent_iff hcandidate).mpr (fun f hf c hc => ?_), fun h => ?_⟩
  · simpa using List.all_eq_true.mp (List.all_eq_true.mp hplain f hf) c hc
  · have hblank := ((isIdempotent_iff hspaced).mp h _ List.mem_cons_self ' ' hspace).1
    exact absurd hblank (by decide)

end Requirements

end RequiredVersion
