import Mathlib.Data.List.Forall2
import RequiredVersion.Proofs.RequirementLines
import RequiredVersion.Requirement.Files

/-! # Texts that declare requirements

Setting a field changes a text line by line.  A readme is changed on all its lines, a PHP file on the
lines of its first block comment, which is the first block comment afterwards as well
(`splitHeader?_patchHeader`).  So a field that has been set is set (`patchReadme_set`,
`patchHeader_set`), and the fields can be set in either order (`patchReadme_comm`,
`patchHeader_comm`); all in all a text in which the fields have been set does not change when they are
set again (`isSet_patch`). -/

namespace RequiredVersion

namespace Requirement

open Text

section lines
variable {field : Requirement} {value : List Char}

theorem not_mem_set_readmeLine? (hvalue : '\n' ∉ value) (line : List Char) (hline : '\n' ∉ line) :
    '\n' ∉ setLine (readmeLine? field value) line := by
  unfold setLine
  cases h : readmeLine? field value line with
  | none => exact hline
  | some line' =>
      obtain ⟨key, rest, _, rfl, rfl⟩ := readmeLine?_eq_some_iff.mp h
      have hkey : '\n' ∉ field.keyChars := by cases field <;> decide
      have hrest : '\n' ∉ rest.dropWhile (· != '\r') := fun hmem =>
        hline (List.mem_append_right _ ((List.dropWhile_suffix _).subset hmem))
      rw [Option.getD_some, List.mem_append, List.mem_append, List.mem_cons, not_or, not_or, not_or]
      exact ⟨hkey, ⟨by decide, hvalue⟩, hrest⟩

theorem not_mem_set_value (hvalue : '\n' ∉ value) {rest : List Char} (hrest : '\n' ∉ rest) :
    '\n' ∉ ' ' :: value ++ afterValue rest := by
  have hafter : '\n' ∉ afterValue rest := fun hmem =>
    hrest ((List.dropWhile_suffix _).subset ((List.dropWhile_suffix _).subset hmem))
  rw [List.mem_append, List.mem_cons, not_or, not_or]
  exact ⟨⟨by decide, hvalue⟩, hafter⟩

theorem not_mem_set_headerLine? (hvalue : '\n' ∉ value) (line : List Char) (hline : '\n' ∉ line) :
    '\n' ∉ setLine (headerLine? field value) line := by
  unfold setLine
  cases h : headerLine? field value line with
  | none => exact hline
  | some line' =>
      obtain ⟨margin, key, rest, _, _, rfl, rfl⟩ := headerLine?_eq_some_iff.mp h
      rw [List.mem_append, List.mem_append, not_or, not_or] at hline
      obtain ⟨hmargin, hkey, hrest⟩ := hline
      rw [Option.getD_some, List.mem_append, List.mem_append, not_or, not_or]
      exact ⟨hmargin, hkey, not_mem_set_value hvalue hrest⟩

end lines

/-! ### Readmes -/

section readme
variable {field other : Requirement} {version version' : Version} {content : List Char}

theorem patchReadme_eq : patchReadme field version content =
    mapLines (setLine (readmeLine? field version.chars)) content := rfl

theorem patchReadme_eq_self_iff (h : '\n' ∉ version.chars) :
    patchReadme field version content = content ↔
      ∀ line ∈ lines content, setLine (readmeLine? field version.chars) line = line :=
  mapLines_eq_self_iff (not_mem_set_readmeLine? h)

theorem lines_patchReadme (h : '\n' ∉ version.chars) :
    lines (patchReadme field version content) =
      (lines content).map (setLine (readmeLine? field version.chars)) :=
  lines_mapLines (not_mem_set_readmeLine? h) content

theorem patchReadme_set (hlf : '\n' ∉ version.chars) (hcr : '\r' ∉ version.chars) :
    patchReadme field version (patchReadme field version content) =
      patchReadme field version content := by
  rw [patchReadme_eq_self_iff hlf, lines_patchReadme hlf]
  intro line hline
  obtain ⟨line, _, rfl⟩ := List.mem_map.mp hline
  exact setLine_setLine (fun _ _ h => readmeLine?_set hcr h) line

theorem patchReadme_comm (hlf : '\n' ∉ version.chars) (hcr : '\r' ∉ version.chars)
    (hlf' : '\n' ∉ version'.chars) (hcr' : '\r' ∉ version'.chars) (hne : field ≠ other) :
    patchReadme field version (patchReadme other version' content) =
      patchReadme other version' (patchReadme field version content) :=
  mapLines_comm (not_mem_set_readmeLine? hlf) (not_mem_set_readmeLine? hlf')
    (setLine_comm (fun _ _ h => readmeLine?_set hcr h) (fun _ _ h => readmeLine?_set hcr' h)
      (fun _ _ _ h h' => hne (eq_of_readmeLine? h h'))) content

end readme

/-! ### Block comments -/

/-- A block comment: its first end is its own. -/
def IsBlock (block : List Char) : Prop :=
  ∃ rest, block = '/' :: '*' :: rest ∧ fromEnd? rest = some ['*', '/']

/-- What a text is split into at its first block comment. -/
theorem splitHeader?_eq_some_iff {content before block after : List Char} :
    splitHeader? content = some (before, block, after) ↔
      content = before ++ (block ++ after) ∧ splitBefore? '/' '*' before = none ∧ IsBlock block := by
  constructor
  · intro h
    unfold splitHeader? at h
    split at h
    · next before' o s rest hopen =>
        split at h
        · next inner s' c after' hclose =>
            cases h
            obtain ⟨rfl, ⟨_, heq⟩, hnone⟩ := splitBefore?_eq hopen
            cases heq
            obtain ⟨rfl, ⟨_, heq⟩, hnone'⟩ := splitBefore?_eq hclose
            cases heq
            refine ⟨by simp, hnone, inner ++ ['*', '/'], rfl, ?_⟩
            rw [fromEnd?, splitBefore?_append_cons_cons (by decide) hnone', Option.map_some]
        · cases h
    · cases h
  · rintro ⟨rfl, hnone, rest, rfl, hend⟩
    obtain ⟨⟨inner, close⟩, hsplit, rfl⟩ := Option.map_eq_some_iff.mp hend
    unfold splitHeader?
    rw [List.cons_append, List.cons_append, splitBefore?_append_cons_cons (by decide) hnone]
    dsimp only
    rw [splitBefore?_append_of_some hsplit after]
    dsimp only [List.cons_append, List.nil_append]
    rw [← (splitBefore?_eq hsplit).1]

section block
variable {f : List Char → List Char}

theorem fromEnd?_line (line more : List Char) :
    fromEnd? (line ++ '\n' :: more) =
      match fromEnd? line with
      | some close => some (close ++ '\n' :: more)
      | none => fromEnd? more := by
  cases hsplit : splitBefore? '*' '/' line with
  | none =>
      have hjoint : line.getLast? = some '*' → ('\n' :: more).head? ≠ some '/' :=
        fun _ e => absurd (Option.some.inj e) (by decide)
      have hlf : fromEnd? (['\n'] ++ more) = fromEnd? more :=
        fromEnd?_append_of_not_mem (by decide)
      rw [fromEnd?_append hsplit hjoint, fromEnd?, fromEnd?, hsplit]
      exact hlf
  | some split =>
      rw [fromEnd?, fromEnd?, splitBefore?_append_of_some hsplit, hsplit]
      rfl

theorem unlines_cons_cons (line next : List Char) (ls : List (List Char)) :
    unlines (line :: next :: ls) = line ++ '\n' :: unlines (next :: ls) := rfl

theorem fromEnd?_unlines_cons_cons {line next : List Char} {ls : List (List Char)} :
    fromEnd? (unlines (line :: next :: ls)) = some ['*', '/'] ↔
      fromEnd? line = none ∧ fromEnd? (unlines (next :: ls)) = some ['*', '/'] := by
  rw [unlines_cons_cons, fromEnd?_line]
  cases fromEnd? line with
  | none => exact ⟨fun h => ⟨rfl, h⟩, fun h => h.2⟩
  | some close =>
      refine ⟨fun h => ?_, fun h => absurd h.1 (by simp)⟩
      have hmem : '\n' ∈ ['*', '/'] := by
        rw [← Option.some.inj h]
        simp
      exact absurd hmem (by decide)

theorem unlines_singleton (line : List Char) : unlines [line] = line := List.append_nil line

/-- Lines with the same ends of comments end a comment at the same line. -/
theorem fromEnd?_unlines {ls ls' : List (List Char)}
    (hls : List.Forall₂ (fun l l' => fromEnd? l' = fromEnd? l) ls ls')
    (h : fromEnd? (unlines ls) = some ['*', '/']) : fromEnd? (unlines ls') = some ['*', '/'] := by
  induction hls with
  | nil => exact h
  | cons hline hls ih =>
      cases hls with
      | nil =>
          rw [unlines_singleton] at h
          rw [unlines_singleton, hline, h]
      | cons _ _ =>
          rw [fromEnd?_unlines_cons_cons] at h
          rw [fromEnd?_unlines_cons_cons, hline]
          exact ⟨h.1, ih h.2⟩

theorem fromEnd?_getLast : ∀ {ls : List (List Char)} {last : List Char},
    fromEnd? (unlines ls) = some ['*', '/'] → ls.getLast? = some last → fromEnd? last ≠ none
  | [], _, _, hlast => by cases hlast
  | [line], last, h, hlast => by
      obtain rfl : line = last := Option.some.inj hlast
      rw [unlines_singleton] at h
      rw [h]
      exact Option.some_ne_none _
  | line :: next :: ls, last, h, hlast =>
      fromEnd?_getLast (fromEnd?_unlines_cons_cons.mp h).2 (by rwa [List.getLast?_cons_cons] at hlast)

theorem lines_cons {c : Char} (hc : c ≠ '\n') {cs line : List Char} {ls : List (List Char)}
    (h : lines cs = line :: ls) : lines (c :: cs) = (c :: line) :: ls := by
  rw [lines] at h
  rw [lines, splitAt, if_neg hc, h]

theorem unlines_cons (c : Char) (line : List Char) (ls : List (List Char)) :
    unlines ((c :: line) :: ls) = c :: unlines (line :: ls) := by
  cases ls <;> rfl

theorem IsBlock.lines {block : List Char} (h : IsBlock block) :
    ∃ first ls, lines block = ('/' :: '*' :: first) :: ls ∧
      fromEnd? (unlines (first :: ls)) = some ['*', '/'] := by
  obtain ⟨rest, rfl, hend⟩ := h
  obtain ⟨first, ls, hlines⟩ := List.exists_cons_of_ne_nil (lines_ne_nil rest)
  refine ⟨first, ls, lines_cons (by decide) (lines_cons (by decide) hlines), ?_⟩
  rw [← hlines, unlines_lines, hend]

/-- A block comment stays one if its first line stays as it is and no line gets another end. -/
theorem IsBlock.mapLines {block : List Char} (h : IsBlock block)
    (hfirst : ∀ line, f ('/' :: line) = '/' :: line)
    (hf : ∀ line, fromEnd? (f line) = fromEnd? line) : IsBlock (mapLines f block) := by
  obtain ⟨first, ls, hlines, hend⟩ := h.lines
  refine ⟨unlines (first :: ls.map f), ?_, fromEnd?_unlines (.cons rfl ?_) hend⟩
  · rw [Text.mapLines, hlines, List.map_cons, hfirst, unlines_cons, unlines_cons]
  · rw [List.forall₂_map_right_iff]
    exact List.forall₂_same.mpr (fun line _ => hf line)

end block

/-! ### Headers -/

section header
variable {field other : Requirement} {version version' : Version}
  {content before block after : List Char}

theorem setLine_headerLine?_slash (value line : List Char) :
    setLine (headerLine? field value) ('/' :: line) = '/' :: line := by
  rw [setLine_eq_self_iff]
  intro line' h
  obtain ⟨margin, key, rest, hmargin, hkey, htext, _⟩ := headerLine?_eq_some_iff.mp h
  cases margin with
  | nil =>
      obtain ⟨c, cs, rfl, hc⟩ := hkey.head
      obtain rfl : '/' = c := (List.cons.inj htext).1
      exact absurd hc (by decide)
  | cons c cs =>
      obtain rfl : '/' = c := (List.cons.inj htext).1
      rcases hmargin.head with hblank | hstar
      · exact absurd hblank (by decide)
      · exact absurd hstar (by decide)

theorem fromEnd?_setLine {value : List Char} (h : IsPlain value) (line : List Char) :
    fromEnd? (setLine (headerLine? field value) line) = fromEnd? line := by
  unfold setLine
  cases hline : headerLine? field value line with
  | none => rfl
  | some line' => exact fromEnd?_headerLine? h hline

theorem patchHeader_eq (h : splitHeader? content = some (before, block, after)) :
    patchHeader field version content =
      before ++ (mapLines (setLine (headerLine? field version.chars)) block ++ after) := by
  rw [patchHeader, h, ← List.append_assoc]
  rfl

/-- **The first block comment stays the first block comment.** -/
theorem splitHeader?_patchHeader (hvalue : IsPlain version.chars)
    (h : splitHeader? content = some (before, block, after)) :
    splitHeader? (patchHeader field version content) =
      some (before, mapLines (setLine (headerLine? field version.chars)) block, after) := by
  obtain ⟨_, hbefore, hblock⟩ := splitHeader?_eq_some_iff.mp h
  rw [patchHeader_eq h, splitHeader?_eq_some_iff]
  exact ⟨rfl, hbefore, hblock.mapLines (setLine_headerLine?_slash _) (fromEnd?_setLine hvalue)⟩

theorem patchHeader_eq_self_iff (hvalue : '\n' ∉ version.chars)
    (h : splitHeader? content = some (before, block, after)) :
    patchHeader field version content = content ↔
      ∀ line ∈ lines block, setLine (headerLine? field version.chars) line = line := by
  have hcontent := (splitHeader?_eq_some_iff.mp h).1
  rw [patchHeader_eq h, ← mapLines_eq_self_iff (not_mem_set_headerLine? hvalue)]
  constructor
  · intro heq
    rw [hcontent] at heq
    exact List.append_cancel_right (List.append_cancel_left heq)
  · intro heq
    rw [heq, hcontent]

theorem patchHeader_of_none (h : splitHeader? content = none) :
    patchHeader field version content = content := by
  rw [patchHeader, h]

theorem patchHeader_set (hvalue : IsPlain version.chars) :
    patchHeader field version (patchHeader field version content) =
      patchHeader field version content := by
  cases h : splitHeader? content with
  | none => rw [patchHeader_of_none h, patchHeader_of_none h]
  | some split =>
      obtain ⟨before, block, after⟩ := split
      have hlf : '\n' ∉ version.chars := hvalue.not_mem (by decide)
      rw [patchHeader_eq_self_iff hlf (splitHeader?_patchHeader hvalue h),
        lines_mapLines (not_mem_set_headerLine? hlf)]
      intro line hline
      obtain ⟨line, _, rfl⟩ := List.mem_map.mp hline
      exact setLine_setLine (fun _ _ h => headerLine?_set hvalue h) line

theorem patchHeader_comm (hvalue : IsPlain version.chars) (hvalue' : IsPlain version'.chars)
    (hne : field ≠ other) :
    field.patchHeader version (other.patchHeader version' content) =
      other.patchHeader version' (field.patchHeader version content) := by
  cases h : splitHeader? content with
  | none => rw [patchHeader_of_none h, patchHeader_of_none h, patchHeader_of_none h]
  | some split =>
      obtain ⟨before, block, after⟩ := split
      rw [patchHeader_eq (splitHeader?_patchHeader hvalue h),
        patchHeader_eq (splitHeader?_patchHeader hvalue' h),
        mapLines_comm (not_mem_set_headerLine? (hvalue.not_mem (by decide)))
          (not_mem_set_headerLine? (hvalue'.not_mem (by decide)))]
      exact setLine_comm (fun _ _ hline => headerLine?_set hvalue hline)
        (fun _ _ hline => headerLine?_set hvalue' hline)
        (fun _ _ _ hline hline' => hne (eq_of_headerLine? hline hline'))

/-! ### The lines of a whole text -/

/-- The lines of two texts one after the other: the last line of the first one and the first line of
the second one are one line. -/
def joinLines : List (List Char) → List (List Char) → List (List Char)
  | [], ms => ms
  | [l], [] => [l]
  | [l], m :: ms => (l ++ m) :: ms
  | l :: l' :: ls, ms => l :: joinLines (l' :: ls) ms

theorem lines_append (ds : List Char) : ∀ cs : List Char,
    lines (cs ++ ds) = joinLines (lines cs) (lines ds)
  | [] => by
      obtain ⟨first, ls, hds⟩ := List.exists_cons_of_ne_nil (lines_ne_nil ds)
      rw [List.nil_append, hds]
      rfl
  | c :: cs => by
      have hrest := lines_append ds cs
      obtain ⟨first, ls, hcs⟩ := List.exists_cons_of_ne_nil (lines_ne_nil cs)
      by_cases hc : c = '\n'
      · have hlf : ∀ es, lines ('\n' :: es) = [] :: lines es := fun es => by
          rw [lines, splitAt, if_pos rfl]
          rfl
        rw [List.cons_append, hc, hlf, hlf, hrest, hcs]
        rfl
      · rw [lines_cons hc hcs]
        rw [hcs] at hrest
        cases ls with
        | nil =>
            obtain ⟨first', ls', hds⟩ := List.exists_cons_of_ne_nil (lines_ne_nil ds)
            rw [hds] at hrest ⊢
            exact lines_cons hc hrest
        | cons l' ls => exact lines_cons hc hrest

section joinLines
variable {R : List Char → List Char → Prop}

theorem forall₂_joinLines_right (hrefl : ∀ l, R l l) {m : List Char} {ms ms' : List (List Char)}
    (h : List.Forall₂ R ms ms') : ∀ ls : List (List Char),
      List.Forall₂ R (joinLines ls (m :: ms)) (joinLines ls (m :: ms'))
  | [] => .cons (hrefl m) h
  | [l] => .cons (hrefl (l ++ m)) h
  | l :: l' :: ls => .cons (hrefl l) (forall₂_joinLines_right hrefl h (l' :: ls))

theorem forall₂_joinLines_left (hrefl : ∀ l, R l l) {f : List Char → List Char}
    (hf : ∀ l, R l (f l)) (hlast : ∀ l ms, fromEnd? l ≠ none → R (l ++ ms) (f l ++ ms))
    (ms : List (List Char)) : ∀ ls : List (List Char),
      (∀ last, ls.getLast? = some last → fromEnd? last ≠ none) →
        List.Forall₂ R (joinLines ls ms) (joinLines (ls.map f) ms)
  | [], _ => List.forall₂_same.mpr (fun l _ => hrefl l)
  | [l], h => by
      cases ms with
      | nil => exact .cons (hf l) .nil
      | cons m ms => exact .cons (hlast l m (h l rfl)) (List.forall₂_same.mpr (fun l _ => hrefl l))
  | l :: l' :: ls, h =>
      .cons (hf l) (forall₂_joinLines_left hrefl hf hlast ms (l' :: ls) (fun last hls =>
        h last (by rwa [List.getLast?_cons_cons])))

end joinLines

/-- Setting a field in a header changes lines of the text that declare it, and no others. -/
theorem lines_patchHeader (hvalue : IsPlain version.chars) :
    List.Forall₂ (fun l l' => l' = l ∨ headerLine? field version.chars l = some l') (lines content)
      (lines (patchHeader field version content)) := by
  cases h : splitHeader? content with
  | none =>
      rw [patchHeader_of_none h]
      exact List.forall₂_same.mpr (fun l _ => .inl rfl)
  | some split =>
      obtain ⟨before, block, after⟩ := split
      obtain ⟨hcontent, _, hblock⟩ := splitHeader?_eq_some_iff.mp h
      obtain ⟨first, ls, hlines, hend⟩ := hblock.lines
      rw [patchHeader_eq h, hcontent, lines_append, lines_append, lines_append, lines_append,
        lines_mapLines (not_mem_set_headerLine? (hvalue.not_mem (by decide))), hlines, List.map_cons,
        setLine_headerLine?_slash]
      cases ls with
      | nil => exact List.forall₂_same.mpr (fun l _ => .inl rfl)
      | cons l ls =>
          refine forall₂_joinLines_right (fun _ => .inl rfl)
            (forall₂_joinLines_left (fun _ => .inl rfl) ?_ ?_ _ _
              (fun last hlast => fromEnd?_getLast hend (by rwa [List.getLast?_cons_cons]))) _
          · intro l
            unfold setLine
            cases hl : headerLine? field version.chars l with
            | none => exact .inl rfl
            | some l' => exact .inr rfl
          · intro l more hclose
            unfold setLine
            cases hl : headerLine? field version.chars l with
            | none => exact .inl rfl
            | some l' => exact .inr (headerLine?_append hclose hl more)

/-- A header set in a readme leaves the fields of the readme set. -/
theorem patchReadme_patchHeader (hvalue : IsPlain version.chars) (hlf' : '\n' ∉ version'.chars)
    (hsame : field = other → version = version')
    (hset : patchReadme other version' content = content) :
    patchReadme other version' (patchHeader field version content) =
      patchHeader field version content := by
  rw [patchReadme_eq_self_iff hlf'] at hset ⊢
  have hlines : List.Forall₂ (fun l l' => l' = l ∨ headerLine? field version.chars l = some l')
      (lines content) (lines (patchHeader field version content)) := lines_patchHeader hvalue
  generalize lines content = ls at hset hlines
  generalize lines (patchHeader field version content) = ls' at hlines
  induction hlines with
  | nil => exact fun l hl => absurd hl List.not_mem_nil
  | @cons l l' ls ls' hl _ ih =>
      have hset' := hset l List.mem_cons_self
      refine List.forall_mem_cons.mpr ⟨?_, ih (fun l hl => hset l (List.mem_cons_of_mem _ hl))⟩
      rcases hl with rfl | hl
      · exact hset'
      · rw [setLine_eq_self_iff] at hset' ⊢
        exact readmeLine?_of_headerLine? hvalue (fun h => by rw [hsame h]) hl hset'

end header

/-- Sets a field in a readme or in a PHP file. -/
def patchIn (readme : Bool) (field : Requirement) (version : Version) (content : List Char) :
    List Char :=
  if readme then field.patchReadme version content else field.patchHeader version content

section patchIn
variable {readme : Bool} {field other : Requirement} {version version' : Version}
  {content : List Char}

theorem patchIn_set (hvalue : IsPlain version.chars) :
    patchIn readme field version (patchIn readme field version content) =
      patchIn readme field version content := by
  cases readme with
  | true => exact patchReadme_set (hvalue.not_mem (by decide)) (hvalue.not_mem (by decide))
  | false => exact patchHeader_set hvalue

theorem patchIn_comm (hvalue : IsPlain version.chars) (hvalue' : IsPlain version'.chars)
    (hne : field ≠ other) :
    patchIn readme field version (patchIn readme other version' content) =
      patchIn readme other version' (patchIn readme field version content) := by
  cases readme with
  | true =>
      exact patchReadme_comm (hvalue.not_mem (by decide)) (hvalue.not_mem (by decide))
        (hvalue'.not_mem (by decide)) (hvalue'.not_mem (by decide)) hne
  | false => exact patchHeader_comm hvalue hvalue' hne

end patchIn

end Requirement

/-! ### All fields -/

namespace Requirements

open Requirement

/-- All fields are set in a text. -/
def IsSet (readme : Bool) (fields : List (Requirement × Version)) (content : List Char) : Prop :=
  ∀ f ∈ fields, patchIn readme f.1 f.2 content = content

section patch
variable {readme : Bool} {content : List Char}

theorem patch_cons (f : Requirement × Version) (rest : List (Requirement × Version)) :
    (patch readme (f :: rest) content).1 =
      (patch readme rest (patchIn readme f.1 f.2 content)).1 := rfl

theorem patch_of_isSet : ∀ {fields : List (Requirement × Version)}, IsSet readme fields content →
    patch readme fields content = (content, [])
  | [], _ => rfl
  | f :: rest, h => by
      have hf : (if readme then f.1.patchReadme f.2 content else f.1.patchHeader f.2 content) =
          content := h f List.mem_cons_self
      unfold patch
      dsimp only
      rw [hf, patch_of_isSet (fun g hg => h g (List.mem_cons_of_mem _ hg)), if_pos rfl]

/-- A field that is set stays set while others are set. -/
theorem patchIn_patch {field : Requirement} {version : Version} (hvalue : IsPlain version.chars) :
    ∀ {fields : List (Requirement × Version)} {content : List Char},
      (∀ f ∈ fields, IsPlain f.2.chars ∧ f.1 ≠ field) →
        patchIn readme field version content = content →
          patchIn readme field version (patch readme fields content).1 =
            (patch readme fields content).1
  | [], _, _, hset => hset
  | f :: rest, content, h, hset => by
      rw [patch_cons]
      obtain ⟨hplain, hne⟩ := h f List.mem_cons_self
      refine patchIn_patch hvalue (fun g hg => h g (List.mem_cons_of_mem _ hg)) ?_
      rw [← patchIn_comm hplain hvalue hne, hset]

/-- **Fields that have been set are set.** -/
theorem isSet_patch : ∀ {fields : List (Requirement × Version)} {content : List Char},
    (∀ f ∈ fields, IsPlain f.2.chars) → fields.Pairwise (fun f g => f.1 ≠ g.1) →
      IsSet readme fields (patch readme fields content).1
  | [], _, _, _ => fun f hf => absurd hf List.not_mem_nil
  | f :: rest, content, hplain, hdistinct => by
      obtain ⟨hf, hrest⟩ := List.forall_mem_cons.mp hplain
      obtain ⟨hother, hdistinct⟩ := List.pairwise_cons.mp hdistinct
      rw [patch_cons]
      refine List.forall_mem_cons.mpr ⟨?_, isSet_patch hrest hdistinct⟩
      exact patchIn_patch hf (fun g hg => ⟨hrest g hg, (hother g hg).symm⟩) (patchIn_set hf)

theorem isSet_readme_patch {fields : List (Requirement × Version)}
    (hplain : ∀ f ∈ fields, IsPlain f.2.chars) :
    ∀ {others : List (Requirement × Version)} {content : List Char},
      (∀ g ∈ others, IsPlain g.2.chars ∧ ∀ f ∈ fields, g.1 = f.1 → g.2 = f.2) →
        IsSet true fields content → IsSet true fields (patch false others content).1
  | [], _, _, hset => hset
  | g :: rest, content, h, hset => by
      obtain ⟨hg, hsame⟩ := h g List.mem_cons_self
      rw [patch_cons]
      refine isSet_readme_patch hplain (fun g hg => h g (List.mem_cons_of_mem _ hg)) (fun f hf => ?_)
      exact patchReadme_patchHeader hg ((hplain f hf).not_mem (by decide)) (hsame f hf) (hset f hf)

end patch

end Requirements

end RequiredVersion
