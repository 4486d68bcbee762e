import RequiredVersion.Proofs.RequirementTexts
import RequiredVersion.Proofs.VersionText

/-! # Headers of PHP files

The header of a PHP file is its first block comment.  `IsFirstBlock` says by what occurs in a text
which part of it that is, and `isFirstBlock_iff` that a text is split there.

What setting a field does to a text is `patchHeader_sets_lines`: the header stays the header, only its
lines that declare the field change, and they get the version for their value. -/

namespace RequiredVersion

/-- A version that stands in a text as one value: neither white space nor a star ends it early. -/
structure Version.IsToken (version : Version) : Prop where
  parsed : ∃ text, Version.parse text = .ok version
  text : ∀ c ∈ version.chars, Text.isBlank c = false ∧ c ≠ '*'

theorem Version.IsToken.isPlain {version : Version} (h : version.IsToken) :
    Requirement.IsPlain version.chars := by
  obtain ⟨text, hparse⟩ := h.parsed
  exact ⟨chars_ne_nil (written_of_ofChars? (parse_eq_ok_iff.mp hparse)), fun c hc => (h.text c hc).1,
    fun hc => (h.text '*' hc).2 rfl⟩

namespace Requirement

open Text

/-! ### The first block comment -/

section splitBefore
variable {a b : Char}

theorem splitBefore?_eq_none_iff : ∀ {cs : List Char},
    splitBefore? a b cs = none ↔ ¬[a, b] <:+: cs
  | [] => by simp [splitBefore?]
  | [x] => by simp [splitBefore?, List.infix_cons_iff]
  | x :: y :: cs => by
      have hhead : [a, b] <+: x :: y :: cs ↔ x = a ∧ y = b := by
        simp [List.cons_prefix_cons, eq_comm]
      rw [splitBefore?, List.infix_cons_iff, hhead, not_or, ← splitBefore?_eq_none_iff]
      split
      · next h => simp [h]
      · next h => simp [h]

theorem exists_splitBefore? {cs : List Char} (h : [a, b] <:+: cs) :
    ∃ before rest, splitBefore? a b cs = some (before, a :: b :: rest) := by
  cases hsplit : splitBefore? a b cs with
  | none => exact absurd h (splitBefore?_eq_none_iff.mp hsplit)
  | some split =>
      obtain ⟨before, _⟩ := split
      obtain ⟨_, ⟨rest, rfl⟩, _⟩ := splitBefore?_eq hsplit
      exact ⟨before, rest, rfl⟩

/-- What stands behind some occurrence stands behind the first one. -/
theorem suffix_of_splitBefore? (hab : a ≠ b) {front back before rest : List Char}
    (h : splitBefore? a b (front ++ a :: b :: back) = some (before, a :: b :: rest)) :
    back <:+ rest := by
  cases hfront : splitBefore? a b front with
  | none =>
      rw [splitBefore?_append_cons_cons hab hfront] at h
      cases h
      exact List.suffix_rfl
  | some split =>
      obtain ⟨before', _⟩ := split
      obtain ⟨_, ⟨rest', rfl⟩, _⟩ := splitBefore?_eq hfront
      rw [splitBefore?_append_of_some hfront] at h
      cases h
      exact ⟨rest' ++ [a, b], by simp⟩

end splitBefore

/-- A text has a block comment. -/
def HasBlock (content : List Char) : Prop :=
  ∃ before inner after, content = before ++ ('/' :: '*' :: (inner ++ '*' :: '/' :: after))

/-- A part of a text is the first block comment in it: no comment starts before it, and it ends at the
first end of a comment behind its start. -/
structure IsFirstBlock (content before block after : List Char) : Prop where
  text : content = before ++ (block ++ after)
  opening : ¬['/', '*'] <:+: before
  closing : ∃ inner, block = '/' :: '*' :: (inner ++ ['*', '/']) ∧ ¬['*', '/'] <:+: inner

theorem isBlock_iff {block : List Char} :
    IsBlock block ↔
      ∃ inner, block = '/' :: '*' :: (inner ++ ['*', '/']) ∧ ¬['*', '/'] <:+: inner := by
  constructor
  · rintro ⟨rest, rfl, hend⟩
    obtain ⟨⟨inner, close⟩, hsplit, rfl⟩ := Option.map_eq_some_iff.mp hend
    obtain ⟨rfl, _, hnone⟩ := splitBefore?_eq hsplit
    exact ⟨inner, rfl, splitBefore?_eq_none_iff.mp hnone⟩
  · rintro ⟨inner, rfl, hinner⟩
    refine ⟨inner ++ ['*', '/'], rfl, ?_⟩
    rw [fromEnd?, splitBefore?_append_cons_cons (by decide) (splitBefore?_eq_none_iff.mpr hinner)]
    rfl

theorem isFirstBlock_iff {content before block after : List Char} :
    IsFirstBlock content before block after ↔ splitHeader? content = some (before, block, after) := by
  rw [splitHeader?_eq_some_iff, splitBefore?_eq_none_iff, isBlock_iff]
  exact ⟨fun h => ⟨h.text, h.opening, h.closing⟩, fun h => ⟨h.1, h.2.1, h.2.2⟩⟩

theorem HasBlock.exists_first {content : List Char} (h : HasBlock content) :
    ∃ before block after, IsFirstBlock content before block after := by
  obtain ⟨front, inner, back, rfl⟩ := h
  have hstart : ['/', '*'] <:+: front ++ '/' :: '*' :: (inner ++ '*' :: '/' :: back) :=
    ⟨front, inner ++ '*' :: '/' :: back, by simp⟩
  have hend : ['*', '/'] <:+: inner ++ '*' :: '/' :: back := ⟨inner, back, by simp⟩
  obtain ⟨before, rest, hopen⟩ := exists_splitBefore? hstart
  obtain ⟨inner', after, hclose⟩ :=
    exists_splitBefore? (hend.trans (suffix_of_splitBefore? (by decide) hopen).isInfix)
  obtain ⟨hcontent, _, hbefore⟩ := splitBefore?_eq hopen
  obtain ⟨rfl, _, hinner⟩ := splitBefore?_eq hclose
  refine ⟨before, '/' :: '*' :: (inner' ++ ['*', '/']), after, ?_,
    splitBefore?_eq_none_iff.mp hbefore, inner', rfl, splitBefore?_eq_none_iff.mp hinner⟩
  rw [hcontent]
  simp

theorem IsFirstBlock.hasBlock {content before block after : List Char}
    (h : IsFirstBlock content before block after) : HasBlock content := by
  obtain ⟨inner, rfl, _⟩ := h.closing
  exact ⟨before, inner, after, by rw [h.text]; simp⟩

theorem splitHeader?_eq_none_of_not_hasBlock {content : List Char} (h : ¬HasBlock content) :
    splitHeader? content = none := by
  rw [Option.eq_none_iff_forall_not_mem]
  rintro ⟨before, block, after⟩ hsplit
  exact h (isFirstBlock_iff.mpr hsplit).hasBlock

/-! ### The lines of a header -/

/-- A line declares a field: behind its margin stands the key, in any case, and then the rest. -/
def Declares (field : Requirement) (line margin key rest : List Char) : Prop :=
  IsMargin margin ∧ IsKey field key ∧ line = margin ++ (key ++ rest)

/-- The value behind a key: it starts behind tabs and spaces and ends at white space or a star. -/
def token (rest : List Char) : List Char :=
  (rest.dropWhile isTabOrSpace).takeWhile (fun c => !isBlank c && c != '*')

theorem token_plain {value rest : List Char} (h : IsPlain value)
    (hrest : ∀ c, rest.head? = some c → (!isBlank c && c != '*') = false) :
    token (' ' :: value ++ rest) = value := by
  rw [token, h.dropWhile_space, takeWhile_append_of_head h.inside hrest]

/-- A line with a field set: if it declares the field, its margin, its key and what stands behind the
value are kept and the value is the new one; if it does not, it is kept. -/
def SetsLine (field : Requirement) (value line line' : List Char) : Prop :=
  (∀ margin key rest, Declares field line margin key rest →
    Declares field line' margin key (' ' :: value ++ afterValue rest) ∧
      token (' ' :: value ++ afterValue rest) = value) ∧
  ((∀ margin key rest, ¬Declares field line margin key rest) → line' = line)

theorem setsLine_setLine {field : Requirement} {value : List Char} (h : IsPlain value)
    (line : List Char) : SetsLine field value line (setLine (headerLine? field value) line) := by
  constructor
  · rintro margin key rest ⟨hmargin, hkey, hline⟩
    have hset : headerLine? field value line =
        some (margin ++ (key ++ (' ' :: value ++ afterValue rest))) :=
      headerLine?_eq_some_iff.mpr ⟨margin, key, rest, hmargin, hkey, hline, rfl⟩
    refine ⟨⟨hmargin, hkey, ?_⟩, token_plain h (fun c hc => head_afterValue hc)⟩
    rw [setLine, hset, Option.getD_some]
  · intro hnone
    refine setLine_eq_self_iff.mpr (fun line' hset => ?_)
    obtain ⟨margin, key, rest, hmargin, hkey, hline, _⟩ := headerLine?_eq_some_iff.mp hset
    exact absurd ⟨hmargin, hkey, hline⟩ (hnone margin key rest)

/-! ### Setting fields -/

section patchHeader
variable {version : Version} {content : List Char}

/-- The header with a field set is the header, line by line. -/
theorem IsFirstBlock.patchHeader {before block after : List Char}
    (h : IsFirstBlock content before block after) (field : Requirement)
    (hvalue : IsPlain version.chars) :
    ∃ block', IsFirstBlock (field.patchHeader version content) before block' after ∧
      List.Forall₂ (SetsLine field version.chars) (lines block) (lines block') := by
  have hlf : '\n' ∉ version.chars := hvalue.not_mem (by decide)
  refine ⟨_, isFirstBlock_iff.mpr (splitHeader?_patchHeader hvalue (isFirstBlock_iff.mp h)), ?_⟩
  rw [lines_mapLines (not_mem_set_headerLine? hlf), List.forall₂_map_right_iff]
  exact List.forall₂_same.mpr (fun line _ => setsLine_setLine hvalue line)

/-- **Setting a field in a header.**  A text without a block comment stays as it is.  In any other
text only the first block comment changes, and it stays the first block comment; its lines stay as
many and are set one by one.  The order in which two fields are set does not matter. -/
theorem patchHeader_sets_lines (field : Requirement) (content : List Char) {version : Version}
    (hversion : version.IsToken) :
    (¬HasBlock content → field.patchHeader version content = content) ∧
      (HasBlock content → ∃ before block after block',
        IsFirstBlock content before block after ∧
          IsFirstBlock (field.patchHeader version content) before block' after ∧
          List.Forall₂ (SetsLine field version.chars) (lines block) (lines block')) ∧
      ∀ (other : Requirement) (version' : Version), field ≠ other → version'.IsToken →
        field.patchHeader version (other.patchHeader version' content) =
          other.patchHeader version' (field.patchHeader version content) := by
  refine ⟨fun hnone => ?_, fun hsome => ?_, fun other version' hne hversion' => ?_⟩
  · exact patchHeader_of_none (splitHeader?_eq_none_of_not_hasBlock hnone)
  · obtain ⟨before, block, after, hfirst⟩ := hsome.exists_first
    obtain ⟨block', hfirst', hlines⟩ := hfirst.patchHeader field hversion.isPlain
    exact ⟨before, block, after, block', hfirst, hfirst', hlines⟩
  · exact patchHeader_comm hversion.isPlain hversion'.isPlain hne

/-- A value with a slash before the end of a comment, behind a key with a long s: the slash starts no
comment and the end stays where it is. -/
theorem patchHeader_sets_lines_slash :
    let version : Version := ⟨[6, 5], some (.ofChars ['a', '/'])⟩
    let content := "//*\n * requireſ at least:\t5.0*/\nRequires at least: 4 */".toList
    version.IsToken ∧ HasBlock content ∧
      IsFirstBlock (wordpress.patchHeader version content) ['/']
        "/*\n * requireſ at least: 6.5-a/*/".toList "\nRequires at least: 4 */".toList ∧
      wordpress.patchHeader version (php.patchHeader version content) =
        php.patchHeader version (wordpress.patchHeader version content) := by
  intro version content
  have hplain : version.chars.all (fun c => !isBlank c && c != '*') = true := by decide +kernel
  have hversion : version.IsToken :=
    ⟨⟨"6.5-a/", by decide +kernel⟩, fun c hc => by simpa using List.all_eq_true.mp hplain c hc⟩
  have hblock : HasBlock content :=
    ⟨['/'], "\n * requireſ at least:\t5.0".toList, "\nRequires at least: 4 */".toList, by decide⟩
  obtain ⟨_, hset, hcomm⟩ := patchHeader_sets_lines wordpress content hversion
  obtain ⟨before, block, after, block', _, hfirst, _⟩ := hset hblock
  refine ⟨hversion, hblock, ?_, hcomm php version (by decide) hversion⟩
  have hsplit : splitHeader? (wordpress.patchHeader version content) = some (['/'],
      "/*\n * requireſ at least: 6.5-a/*/".toList, "\nRequires at least: 4 */".toList) := by
    decide +kernel
  cases (isFirstBlock_iff.mp hfirst).symm.trans hsplit
  exact hfirst

end patchHeader

end Requirement

end RequiredVersion
