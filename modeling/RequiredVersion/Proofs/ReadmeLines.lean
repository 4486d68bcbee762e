import RequiredVersion.Proofs.RequirementTexts

/-! # Fields of a readme

A readme declares a field on the lines that start with its key.  `SetsReadmeLine` says what becomes of
a line, apart from how it is computed, and `patchReadme_sets_lines` that setting a field does this on
every line of a text and nothing else.  What the version looks like does not matter, as long as it
stays on its line. -/

namespace RequiredVersion

/-- A version whose text stands on one line. -/
structure Version.OnOneLine (version : Version) : Prop where
  feed : '\n' ∉ version.chars
  carriage : '\r' ∉ version.chars

namespace Requirement

open Text

/-- A line starts with the key of a field and a colon, in any case. -/
def StartsWithKey (field : Requirement) (line : List Char) : Prop :=
  ∃ key rest, IsKey field key ∧ line = key ++ rest

/-- A line of a readme with a field set.  On a line of the field all that stands before the first
carriage return, or on the whole line if there is none, becomes the key as it is written here and the
value; any other line is kept. -/
inductive SetsReadmeLine (field : Requirement) (value : List Char) : List Char → List Char → Prop where
  | declared {key old ending : List Char} (hkey : IsKey field key) (hold : '\r' ∉ old)
      (hending : ∀ c, ending.head? = some c → c = '\r') :
      SetsReadmeLine field value (key ++ (old ++ ending))
        ((field.key ++ ": ").toList ++ (value ++ ending))
  | other {line : List Char} (h : ¬StartsWithKey field line) : SetsReadmeLine field value line line

theorem setsReadmeLine_setLine (field : Requirement) (value line : List Char) :
    SetsReadmeLine field value line (setLine (readmeLine? field value) line) := by
  unfold setLine
  cases hline : readmeLine? field value line with
  | none =>
      refine .other ?_
      rintro ⟨key, rest, hkey, htext⟩
      rw [readmeLine?_eq_some_iff.mpr ⟨key, rest, hkey, htext, rfl⟩] at hline
      cases hline
  | some line' =>
      obtain ⟨key, rest, hkey, rfl, rfl⟩ := readmeLine?_eq_some_iff.mp hline
      have hold : '\r' ∉ rest.takeWhile (· != '\r') := fun hmem =>
        absurd (List.mem_takeWhile_imp hmem) (by decide)
      have hending : ∀ c, (rest.dropWhile (· != '\r')).head? = some c → c = '\r' := fun c hc => by
        simpa using head?_dropWhile_eq (p := (· != '\r')) hc
      have hset : SetsReadmeLine field value
          (key ++ (rest.takeWhile (· != '\r') ++ rest.dropWhile (· != '\r')))
          ((field.key ++ ": ").toList ++ (value ++ rest.dropWhile (· != '\r'))) :=
        .declared hkey hold hending
      rw [List.takeWhile_append_dropWhile] at hset
      have hkeyChars : field.keyChars ++ [' '] = (field.key ++ ": ").toList := by
        cases field <;> decide
      rw [Option.getD_some, List.cons_append, ← List.singleton_append, ← List.append_assoc, hkeyChars]
      exact hset

/-- **Setting a field in a readme.**  The lines stay as many and are set one by one, whatever the
version looks like as long as it stays on its line.  The order in which two fields are set does not
matter. -/
theorem patchReadme_sets_lines (field : Requirement) (content : List Char) {version : Version}
    (hversion : version.OnOneLine) :
    List.Forall₂ (SetsReadmeLine field version.chars) (lines content)
        (lines (field.patchReadme version content)) ∧
      ∀ (other : Requirement) (version' : Version), field ≠ other → version'.OnOneLine →
        field.patchReadme version (other.patchReadme version' content) =
          other.patchReadme version' (field.patchReadme version content) := by
  constructor
  · rw [lines_patchReadme hversion.feed, List.forall₂_map_right_iff]
    exact List.forall₂_same.mpr (fun line _ => setsReadmeLine_setLine field version.chars line)
  · intro other version' hne hversion'
    exact patchReadme_comm hversion.feed hversion.carriage hversion'.feed hversion'.carriage hne

/-- A version that looks like a reference to a part of the match, set behind a key with a long s and
before a carriage return; a margin or a missing colon makes a line one without the field. -/
theorem patchReadme_sets_lines_dollar :
    let version : Version := ⟨[6, 5], some (.ofChars "$0 $1:".toList)⟩
    let other : Version := ⟨[8], some (.ofChars "requires at least: 1".toList)⟩
    let content := "Requireſ AT least:5\r6\n Requires at least: 5\nRequires PHP 7\nrequires php: 7".toList
    version.OnOneLine ∧ other.OnOneLine ∧
      List.Forall₂ (SetsReadmeLine wordpress version.chars) (lines content)
        ["Requires at least: 6.5-$0 $1:\r6".toList, " Requires at least: 5".toList,
          "Requires PHP 7".toList, "requires php: 7".toList] ∧
      wordpress.patchReadme version (php.patchReadme other content) =
        php.patchReadme other (wordpress.patchReadme version content) := by
  intro version other content
  have hversion : version.OnOneLine := ⟨by decide +kernel, by decide +kernel⟩
  have hother : other.OnOneLine := ⟨by decide +kernel, by decide +kernel⟩
  obtain ⟨hlines, hcomm⟩ := patchReadme_sets_lines wordpress content hversion
  have hset : lines (wordpress.patchReadme version content) =
      ["Requires at least: 6.5-$0 $1:\r6".toList, " Requires at least: 5".toList,
        "Requires PHP 7".toList, "requires php: 7".toList] := by
    decide +kernel
  rw [hset] at hlines
  exact ⟨hversion, hother, hlines, hcomm php other (by decide) hother⟩

end Requirement

end RequiredVersion
