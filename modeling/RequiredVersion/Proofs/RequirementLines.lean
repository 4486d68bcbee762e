import Mathlib.Data.List.TakeWhile
import RequiredVersion.Proofs.Text
import RequiredVersion.Requirement.Field

/-! # Lines that declare requirements

What setting a field does to one line.  `headerLine?_eq_some_iff` and `readmeLine?_eq_some_iff` say
which lines declare a field and what becomes of them: the key is found in any case, and a line
declares one field at most (`eq_of_headerLine?`, `eq_of_readmeLine?`).

A plain value, one without blanks and stars, is found again in the line that it was set on: setting a
field twice is setting it once (`headerLine?_set`), and the end of a comment does not move
(`fromEnd?_headerLine?`). -/

namespace RequiredVersion

namespace Text

/-! ### Keys in any case -/

theorem splitFolded?_eq_some_iff : ∀ {start text front rest : List Char},
    splitFolded? start text = some (front, rest) ↔
      text = front ++ rest ∧ front.map foldCase = start.map foldCase
  | [], text, front, rest => by
      rw [splitFolded?, Option.some.injEq, Prod.mk.injEq]
      constructor
      · rintro ⟨rfl, rfl⟩
        exact ⟨rfl, rfl⟩
      · rintro ⟨htext, hfront⟩
        obtain rfl := List.map_eq_nil_iff.mp hfront
        exact ⟨rfl, htext⟩
  | p :: ps, [], front, rest => by
      rw [splitFolded?]
      constructor
      · intro h
        cases h
      · rintro ⟨htext, hfront⟩
        obtain ⟨rfl, _⟩ := List.append_eq_nil_iff.mp htext.symm
        cases hfront
  | p :: ps, c :: cs, front, rest => by
      rw [splitFolded?]
      by_cases hc : foldCase p = foldCase c
      · rw [if_pos hc, Option.map_eq_some_iff]
        constructor
        · rintro ⟨⟨front', rest'⟩, hsplit, heq⟩
          cases heq
          obtain ⟨rfl, hfront⟩ := splitFolded?_eq_some_iff.mp hsplit
          exact ⟨rfl, by rw [List.map_cons, List.map_cons, hfront, hc]⟩
        · rintro ⟨htext, hfront⟩
          cases front with
          | nil => cases hfront
          | cons d ds =>
              rw [List.cons_append, List.cons.injEq] at htext
              obtain ⟨rfl, htext⟩ := htext
              rw [List.map_cons, List.map_cons, List.cons.injEq] at hfront
              exact ⟨(ds, rest), splitFolded?_eq_some_iff.mpr ⟨htext, hfront.2⟩, rfl⟩
      · rw [if_neg hc]
        constructor
        · intro h
          cases h
        · rintro ⟨htext, hfront⟩
          cases front with
          | nil => cases hfront
          | cons d ds =>
              rw [List.cons_append, List.cons.injEq] at htext
              rw [List.map_cons, List.map_cons, List.cons.injEq] at hfront
              exact absurd (by rw [htext.1]; exact hfront.1.symm) hc

/-! ### Lines -/

theorem lines_ne_nil (cs : List Char) : lines cs ≠ [] := splitAt_ne_nil '\n' cs

theorem not_mem_lines {cs line : List Char} (h : line ∈ lines cs) : '\n' ∉ line :=
  not_mem_of_mem_splitAt '\n' h

theorem unlines_lines (cs : List Char) : unlines (lines cs) = cs := by
  rw [lines, splitAt_eq_splitOn]
  exact List.intercalate_splitOn '\n'

theorem lines_unlines {ls : List (List Char)} (hne : ls ≠ []) (h : ∀ l ∈ ls, '\n' ∉ l) :
    lines (unlines ls) = ls :=
  splitAt_intercalate hne h

/-- A text with each of its lines changed. -/
def mapLines (f : List Char → List Char) (cs : List Char) : List Char := unlines ((lines cs).map f)

/-- A line as it is changed, if it is changed. -/
def setLine (f : List Char → Option (List Char)) (line : List Char) : List Char := (f line).getD line

section setLine
variable {f g : List Char → Option (List Char)}

theorem setLine_eq_self_iff {line : List Char} :
    setLine f line = line ↔ ∀ line', f line = some line' → line' = line := by
  unfold setLine
  cases f line <;> simp

/-- A changed line is not changed again, if all that is changed stays as it is then. -/
theorem setLine_setLine (h : ∀ line line', f line = some line' → f line' = some line')
    (line : List Char) : setLine f (setLine f line) = setLine f line := by
  cases hline : f line with
  | none => rw [setLine, setLine, hline, Option.getD_none, hline, Option.getD_none]
  | some line' => rw [setLine, setLine, hline, Option.getD_some, h line line' hline, Option.getD_some]

/-- Nor is it changed by something that changes other lines only. -/
theorem setLine_setLine_of_disjoint (h : ∀ line line', f line = some line' → f line' = some line')
    (hdisjoint : ∀ line x y, f line = some x → g line ≠ some y) {line : List Char}
    (hline : setLine g line = line) : setLine g (setLine f line) = setLine f line := by
  cases hf : f line with
  | none => rwa [setLine.eq_1 f, hf, Option.getD_none]
  | some line' =>
      rw [setLine.eq_1 f, hf, Option.getD_some, setLine_eq_self_iff]
      intro line'' hg
      exact absurd hg (hdisjoint line' line' line'' (h line line' hf))

theorem setLine_comm (hf : ∀ line line', f line = some line' → f line' = some line')
    (hg : ∀ line line', g line = some line' → g line' = some line')
    (hdisjoint : ∀ line x y, f line = some x → g line ≠ some y) (line : List Char) :
    setLine f (setLine g line) = setLine g (setLine f line) := by
  cases hline : f line with
  | none =>
      have hself : setLine f line = line := by rw [setLine, hline, Option.getD_none]
      rw [hself, setLine_setLine_of_disjoint hg (fun line x y hx hy => hdisjoint line y x hy hx) hself]
  | some line' =>
      have hself : setLine g line = line :=
        setLine_eq_self_iff.mpr (fun x hx => absurd hx (hdisjoint line line' x hline))
      rw [hself, setLine_setLine_of_disjoint hf hdisjoint hself]

end setLine

section mapLines
variable {f g : List Char → List Char}

theorem lines_mapLines (hf : ∀ line, '\n' ∉ line → '\n' ∉ f line) (cs : List Char) :
    lines (mapLines f cs) = (lines cs).map f := by
  refine lines_unlines ?_ ?_
  · rw [ne_eq, List.map_eq_nil_iff]
    exact lines_ne_nil cs
  · intro l hl
    obtain ⟨line, hline, rfl⟩ := List.mem_map.mp hl
    exact hf line (not_mem_lines hline)

theorem mapLines_eq_self_iff (hf : ∀ line, '\n' ∉ line → '\n' ∉ f line) {cs : List Char} :
    mapLines f cs = cs ↔ ∀ line ∈ lines cs, f line = line := by
  constructor
  · intro h
    have hmap : (lines cs).map f = (lines cs).map id := by
      rw [← lines_mapLines hf, h, List.map_id]
    exact List.map_inj_left.mp hmap
  · intro h
    have hmap : (lines cs).map f = (lines cs).map id := List.map_inj_left.mpr h
    rw [mapLines, hmap, List.map_id, unlines_lines]

theorem mapLines_mapLines (hg : ∀ line, '\n' ∉ line → '\n' ∉ g line) (cs : List Char) :
    mapLines f (mapLines g cs) = mapLines (f ∘ g) cs := by
  rw [mapLines.eq_1 f, lines_mapLines hg, List.map_map, mapLines]

theorem mapLines_comm (hf : ∀ line, '\n' ∉ line → '\n' ∉ f line)
    (hg : ∀ line, '\n' ∉ line → '\n' ∉ g line) (h : ∀ line, f (g line) = g (f line))
    (cs : List Char) : mapLines f (mapLines g cs) = mapLines g (mapLines f cs) := by
  have hcomp : f ∘ g = g ∘ f := funext h
  rw [mapLines_mapLines hg, mapLines_mapLines hf, hcomp]

end mapLines

end Text

namespace Requirement

open Text

variable {field other : Requirement} {value line line' : List Char}

/-! ### Keys -/

/-- A text that is the key of a field in any case, with the colon. -/
def IsKey (field : Requirement) (key : List Char) : Prop :=
  key.map foldCase = field.keyChars.map foldCase

theorem splitFolded?_key {text key rest : List Char} :
    splitFolded? field.keyChars text = some (key, rest) ↔ text = key ++ rest ∧ IsKey field key :=
  splitFolded?_eq_some_iff

theorem isKey_keyChars (field : Requirement) : IsKey field field.keyChars := rfl

/-- No character that stays as it is in any case stands in a key, unless it is one of the key. -/
theorem IsKey.not_mem {key : List Char} (h : IsKey field key) {c : Char}
    (hc : foldCase c ∉ field.keyChars.map foldCase) : c ∉ key := by
  intro hmem
  rw [← h] at hc
  exact hc (List.mem_map_of_mem hmem)

theorem IsKey.head {key : List Char} (h : IsKey field key) :
    ∃ c rest, key = c :: rest ∧ foldCase c = 'r' := by
  cases key with
  | nil => cases field <;> cases h
  | cons c rest =>
      refine ⟨c, rest, rfl, ?_⟩
      have hhead := congrArg List.head? h
      cases field <;> exact Option.some.inj hhead

theorem eq_of_isKey {key key' rest rest' : List Char} (h : IsKey field key) (h' : IsKey other key')
    (heq : key ++ rest = key' ++ rest') : field = other := by
  have hfield : field.keyChars.map foldCase <+: (key ++ rest).map foldCase := by
    rw [← h, List.map_append]
    exact List.prefix_append _ _
  have hother : other.keyChars.map foldCase <+: (key ++ rest).map foldCase := by
    rw [heq, ← h', List.map_append]
    exact List.prefix_append _ _
  rcases List.prefix_or_prefix_of_prefix hfield hother with hshort | hshort
  · revert hshort
    cases field <;> cases other <;> decide
  · revert hshort
    cases field <;> cases other <;> decide

/-! ### Margins -/

/-- Blanks, perhaps with one star among them. -/
def IsMargin (margin : List Char) : Prop :=
  (∀ c ∈ margin, isTabOrSpace c = true) ∨
    ∃ front back, margin = front ++ '*' :: back ∧ (∀ c ∈ front, isTabOrSpace c = true) ∧
      ∀ c ∈ back, isTabOrSpace c = true

theorem IsMargin.head {c : Char} {cs : List Char} (h : IsMargin (c :: cs)) :
    isTabOrSpace c = true ∨ c = '*' := by
  rcases h with hblank | ⟨front, back, heq, hfront, _⟩
  · exact .inl (hblank c List.mem_cons_self)
  · cases front with
    | nil => exact .inr (List.cons.inj heq).1
    | cons f fs =>
        rw [(List.cons.inj heq).1]
        exact .inl (hfront f List.mem_cons_self)

/-- A text that cannot be part of a margin. -/
def OffMargin (text : List Char) : Prop :=
  ∀ c, text.head? = some c → isTabOrSpace c = false ∧ c ≠ '*'

theorem IsKey.offMargin {key : List Char} (h : IsKey field key) (rest : List Char) :
    OffMargin (key ++ rest) := by
  obtain ⟨c, cs, rfl, hc⟩ := h.head
  intro d hd
  obtain rfl : c = d := Option.some.inj hd
  constructor
  · rw [isTabOrSpace, Bool.or_eq_false_iff, beq_eq_false_iff_ne, beq_eq_false_iff_ne]
    constructor <;> rintro rfl <;> exact absurd hc (by decide)
  · rintro rfl
    exact absurd hc (by decide)

theorem splitMargin_append {margin rest : List Char} (hmargin : IsMargin margin)
    (hrest : OffMargin rest) : splitMargin (margin ++ rest) = (margin, rest) := by
  have hhead : ∀ c, rest.head? = some c → isTabOrSpace c = false := fun c hc => (hrest c hc).1
  unfold splitMargin
  dsimp only
  rcases hmargin with hblank | ⟨front, back, rfl, hfront, hback⟩
  · rw [takeWhile_append_of_head hblank hhead, dropWhile_append_of_head hblank hhead]
    split
    · exact absurd rfl (hrest '*' rfl).2
    · rfl
  · have hstar : ∀ c, ('*' :: (back ++ rest)).head? = some c → isTabOrSpace c = false := by
      intro c hc
      obtain rfl := Option.some.inj hc
      rfl
    rw [List.append_assoc, List.cons_append, takeWhile_append_of_head hfront hstar,
      dropWhile_append_of_head hfront hstar]
    simp only [takeWhile_append_of_head hback hhead, dropWhile_append_of_head hback hhead]

theorem splitMargin_eq {margin rest : List Char} (h : splitMargin line = (margin, rest)) :
    line = margin ++ rest ∧ IsMargin margin := by
  have hblank : ∀ (cs : List Char), ∀ c ∈ cs.takeWhile isTabOrSpace, isTabOrSpace c = true :=
    fun cs c hc => List.mem_takeWhile_imp hc
  have happend := List.takeWhile_append_dropWhile (p := isTabOrSpace) (l := line)
  unfold splitMargin at h
  dsimp only at h
  split at h
  · next more hmore =>
      cases h
      refine ⟨?_, .inr ⟨_, _, rfl, hblank line, hblank more⟩⟩
      rw [List.append_assoc, List.cons_append, List.takeWhile_append_dropWhile, ← hmore, happend]
  · cases h
    exact ⟨happend.symm, .inl (hblank line)⟩

/-! ### Header lines -/

/-- The lines of a header that declare a field, and the line with the field set. -/
theorem headerLine?_eq_some_iff :
    headerLine? field value line = some line' ↔
      ∃ margin key rest, IsMargin margin ∧ IsKey field key ∧ line = margin ++ (key ++ rest) ∧
        line' = margin ++ (key ++ (' ' :: value ++ afterValue rest)) := by
  unfold headerLine?
  constructor
  · intro h
    rcases hsplit : splitMargin line with ⟨margin, more⟩
    rw [hsplit] at h
    obtain ⟨⟨key, rest⟩, hmore, rfl⟩ := Option.map_eq_some_iff.mp h
    obtain ⟨hline, hmargin⟩ := splitMargin_eq hsplit
    obtain ⟨rfl, hkey⟩ := splitFolded?_key.mp hmore
    refine ⟨margin, key, rest, hmargin, hkey, hline, ?_⟩
    simp only [List.append_assoc, List.cons_append]
  · rintro ⟨margin, key, rest, hmargin, hkey, rfl, rfl⟩
    rw [splitMargin_append hmargin (hkey.offMargin rest)]
    dsimp only
    rw [splitFolded?_key.mpr ⟨rfl, hkey⟩]
    simp only [Option.map_some, List.append_assoc, List.cons_append]

theorem eq_of_headerLine? {value' line'' : List Char} (h : headerLine? field value line = some line')
    (h' : headerLine? other value' line = some line'') : field = other := by
  unfold headerLine? at h h'
  obtain ⟨⟨key, rest⟩, hsplit, _⟩ := Option.map_eq_some_iff.mp h
  obtain ⟨⟨key', rest'⟩, hsplit', _⟩ := Option.map_eq_some_iff.mp h'
  obtain ⟨htext, hkey⟩ := splitFolded?_key.mp hsplit
  obtain ⟨htext', hkey'⟩ := splitFolded?_key.mp hsplit'
  exact eq_of_isKey hkey hkey' (htext.symm.trans htext')

/-! ### Plain values -/

/-- A value without blanks and stars. -/
structure IsPlain (value : List Char) : Prop where
  ne_nil : value ≠ []
  blank : ∀ c ∈ value, isBlank c = false
  star : '*' ∉ value

namespace IsPlain

theorem not_mem (h : IsPlain value) {c : Char} (hc : isBlank c = true) : c ∉ value := fun hmem => by
  rw [h.blank c hmem] at hc
  cases hc

theorem isTabOrSpace_head (h : IsPlain value) {rest : List Char} {c : Char}
    (hc : (value ++ rest).head? = some c) : isTabOrSpace c = false := by
  obtain ⟨d, ds, rfl⟩ := List.exists_cons_of_ne_nil h.ne_nil
  obtain rfl : d = c := Option.some.inj hc
  rw [isTabOrSpace, Bool.or_eq_false_iff, beq_eq_false_iff_ne, beq_eq_false_iff_ne]
  constructor
  · rintro rfl
    exact h.not_mem (by decide) List.mem_cons_self
  · rintro rfl
    exact h.not_mem (by decide) List.mem_cons_self

theorem inside (h : IsPlain value) : ∀ c ∈ value, (!isBlank c && c != '*') = true := by
  intro c hc
  have hstar : c ≠ '*' := fun e => h.star (e ▸ hc)
  simp [h.blank c hc, hstar]

theorem dropWhile_space (h : IsPlain value) (rest : List Char) :
    (' ' :: value ++ rest).dropWhile isTabOrSpace = value ++ rest := by
  rw [List.cons_append, List.dropWhile_cons_of_pos (by decide),
    dropWhile_of_head (fun c hc => h.isTabOrSpace_head hc)]

end IsPlain

theorem head_afterValue {rest : List Char} {c : Char} (h : (afterValue rest).head? = some c) :
    (!isBlank c && c != '*') = false :=
  head?_dropWhile_eq h

theorem afterValue_plain (h : IsPlain value) {rest : List Char}
    (hrest : ∀ c, rest.head? = some c → (!isBlank c && c != '*') = false) :
    afterValue (' ' :: value ++ rest) = rest := by
  rw [afterValue, h.dropWhile_space, dropWhile_append_of_head h.inside hrest]

theorem headerLine?_set (h : IsPlain value) (hline : headerLine? field value line = some line') :
    headerLine? field value line' = some line' := by
  obtain ⟨margin, key, rest, hmargin, hkey, _, rfl⟩ := headerLine?_eq_some_iff.mp hline
  refine headerLine?_eq_some_iff.mpr ⟨margin, key, _, hmargin, hkey, rfl, ?_⟩
  rw [afterValue_plain h (fun c hc => head_afterValue hc)]

/-! ### Readme lines -/

/-- The lines of a readme that declare a field, and the line with the field set. -/
theorem readmeLine?_eq_some_iff :
    readmeLine? field value line = some line' ↔
      ∃ key rest, IsKey field key ∧ line = key ++ rest ∧
        line' = field.keyChars ++ (' ' :: value ++ rest.dropWhile (· != '\r')) := by
  unfold readmeLine?
  constructor
  · intro h
    obtain ⟨⟨key, rest⟩, hsplit, rfl⟩ := Option.map_eq_some_iff.mp h
    obtain ⟨rfl, hkey⟩ := splitFolded?_key.mp hsplit
    exact ⟨key, rest, hkey, rfl, by simp only [List.append_assoc, List.cons_append]⟩
  · rintro ⟨key, rest, hkey, rfl, rfl⟩
    rw [splitFolded?_key.mpr ⟨rfl, hkey⟩]
    simp only [Option.map_some, List.append_assoc, List.cons_append]

theorem eq_of_readmeLine? {value' line'' : List Char} (h : readmeLine? field value line = some line')
    (h' : readmeLine? other value' line = some line'') : field = other := by
  obtain ⟨key, rest, hkey, htext, _⟩ := readmeLine?_eq_some_iff.mp h
  obtain ⟨key', rest', hkey', htext', _⟩ := readmeLine?_eq_some_iff.mp h'
  exact eq_of_isKey hkey hkey' (htext.symm.trans htext')

theorem dropWhile_value (hvalue : '\r' ∉ value) {rest : List Char}
    (hrest : ∀ c, rest.head? = some c → (c != '\r') = false) :
    (' ' :: value ++ rest).dropWhile (· != '\r') = rest := by
  refine dropWhile_append_of_head (fun c hc => ?_) hrest
  rcases List.mem_cons.mp hc with rfl | hc
  · decide
  · exact bne_iff_ne.mpr (fun e => hvalue (e ▸ hc))

theorem readmeLine?_set (hvalue : '\r' ∉ value) (hline : readmeLine? field value line = some line') :
    readmeLine? field value line' = some line' := by
  obtain ⟨key, rest, _, _, rfl⟩ := readmeLine?_eq_some_iff.mp hline
  refine readmeLine?_eq_some_iff.mpr ⟨_, _, isKey_keyChars field, rfl, ?_⟩
  have hhead : ∀ c, (rest.dropWhile (· != '\r')).head? = some c → (c != '\r') = false :=
    fun c hc => head?_dropWhile_eq (p := (· != '\r')) hc
  rw [dropWhile_value hvalue hhead]

/-- A line of a header stays as it is in a readme, if its field is set there: it declares the field
only without a margin, and then it is set in both ways. -/
theorem readmeLine?_of_headerLine? {value' : List Char} (h : IsPlain value)
    (hsame : field = other → value = value') (hline : headerLine? field value line = some line')
    (hset : ∀ x, readmeLine? other value' line = some x → x = line) (x : List Char)
    (hx : readmeLine? other value' line' = some x) : x = line' := by
  obtain ⟨margin, key, rest, hmargin, hkey, rfl, rfl⟩ := headerLine?_eq_some_iff.mp hline
  obtain ⟨key', rest', hkey', htext, _⟩ := readmeLine?_eq_some_iff.mp hx
  have hempty : margin = [] := by
    cases margin with
    | nil => rfl
    | cons c cs =>
        have hoff := hkey'.offMargin rest'
        rw [← htext] at hoff
        obtain ⟨hblank, hstar⟩ := hoff c rfl
        rcases hmargin.head with h | h
        · rw [h] at hblank
          cases hblank
        · exact absurd h hstar
  subst hempty
  simp only [List.nil_append] at htext hset hx ⊢
  obtain rfl := eq_of_isKey hkey hkey' htext
  obtain rfl := hsame rfl
  -- the line was set already, so that nothing has changed
  have hold := hset _ (readmeLine?_eq_some_iff.mpr ⟨key, rest, hkey, rfl, rfl⟩)
  have hlength : field.keyChars.length = key.length := by
    have := congrArg List.length hkey
    rw [List.length_map, List.length_map] at this
    exact this.symm
  obtain ⟨hkeyChars, hrest⟩ := List.append_inj hold hlength
  have hblank : ∀ c, (rest.dropWhile (· != '\r')).head? = some c →
      (!isBlank c && c != '*') = false := by
    intro c hc
    have hcr : c = '\r' := by simpa using head?_dropWhile_eq hc
    subst hcr
    decide
  have hafter : afterValue rest = rest.dropWhile (· != '\r') := by
    have hplain := afterValue_plain h hblank
    rwa [hrest] at hplain
  rw [hafter, hrest] at hx ⊢
  exact hset x hx

/-! ### Ends of comments -/

section splitBefore
variable {a b : Char}

theorem splitBefore?_append_of_none : ∀ {front : List Char}, splitBefore? a b front = none →
    ∀ rest : List Char, (front.getLast? = some a → rest.head? ≠ some b) →
      splitBefore? a b (front ++ rest) = (splitBefore? a b rest).map (fun r => (front ++ r.1, r.2))
  | [], _, rest, _ => by
      rw [List.nil_append]
      exact Option.map_id'.symm
  | [x], _, rest, hjoint => by
      cases rest with
      | nil => rfl
      | cons y rest =>
          have hnot : ¬(x = a ∧ y = b) := by
            rintro ⟨rfl, rfl⟩
            exact hjoint rfl rfl
          rw [List.singleton_append, splitBefore?, if_neg hnot]
          rfl
  | x :: y :: front, h, rest, hjoint => by
      rw [splitBefore?] at h
      split at h
      · cases h
      · next hnot =>
          have hfront : splitBefore? a b (y :: front) = none := Option.map_eq_none_iff.mp h
          have hrest := splitBefore?_append_of_none hfront rest hjoint
          rw [List.cons_append, List.cons_append, splitBefore?, if_neg hnot]
          rw [List.cons_append] at hrest
          rw [hrest, Option.map_map]
          rfl

theorem splitBefore?_append_of_some : ∀ {front before after : List Char},
    splitBefore? a b front = some (before, after) → ∀ rest : List Char,
      splitBefore? a b (front ++ rest) = some (before, after ++ rest)
  | [], _, _, h, _ => by cases h
  | [_], _, _, h, _ => by cases h
  | x :: y :: front, before, after, h, rest => by
      rw [splitBefore?] at h
      rw [List.cons_append, List.cons_append, splitBefore?]
      split at h
      · next hend =>
          cases h
          rw [if_pos hend]
          rfl
      · next hnot =>
          obtain ⟨⟨before', after'⟩, hfront, heq⟩ := Option.map_eq_some_iff.mp h
          cases heq
          have hrest := splitBefore?_append_of_some hfront rest
          rw [List.cons_append] at hrest
          rw [if_neg hnot, hrest]
          rfl

theorem splitBefore?_eq : ∀ {cs before after : List Char},
    splitBefore? a b cs = some (before, after) →
      cs = before ++ after ∧ (∃ rest, after = a :: b :: rest) ∧ splitBefore? a b before = none
  | [], _, _, h => by cases h
  | [_], _, _, h => by cases h
  | x :: y :: cs, before, after, h => by
      rw [splitBefore?] at h
      split at h
      · next hend =>
          cases h
          obtain ⟨rfl, rfl⟩ := hend
          exact ⟨rfl, ⟨cs, rfl⟩, rfl⟩
      · next hnot =>
          obtain ⟨⟨before', after'⟩, hsplit, heq⟩ := Option.map_eq_some_iff.mp h
          cases heq
          obtain ⟨hcs, hafter, hnone⟩ := splitBefore?_eq hsplit
          refine ⟨by rw [hcs]; rfl, hafter, ?_⟩
          cases before' with
          | nil => rfl
          | cons z before' =>
              obtain rfl : y = z := (List.cons.inj hcs).1
              rw [splitBefore?, if_neg hnot, hnone]
              rfl

theorem splitBefore?_append_cons_cons (hab : a ≠ b) {before : List Char}
    (h : splitBefore? a b before = none) (rest : List Char) :
    splitBefore? a b (before ++ a :: b :: rest) = some (before, a :: b :: rest) := by
  have hjoint : before.getLast? = some a → (a :: b :: rest).head? ≠ some b :=
    fun _ e => hab (Option.some.inj e)
  rw [splitBefore?_append_of_none h _ hjoint, splitBefore?, if_pos ⟨rfl, rfl⟩, Option.map_some,
    List.append_nil]

theorem splitBefore?_of_not_mem : ∀ {cs : List Char}, a ∉ cs → splitBefore? a b cs = none
  | [], _ => rfl
  | [_], _ => rfl
  | x :: y :: cs, h => by
      have hnot : ¬(x = a ∧ y = b) := fun e => h (e.1 ▸ List.mem_cons_self)
      rw [splitBefore?, if_neg hnot,
        splitBefore?_of_not_mem (fun hmem => h (List.mem_cons_of_mem _ hmem))]
      rfl

end splitBefore

/-- What stands from the first end of a comment on. -/
def fromEnd? (cs : List Char) : Option (List Char) := (splitBefore? '*' '/' cs).map Prod.snd

theorem fromEnd?_append {front rest : List Char} (h : splitBefore? '*' '/' front = none)
    (hjoint : front.getLast? = some '*' → rest.head? ≠ some '/') :
    fromEnd? (front ++ rest) = fromEnd? rest := by
  rw [fromEnd?, splitBefore?_append_of_none h rest hjoint, Option.map_map]
  rfl

theorem fromEnd?_append_of_not_mem {front rest : List Char} (h : '*' ∉ front) :
    fromEnd? (front ++ rest) = fromEnd? rest :=
  fromEnd?_append (splitBefore?_of_not_mem h) (fun hlast => absurd (List.mem_of_getLast? hlast) h)

/-- The end of a comment is not in the margin or the key of a line. -/
theorem fromEnd?_key {margin key : List Char} (hmargin : IsMargin margin) (hkey : IsKey field key)
    (rest : List Char) : fromEnd? (margin ++ (key ++ rest)) = fromEnd? rest := by
  have hstar : '*' ∉ key := hkey.not_mem (by cases field <;> decide)
  have hkeyEnd : fromEnd? (key ++ rest) = fromEnd? rest := fromEnd?_append_of_not_mem hstar
  have hblank : ∀ {cs : List Char}, (∀ c ∈ cs, isTabOrSpace c = true) → '*' ∉ cs :=
    fun h hmem => absurd (h '*' hmem) (by decide)
  rcases hmargin with hmargin | ⟨front, back, rfl, hfront, hback⟩
  · rw [fromEnd?_append_of_not_mem (hblank hmargin), hkeyEnd]
  · -- behind the star stands a blank or a letter
    have hjoint : (back ++ (key ++ rest)).head? ≠ some '/' := by
      cases back with
      | nil =>
          obtain ⟨c, cs, rfl, hc⟩ := hkey.head
          intro hhead
          obtain rfl : c = '/' := Option.some.inj hhead
          exact absurd hc (by decide)
      | cons c cs =>
          intro hhead
          obtain rfl : c = '/' := Option.some.inj hhead
          exact absurd (hback '/' List.mem_cons_self) (by decide)
    have hsingle : fromEnd? (['*'] ++ (back ++ (key ++ rest))) = fromEnd? (back ++ (key ++ rest)) :=
      fromEnd?_append rfl (fun _ => hjoint)
    rw [List.append_assoc, fromEnd?_append_of_not_mem (hblank hfront), List.cons_append,
      ← List.singleton_append, hsingle, fromEnd?_append_of_not_mem (hblank hback), hkeyEnd]

theorem fromEnd?_afterValue (rest : List Char) : fromEnd? (afterValue rest) = fromEnd? rest := by
  have hspaces : '*' ∉ rest.takeWhile isTabOrSpace := fun h =>
    absurd (List.mem_takeWhile_imp h) (by decide)
  have hvalue : '*' ∉ (rest.dropWhile isTabOrSpace).takeWhile (fun c => !isBlank c && c != '*') :=
    fun h => absurd (List.mem_takeWhile_imp h) (by decide)
  rw [afterValue, ← fromEnd?_append_of_not_mem hvalue, List.takeWhile_append_dropWhile,
    ← fromEnd?_append_of_not_mem hspaces, List.takeWhile_append_dropWhile]

/-- Setting a field does not move the end of a comment. -/
theorem fromEnd?_headerLine? (h : IsPlain value) (hline : headerLine? field value line = some line') :
    fromEnd? line' = fromEnd? line := by
  obtain ⟨margin, key, rest, hmargin, hkey, rfl, rfl⟩ := headerLine?_eq_some_iff.mp hline
  have hvalue : '*' ∉ ' ' :: value := by
    rw [List.mem_cons, not_or]
    exact ⟨by decide, h.star⟩
  rw [fromEnd?_key hmargin hkey, fromEnd?_key hmargin hkey, fromEnd?_append_of_not_mem hvalue,
    fromEnd?_afterValue]

/-- A value ends before a comment does. -/
theorem afterValue_append {rest : List Char} (hend : fromEnd? rest ≠ none) (after : List Char) :
    afterValue (rest ++ after) = afterValue rest ++ after := by
  rw [← fromEnd?_afterValue] at hend
  unfold afterValue at hend ⊢
  have hne : (rest.dropWhile isTabOrSpace).dropWhile (fun c => !isBlank c && c != '*') ≠ [] :=
    fun e => hend (by rw [e]; rfl)
  have hne' : rest.dropWhile isTabOrSpace ≠ [] := fun e => hne (by rw [e]; rfl)
  rw [List.dropWhile_append, if_neg (by simpa using hne'), List.dropWhile_append,
    if_neg (by rwa [List.isEmpty_iff])]

/-- A field is set on a line with the end of a comment whatever stands behind it. -/
theorem headerLine?_append (hend : fromEnd? line ≠ none)
    (hline : headerLine? field value line = some line') (after : List Char) :
    headerLine? field value (line ++ after) = some (line' ++ after) := by
  obtain ⟨margin, key, rest, hmargin, hkey, rfl, rfl⟩ := headerLine?_eq_some_iff.mp hline
  rw [fromEnd?_key hmargin hkey] at hend
  refine headerLine?_eq_some_iff.mpr ⟨margin, key, rest ++ after, hmargin, hkey, ?_, ?_⟩
  · simp only [List.append_assoc]
  · rw [afterValue_append hend]
    simp only [List.append_assoc, List.cons_append]

end Requirement

end RequiredVersion
