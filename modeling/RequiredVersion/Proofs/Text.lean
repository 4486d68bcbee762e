import RequiredVersion.Text.Blank
import RequiredVersion.Text.Digit

/-! # Cutting texts and reading numbers

Facts about the small functions that texts are read with: cutting at the ends, splitting at a
separator, and numbers in decimal.  A number is read back from its digits (`word?_decimal`), and
pieces without the separator are read back from the text that has it between them
(`splitAt_intercalate`). -/

namespace RequiredVersion.Text

/-! ### Cutting -/

theorem dropWhile_of_head {p : Char → Bool} {cs : List Char}
    (h : ∀ c, cs.head? = some c → p c = false) : cs.dropWhile p = cs := by
  cases cs with
  | nil => rfl
  | cons c cs => rw [List.dropWhile_cons_of_neg (by simp [h c rfl])]

theorem head?_dropWhile_eq {p : Char → Bool} {cs : List Char} {c : Char}
    (h : (cs.dropWhile p).head? = some c) : p c = false := by
  have hnot := List.head?_dropWhile_not p cs
  rw [h] at hnot
  exact hnot

theorem dropEndWhile_of_getLast {p : Char → Bool} {cs : List Char}
    (h : ∀ c, cs.getLast? = some c → p c = false) : dropEndWhile p cs = cs := by
  rw [dropEndWhile, dropWhile_of_head (by rw [List.head?_reverse]; exact h), List.reverse_reverse]

theorem getLast?_dropEndWhile_eq {p : Char → Bool} {cs : List Char} {c : Char}
    (h : (dropEndWhile p cs).getLast? = some c) : p c = false := by
  rw [dropEndWhile, List.getLast?_reverse] at h
  exact head?_dropWhile_eq h

theorem getLast?_of_suffix {cs ds : List Char} (h : cs <:+ ds) (hne : cs ≠ []) :
    ds.getLast? = cs.getLast? := by
  obtain ⟨front, rfl⟩ := h
  rw [List.getLast?_append, List.getLast?_eq_some_getLast hne, Option.some_or]

/-- The text behind a run of characters that pass a test, if it starts otherwise. -/
theorem dropWhile_append_of_head {p : Char → Bool} {cs ds : List Char} (hc : ∀ c ∈ cs, p c = true)
    (hd : ∀ d, ds.head? = some d → p d = false) : (cs ++ ds).dropWhile p = ds := by
  rw [List.dropWhile_append_of_pos hc, dropWhile_of_head hd]

theorem takeWhile_append_of_head {p : Char → Bool} {cs ds : List Char} (hc : ∀ c ∈ cs, p c = true)
    (hd : ∀ d, ds.head? = some d → p d = false) : (cs ++ ds).takeWhile p = cs := by
  rw [List.takeWhile_append_of_pos hc]
  cases ds with
  | nil => exact List.append_nil cs
  | cons d ds => rw [List.takeWhile_cons_of_neg (by simp [hd d rfl]), List.append_nil]

theorem trim_of_ends {cs : List Char} (hhead : ∀ c, cs.head? = some c → isBlank c = false)
    (hlast : ∀ c, cs.getLast? = some c → isBlank c = false) : trim cs = cs := by
  rw [trim, trimWhile, dropWhile_of_head hhead, dropEndWhile_of_getLast hlast]

theorem getLast?_trim {cs : List Char} {c : Char} (h : (trim cs).getLast? = some c) :
    isBlank c = false :=
  getLast?_dropEndWhile_eq h

/-! ### Splitting -/

theorem splitAt_eq_splitOn (sep : Char) : ∀ cs : List Char, splitAt sep cs = cs.splitOn sep
  | [] => rfl
  | c :: cs => by
      rw [splitAt, List.splitOn_cons_eq_if_modifyHead, splitAt_eq_splitOn sep cs]
      by_cases h : c = sep
      · rw [if_pos h, if_pos (by simpa using h)]
      · rw [if_neg h, if_neg (by simpa using h)]
        cases hs : cs.splitOn sep with
        | nil => exact absurd hs (List.splitOn_ne_nil _ _)
        | cons piece pieces => rfl

/-- Pieces without the separator are read back. -/
theorem splitAt_intercalate {sep : Char} {pieces : List (List Char)} (hne : pieces ≠ [])
    (h : ∀ piece ∈ pieces, sep ∉ piece) : splitAt sep ([sep].intercalate pieces) = pieces := by
  rw [splitAt_eq_splitOn, List.splitOn_intercalate sep h hne]

theorem splitAt_ne_nil (sep : Char) (cs : List Char) : splitAt sep cs ≠ [] := by
  rw [splitAt_eq_splitOn]
  exact List.splitOn_ne_nil _ _

theorem splitAt_append_cons (sep : Char) (ds : List Char) : ∀ cs : List Char,
    splitAt sep (cs ++ sep :: ds) = splitAt sep cs ++ splitAt sep ds
  | [] => by simp [splitAt]
  | c :: cs => by
      rw [List.cons_append, splitAt, splitAt, splitAt_append_cons sep ds cs]
      by_cases h : c = sep
      · rw [if_pos h, if_pos h]; rfl
      · rw [if_neg h, if_neg h]
        cases hs : splitAt sep cs with
        | nil => exact absurd hs (splitAt_ne_nil sep cs)
        | cons piece pieces => rfl

theorem not_mem_of_mem_splitAt (sep : Char) : ∀ {cs piece : List Char}, piece ∈ splitAt sep cs →
    sep ∉ piece
  | [], piece, h => by
      rw [splitAt, List.mem_singleton] at h
      rw [h]
      exact List.not_mem_nil
  | c :: cs, piece, h => by
      rw [splitAt] at h
      by_cases hc : c = sep
      · rw [if_pos hc] at h
        rcases List.mem_cons.mp h with rfl | h
        · exact List.not_mem_nil
        · exact not_mem_of_mem_splitAt sep h
      · rw [if_neg hc] at h
        cases hs : splitAt sep cs with
        | nil => exact absurd hs (splitAt_ne_nil sep cs)
        | cons first pieces =>
            rw [hs] at h
            have hmem : ∀ q ∈ first :: pieces, sep ∉ q :=
              fun q hq => not_mem_of_mem_splitAt sep (hs ▸ hq)
            rcases List.mem_cons.mp h with rfl | h
            · intro hsep
              rcases List.mem_cons.mp hsep with rfl | hsep
              · exact hc rfl
              · exact hmem first List.mem_cons_self hsep
            · exact hmem piece (List.mem_cons_of_mem _ h)

theorem splitAt_of_not_mem {sep : Char} {cs : List Char} (h : sep ∉ cs) : splitAt sep cs = [cs] := by
  have hclean : ∀ piece ∈ [cs], sep ∉ piece := fun piece hpiece => by
    rw [List.mem_singleton.mp hpiece]
    exact h
  have hsplit := splitAt_intercalate (List.cons_ne_nil cs []) hclean
  rwa [List.intercalate_singleton] at hsplit

theorem getLast?_splitAt_append {sep : Char} {ds : List Char} (h : sep ∉ ds) : ∀ cs : List Char,
    ∃ piece, (splitAt sep (cs ++ ds)).getLast? = some (piece ++ ds)
  | [] => ⟨[], by rw [List.nil_append, splitAt_of_not_mem h]; rfl⟩
  | c :: cs => by
      obtain ⟨piece, hlast⟩ := getLast?_splitAt_append h cs
      rw [List.cons_append, splitAt]
      by_cases hc : c = sep
      · rw [if_pos hc]
        exact ⟨piece, by rw [List.getLast?_cons, hlast]; rfl⟩
      · rw [if_neg hc]
        match hs : splitAt sep (cs ++ ds) with
        | [] => exact absurd hs (splitAt_ne_nil sep _)
        | [only] =>
            rw [hs, List.getLast?_singleton] at hlast
            exact ⟨c :: piece, by rw [List.getLast?_singleton, Option.some.inj hlast]; rfl⟩
        | first :: second :: more =>
            rw [hs, List.getLast?_cons_cons] at hlast
            exact ⟨piece, by rw [List.getLast?_cons_cons, hlast]⟩

/-! ### Bytes -/

/-- A text is read back from its bytes. -/
theorem fromUTF8?_toUTF8 (s : String) : String.fromUTF8? s.toUTF8 = some s := by
  unfold String.fromUTF8?
  exact dif_pos s.isValidUTF8

/-! ### Numbers -/

theorem isDigit_iff (c : Char) : c.isDigit = true ↔ 48 ≤ c.toNat ∧ c.toNat ≤ 57 :=
  Char.isDigit_iff_toNat

theorem isBlank_of_isDigit {c : Char} (h : c.isDigit = true) : isBlank c = false := by
  rw [isDigit_iff] at h
  simp only [isBlank, Bool.or_eq_false_iff, Bool.and_eq_false_iff, decide_eq_false_iff_not,
    beq_eq_false_iff_ne, Nat.not_le]
  omega

theorem word?_eq_some_iff {cs : List Char} {n : Nat} :
    word? cs = some n ↔
      cs ≠ [] ∧ (∀ c ∈ cs, c.isDigit = true) ∧ natOfDigits cs = n ∧ n < wordBound := by
  unfold word?
  by_cases hne : cs = []
  · simp [hne]
  · by_cases hall : ∀ c ∈ cs, c.isDigit = true
    · have hcond : (cs.isEmpty || !cs.all Char.isDigit) = false := by
        simpa [hne] using hall
      rw [hcond]
      simp only [Bool.false_eq_true, if_false, Option.ite_none_right_eq_some, Option.some.injEq]
      constructor
      · rintro ⟨hlt, rfl⟩
        exact ⟨hne, hall, rfl, hlt⟩
      · rintro ⟨_, _, rfl, hlt⟩
        exact ⟨hlt, rfl⟩
    · have hcond : (cs.isEmpty || !cs.all Char.isDigit) = true := by
        simpa [hne] using hall
      simp [hcond, hall]

theorem isDigit_of_mem_decimal {n : Nat} {c : Char} (h : c ∈ decimal n) : c.isDigit = true :=
  Nat.isDigit_of_mem_toDigits (by decide) (by decide) h

theorem decimal_ne_nil (n : Nat) : decimal n ≠ [] := Nat.toDigits_ne_nil

theorem natOfDigits_decimal (n : Nat) : natOfDigits (decimal n) = n := by
  have h : natOfDigits (decimal n) = Nat.ofDigitChars 10 (Nat.toDigits 10 n) 0 := by
    rw [Nat.ofDigitChars_eq_foldl]
    rfl
  rw [h, Nat.ofDigitChars_ten_toDigits]

theorem word?_decimal {n : Nat} (h : n < wordBound) : word? (decimal n) = some n :=
  word?_eq_some_iff.mpr
    ⟨decimal_ne_nil n, fun _ hc => isDigit_of_mem_decimal hc, natOfDigits_decimal n, h⟩

end RequiredVersion.Text
