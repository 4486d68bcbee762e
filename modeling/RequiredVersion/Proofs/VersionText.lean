import Mathlib
import RequiredVersion.Document.Symbols
import RequiredVersion.Proofs.JsonText
import RequiredVersion.Proofs.Text

/-! # Versions and their texts

Reading drops blanks, dots, separators and leading zeros, so many texts are read as one version.
`Written` says which versions come out of reading: those with segments of at most 64 bits and a
suffix whose text neither starts with a separator nor ends in a blank (`written_of_ofChars?`).
Such a version is read back from its own text (`ofChars?_chars`), and so also from the JSON text
that holds it. -/

namespace RequiredVersion

/-- A suffix that reading gives. -/
structure Suffix.Written (s : Suffix) : Prop where
  ofChars_raw : Suffix.ofChars s.raw.toList = s
  raw_ne_nil : s.raw.toList ≠ []
  head_raw : ∀ c, s.raw.toList.head? = some c → Version.isSeparator c = false
  last_raw : ∀ c, s.raw.toList.getLast? = some c → Text.isBlank c = false

namespace Version

/-- A version that reading gives. -/
structure Written (v : Version) : Prop where
  segments_ne_nil : v.segments ≠ []
  segments_lt : ∀ n ∈ v.segments, n < Text.wordBound
  suffix_written : ∀ s, v.suffix = some s → s.Written

/-! ### Segments -/

theorem mapM_word?_decimal : ∀ ns : List Nat, (∀ n ∈ ns, n < Text.wordBound) →
    (ns.map Text.decimal).mapM Text.word? = some ns
  | [], _ => rfl
  | n :: ns, h => by
      have hn : n < Text.wordBound := h n List.mem_cons_self
      have hns := mapM_word?_decimal ns (fun m hm => h m (List.mem_cons_of_mem n hm))
      rw [List.map_cons, List.mapM_cons, Text.word?_decimal hn, hns]
      rfl

theorem lt_of_mapM_word? : ∀ {pieces : List (List Char)} {ns : List Nat},
    pieces.mapM Text.word? = some ns → ns.length = pieces.length ∧ ∀ n ∈ ns, n < Text.wordBound
  | [], ns, h => by
      rw [List.mapM_nil] at h
      obtain rfl : [] = ns := Option.some.inj h
      exact ⟨rfl, fun n hn => absurd hn List.not_mem_nil⟩
  | piece :: pieces, ns, h => by
      rw [List.mapM_cons] at h
      obtain ⟨m, hm, h⟩ := Option.bind_eq_some_iff.mp h
      obtain ⟨ms, hms, h⟩ := Option.bind_eq_some_iff.mp h
      obtain rfl : m :: ms = ns := Option.some.inj h
      obtain ⟨hlength, hlt⟩ := lt_of_mapM_word? hms
      refine ⟨by rw [List.length_cons, List.length_cons, hlength], ?_⟩
      intro n hn
      rcases List.mem_cons.mp hn with rfl | hn
      · exact (Text.word?_eq_some_iff.mp hm).2.2.2
      · exact hlt n hn

/-- The numeric part of the text of a version. -/
def numbers (ns : List Nat) : List Char := ['.'].intercalate (ns.map Text.decimal)

theorem numbers_cons_cons (n m : Nat) (ns : List Nat) :
    numbers (n :: m :: ns) = Text.decimal n ++ '.' :: numbers (m :: ns) := by
  rw [numbers, List.map_cons, List.map_cons, List.intercalate_cons_cons, List.append_assoc]
  rfl

theorem numbers_singleton (n : Nat) : numbers [n] = Text.decimal n := by
  rw [numbers, List.map_singleton, List.intercalate_singleton]

theorem isNumeric_of_mem_decimal {n : Nat} {c : Char} (h : c ∈ Text.decimal n) :
    isNumeric c = true := by
  rw [isNumeric, Text.isDigit_of_mem_decimal h, Bool.true_or]

theorem isNumeric_of_mem_numbers : ∀ {ns : List Nat} {c : Char}, c ∈ numbers ns → isNumeric c = true
  | [], c, h => absurd h List.not_mem_nil
  | [n], c, h => isNumeric_of_mem_decimal (numbers_singleton n ▸ h)
  | n :: m :: ns, c, h => by
      rw [numbers_cons_cons, List.mem_append, List.mem_cons] at h
      rcases h with h | rfl | h
      · exact isNumeric_of_mem_decimal h
      · decide
      · exact isNumeric_of_mem_numbers h

theorem isDigit_head_numbers : ∀ {ns : List Nat} {c : Char}, (numbers ns).head? = some c →
    c.isDigit = true
  | [], c, h => by cases h
  | [n], c, h => by
      rw [numbers_singleton] at h
      exact Text.isDigit_of_mem_decimal (List.mem_of_head? h)
  | n :: m :: ns, c, h => by
      obtain ⟨d, ds, hd⟩ := List.exists_cons_of_ne_nil (Text.decimal_ne_nil n)
      rw [numbers_cons_cons, hd, List.cons_append, List.head?_cons] at h
      obtain rfl : d = c := Option.some.inj h
      exact Text.isDigit_of_mem_decimal (hd ▸ List.mem_cons_self)

theorem numbers_ne_nil (n : Nat) : ∀ ns : List Nat, numbers (n :: ns) ≠ []
  | [] => by
      rw [numbers_singleton]
      exact Text.decimal_ne_nil n
  | m :: ns => by
      rw [numbers_cons_cons]
      exact List.append_ne_nil_of_left_ne_nil (Text.decimal_ne_nil n) _

theorem isDigit_last_numbers : ∀ {ns : List Nat} {c : Char}, (numbers ns).getLast? = some c →
    c.isDigit = true
  | [], c, h => by cases h
  | [n], c, h => by
      rw [numbers_singleton] at h
      exact Text.isDigit_of_mem_decimal (List.mem_of_getLast? h)
  | n :: m :: ns, c, h => by
      have hsuffix : numbers (m :: ns) <:+ numbers (n :: m :: ns) := by
        rw [numbers_cons_cons]
        exact (List.suffix_cons '.' _).trans (List.suffix_append _ _)
      rw [Text.getLast?_of_suffix hsuffix (numbers_ne_nil m ns)] at h
      exact isDigit_last_numbers h

theorem splitAt_numbers {ns : List Nat} (h : ns ≠ []) :
    Text.splitAt '.' (numbers ns) = ns.map Text.decimal := by
  refine Text.splitAt_intercalate (by simpa using h) ?_
  intro piece hpiece hdot
  obtain ⟨n, _, rfl⟩ := List.mem_map.mp hpiece
  exact absurd (Text.isDigit_of_mem_decimal hdot) (by decide)

/-! ### Writing, then reading -/

/-- What stands behind the numeric part of the text of a version. -/
def suffixChars : Option Suffix → List Char
  | none => []
  | some s => '-' :: s.raw.toList

theorem chars_eq (v : Version) : v.chars = numbers v.segments ++ suffixChars v.suffix := by
  unfold chars
  cases v.suffix with
  | none => exact (List.append_nil _).symm
  | some s => rfl

theorem head_suffixChars {o : Option Suffix} {c : Char} (h : (suffixChars o).head? = some c) :
    c = '-' := by
  cases o with
  | none => cases h
  | some s => exact (Option.some.inj h).symm

theorem isBlank_head_chars {v : Version} {c : Char} (h : v.chars.head? = some c) :
    Text.isBlank c = false := by
  rw [chars_eq, List.head?_append, Option.or_eq_some_iff] at h
  rcases h with h | ⟨_, h⟩
  · exact Text.isBlank_of_isDigit (isDigit_head_numbers h)
  · rw [head_suffixChars h]
    decide

theorem chars_ne_nil {v : Version} (hv : v.Written) : v.chars ≠ [] := by
  obtain ⟨n, ns, hsegments⟩ := List.exists_cons_of_ne_nil hv.segments_ne_nil
  rw [chars_eq, hsegments]
  exact List.append_ne_nil_of_left_ne_nil (numbers_ne_nil n ns) _

theorem isBlank_last_chars {v : Version} (hv : v.Written) {c : Char}
    (h : v.chars.getLast? = some c) : Text.isBlank c = false := by
  rw [chars_eq] at h
  cases hs : v.suffix with
  | none =>
      rw [hs, suffixChars, List.append_nil] at h
      exact Text.isBlank_of_isDigit (isDigit_last_numbers h)
  | some s =>
      have hw := hv.suffix_written s hs
      have hsuffix : s.raw.toList <:+ numbers v.segments ++ suffixChars (some s) :=
        (List.suffix_cons '-' _).trans (List.suffix_append _ _)
      rw [hs, Text.getLast?_of_suffix hsuffix hw.raw_ne_nil] at h
      exact hw.last_raw c h

theorem suffix_of_suffixChars {v : Version} (hv : v.Written) :
    (if ((suffixChars v.suffix).dropWhile isSeparator).isEmpty then none
      else some (Suffix.ofChars ((suffixChars v.suffix).dropWhile isSeparator))) = v.suffix := by
  cases hs : v.suffix with
  | none => rfl
  | some s =>
      have hw := hv.suffix_written s hs
      have hrest : (suffixChars (some s)).dropWhile isSeparator = s.raw.toList := by
        rw [suffixChars, List.dropWhile_cons_of_pos (by decide), Text.dropWhile_of_head hw.head_raw]
      rw [hrest, if_neg (by simpa using hw.raw_ne_nil), hw.ofChars_raw]

/-- **A version that reading gives is read back from its text.** -/
theorem ofChars?_chars {v : Version} (hv : v.Written) : ofChars? v.chars = some v := by
  have htrim : Text.trim v.chars = numbers v.segments ++ suffixChars v.suffix := by
    rw [Text.trim_of_ends (fun _ => isBlank_head_chars) (fun _ => isBlank_last_chars hv), chars_eq]
  have hdash : ∀ c, (suffixChars v.suffix).head? = some c → isNumeric c = false := by
    intro c hc
    rw [head_suffixChars hc]
    decide
  have hnumeric : ∀ c ∈ numbers v.segments, isNumeric c = true := fun _ => isNumeric_of_mem_numbers
  have hdot : ∀ c, (numbers v.segments).getLast? = some c → (c == '.') = false := by
    intro c hc
    refine beq_false_of_ne ?_
    rintro rfl
    exact absurd (isDigit_last_numbers hc) (by decide)
  unfold ofChars?
  simp only [htrim, Text.takeWhile_append_of_head hnumeric hdash,
    Text.dropWhile_append_of_head hnumeric hdash, Text.dropEndWhile_of_getLast hdot,
    splitAt_numbers hv.segments_ne_nil, mapM_word?_decimal _ hv.segments_lt,
    suffix_of_suffixChars hv]

/-! ### Reading, then writing -/

/-- The suffix that is read from the text behind the numeric part. -/
theorem written_ofChars {cs rest : List Char}
    (hrest : rest = ((Text.trim cs).dropWhile isNumeric).dropWhile isSeparator) (hne : rest ≠ []) :
    (Suffix.ofChars rest).Written := by
  have hraw : (Suffix.ofChars rest).raw.toList = rest := String.toList_ofList
  have hsuffix : rest <:+ Text.trim cs :=
    hrest ▸ (List.dropWhile_suffix _).trans (List.dropWhile_suffix _)
  constructor
  · rw [hraw]
  · rw [hraw]
    exact hne
  · intro c hc
    rw [hraw, hrest] at hc
    exact Text.head?_dropWhile_eq hc
  · intro c hc
    rw [hraw, ← Text.getLast?_of_suffix hsuffix hne] at hc
    exact Text.getLast?_trim hc

theorem written_of_ofChars? {cs : List Char} {v : Version} (h : ofChars? cs = some v) :
    v.Written := by
  unfold ofChars? at h
  dsimp only at h
  split at h
  · cases h
  · next ns hns =>
      obtain rfl := Option.some.inj h
      obtain ⟨hlength, hlt⟩ := lt_of_mapM_word? hns
      refine ⟨?_, hlt, ?_⟩
      · intro hnil
        rw [show ns = [] from hnil, List.length_nil] at hlength
        exact Text.splitAt_ne_nil _ _ (List.length_eq_zero_iff.mp hlength.symm)
      · intro s hs
        dsimp only at hs
        split at hs
        · cases hs
        · next hne =>
            obtain rfl := Option.some.inj hs
            exact written_ofChars rfl (by simpa using hne)

/-! ### The round trip -/

theorem parse_eq_ok_iff {s : String} {v : Version} :
    parse s = .ok v ↔ ofChars? s.toList = some v := by
  unfold parse
  cases ofChars? s.toList with
  | none => simp
  | some w => simp

theorem parse?_text {v : Version} (hv : v.Written) : parse? v.text = some v := by
  rw [parse?, text, String.toList_ofList, ofChars?_chars hv]

theorem text_injective {v w : Version} (hv : v.Written) (hw : w.Written) (h : w.text = v.text) :
    w = v := by
  have hread : some w = some v := by rw [← parse?_text hw, h, parse?_text hv]
  exact Option.some.inj hread

theorem ofRaw?_document {v : Version} (hv : v.Written) :
    (RawJson.ofText? (String.ofList (Json.quoted v.text.toList))).bind ofRaw? = some v := by
  have hbind : ∀ o : Option RawJson, o.bind ofRaw? = (o.bind RawJson.text?).bind parse? := by
    intro o
    rw [Option.bind_assoc]
    rfl
  rw [hbind, RawJson.text?_ofText?_quoted, Option.bind_some, parse?_text hv]

/-- **A version that is read from any text is read back from its own text**, no other version that
is read has that text, and the version is read back from its JSON document, be it the characters
of the one without blanks or the bytes of the one in lines. -/
theorem text_round_trip {s : String} {v : Version} (h : parse s = .ok v) :
    parse v.text = .ok v ∧
      (∀ t w, parse t = .ok w → w.text = v.text → w = v) ∧
      (RawJson.ofText? (String.ofList v.toJson.compact)).bind ofRaw? = some v ∧
      (RawJson.ofBytes? v.toJson.pretty.toUTF8).bind ofRaw? = some v := by
  have hv : v.Written := written_of_ofChars? (parse_eq_ok_iff.mp h)
  refine ⟨parse_eq_ok_iff.mpr (parse?_text hv), ?_, ?_, ?_⟩
  · intro t w hw htext
    exact text_injective hv (written_of_ofChars? (parse_eq_ok_iff.mp hw)) htext
  · rw [toJson, Json.compact]
    exact ofRaw?_document hv
  · rw [RawJson.ofBytes?_toUTF8, toJson, Json.pretty, Json.prettyAt]
    exact ofRaw?_document hv

/-- Blanks around it, a leading zero, a dot and separators before the suffix, and a blank and a
letter beyond ASCII in it. -/
theorem text_round_trip_prerelease :
    parse " 06.8.+-RC2 é " = .ok ⟨[6, 8], some ⟨.rc, 2, "RC2 é"⟩⟩ ∧
      parse (text ⟨[6, 8], some ⟨.rc, 2, "RC2 é"⟩⟩) = .ok ⟨[6, 8], some ⟨.rc, 2, "RC2 é"⟩⟩ := by
  have h : parse " 06.8.+-RC2 é " = .ok ⟨[6, 8], some ⟨.rc, 2, "RC2 é"⟩⟩ := by cbv
  exact ⟨h, (text_round_trip h).1⟩

end Version

end RequiredVersion
