import RequiredVersion.Proofs.VersionText

/-! # Which texts are versions

Reading a version cuts its text at the ends and at the dots.  Here is the grammar that comes of it:
without the white space around it, the text of a version is numbers with single dots between them, any
further dots, and a tail that starts with neither digit nor dot (`Version.Spells`).  Reading accepts
exactly the texts of this form (`Version.exists_spells_of_ofChars?`), and what it gives can be told by the
numbers and the tail (`Version.ofChars?_of_spells`). -/

namespace RequiredVersion

namespace Text

/-! ### White space around a text -/

/-- `body` is what is left of a text without the white space around it. -/
def Surrounds (cs body : List Char) : Prop :=
  ∃ left right, cs = left ++ body ++ right ∧ (∀ c ∈ left, isBlank c = true) ∧
    (∀ c ∈ right, isBlank c = true) ∧ (∀ c, body.head? = some c → isBlank c = false) ∧
    ∀ c, body.getLast? = some c → isBlank c = false

theorem exists_dropEndWhile_append (p : Char → Bool) (cs : List Char) :
    ∃ right, cs = dropEndWhile p cs ++ right ∧ ∀ c ∈ right, p c = true := by
  refine ⟨(cs.reverse.takeWhile p).reverse, ?_, fun c hc => ?_⟩
  · rw [dropEndWhile, ← List.reverse_append, List.takeWhile_append_dropWhile, List.reverse_reverse]
  · exact List.mem_takeWhile_imp (List.mem_reverse.mp hc)

theorem dropEndWhile_append_of_getLast {p : Char → Bool} {cs right : List Char}
    (hright : ∀ c ∈ right, p c = true) (hlast : ∀ c, cs.getLast? = some c → p c = false) :
    dropEndWhile p (cs ++ right) = cs := by
  rw [dropEndWhile, List.reverse_append, dropWhile_append_of_head, List.reverse_reverse]
  · exact fun c hc => hright c (List.mem_reverse.mp hc)
  · intro c hc
    rw [List.head?_reverse] at hc
    exact hlast c hc

theorem surrounds_iff {cs body : List Char} : Surrounds cs body ↔ trim cs = body := by
  constructor
  · rintro ⟨left, right, rfl, hleft, hright, hhead, hlast⟩
    rw [trim, trimWhile, List.append_assoc, List.dropWhile_append_of_pos hleft]
    cases body with
    | nil =>
        rw [List.nil_append, List.dropWhile_eq_nil_iff.mpr hright]
        rfl
    | cons c body =>
        have hdrop : (c :: body ++ right).dropWhile isBlank = c :: body ++ right :=
          dropWhile_of_head (fun d hd => hhead d hd)
        rw [hdrop, dropEndWhile_append_of_getLast hright hlast]
  · rintro rfl
    obtain ⟨right, hright, hblank⟩ := exists_dropEndWhile_append isBlank (cs.dropWhile isBlank)
    refine ⟨cs.takeWhile isBlank, right, ?_, fun c hc => List.mem_takeWhile_imp hc, hblank, ?_,
      fun c => getLast?_trim⟩
    · rw [List.append_assoc, trim, trimWhile, ← hright, List.takeWhile_append_dropWhile]
    · intro c hc
      have hhead : (cs.dropWhile isBlank).head? = some c := by
        rw [hright, List.head?_append]
        exact Option.or_eq_some_iff.mpr (.inl hc)
      exact head?_dropWhile_eq hhead

/-! ### Runs between dots -/

theorem mem_intercalate {sep c : Char} : ∀ {runs : List (List Char)},
    c ∈ [sep].intercalate runs → c = sep ∨ ∃ run ∈ runs, c ∈ run
  | [], h => absurd h List.not_mem_nil
  | [run], h => by
      rw [List.intercalate_singleton] at h
      exact .inr ⟨run, List.mem_cons_self, h⟩
  | run :: next :: rest, h => by
      rw [List.intercalate_cons_cons, List.mem_append, List.mem_append, List.mem_singleton] at h
      rcases h with (h | h) | h
      · exact .inr ⟨run, List.mem_cons_self, h⟩
      · exact .inl h
      · rcases mem_intercalate h with h | ⟨r, hr, hc⟩
        · exact .inl h
        · exact .inr ⟨r, List.mem_cons_of_mem _ hr, hc⟩

theorem getLast?_intercalate {sep : Char} : ∀ {runs : List (List Char)}, (∀ run ∈ runs, run ≠ []) →
    ∀ {c}, ([sep].intercalate runs).getLast? = some c → ∃ run ∈ runs, c ∈ run
  | [], _, c, h => by cases h
  | [run], _, c, h => by
      rw [List.intercalate_singleton] at h
      exact ⟨run, List.mem_cons_self, List.mem_of_getLast? h⟩
  | run :: next :: rest, hne, c, h => by
      have htail : [sep].intercalate (next :: rest) ≠ [] := by
        intro hnil
        have hlength := congrArg List.length hnil
        cases rest with
        | nil => exact hne next (by simp) (by simpa using hnil)
        | cons r rest => simp [List.intercalate_cons_cons] at hlength
      rw [List.intercalate_cons_cons, getLast?_of_suffix (List.suffix_append _ _) htail] at h
      obtain ⟨r, hr, hc⟩ :=
        getLast?_intercalate (fun r hr => hne r (List.mem_cons_of_mem _ hr)) h
      exact ⟨r, List.mem_cons_of_mem _ hr, hc⟩

/-- A number of at most 64 bits in decimal, with any zeros before it. -/
structure IsNumber (run : List Char) : Prop where
  ne_nil : run ≠ []
  isDigit : ∀ c ∈ run, c.isDigit = true
  value_lt : natOfDigits run < 2 ^ 64

theorem isNumber_iff {run : List Char} : IsNumber run ↔ word? run = some (natOfDigits run) := by
  rw [word?_eq_some_iff]
  exact ⟨fun h => ⟨h.ne_nil, h.isDigit, rfl, h.value_lt⟩, fun h => ⟨h.1, h.2.1, h.2.2.2⟩⟩

theorem mapM_word?_eq_some_iff : ∀ {runs : List (List Char)} {ns : List Nat},
    runs.mapM word? = some ns ↔ (∀ run ∈ runs, IsNumber run) ∧ runs.map natOfDigits = ns
  | [], ns => by
      rw [List.mapM_nil]
      simp [pure]
  | run :: runs, ns => by
      have ih : ∀ ms, runs.mapM word? = some ms ↔
          (∀ run ∈ runs, IsNumber run) ∧ runs.map natOfDigits = ms := fun _ => mapM_word?_eq_some_iff
      rw [List.mapM_cons, List.forall_mem_cons, isNumber_iff, List.map_cons]
      simp only [Option.bind_eq_bind, Option.bind_eq_some_iff, ih]
      constructor
      · rintro ⟨n, hn, ms, ⟨hruns, rfl⟩, hns⟩
        have hvalue : natOfDigits run = n := (word?_eq_some_iff.mp hn).2.2.1
        refine ⟨⟨by rw [hn, hvalue], hruns⟩, ?_⟩
        rw [hvalue]
        exact Option.some.inj hns
      · rintro ⟨⟨hrun, hruns⟩, rfl⟩
        exact ⟨_, hrun, _, ⟨hruns, rfl⟩, rfl⟩

end Text

namespace Version

open Text (IsNumber Surrounds natOfDigits)

/-! ### The grammar -/

/-- A text writes a version with the numbers of `runs` and with what `tail` says behind them. -/
structure Spells (cs : List Char) (runs : List (List Char)) (tail : List Char) : Prop where
  runs_ne_nil : runs ≠ []
  isNumber : ∀ run ∈ runs, IsNumber run
  head_tail : ∀ c, tail.head? = some c → c.isDigit = false ∧ c ≠ '.'
  surrounds : ∃ dots, Surrounds cs (['.'].intercalate runs ++ List.replicate dots '.' ++ tail)

theorem isNumeric_eq_false_iff {c : Char} : isNumeric c = false ↔ c.isDigit = false ∧ c ≠ '.' := by
  rw [isNumeric, Bool.or_eq_false_iff, beq_eq_false_iff_ne]

/-- The suffix that the tail of a version is read as. -/
def tailSuffix? (tail : List Char) : Option Suffix :=
  if (tail.dropWhile isSeparator).isEmpty then none
  else some (Suffix.ofChars (tail.dropWhile isSeparator))

/-- A text of the form is read as the version that it writes. -/
theorem ofChars?_of_spells {cs tail : List Char} {runs : List (List Char)}
    (h : Spells cs runs tail) :
    ofChars? cs = some ⟨runs.map natOfDigits, tailSuffix? tail⟩ := by
  obtain ⟨dots, hsurrounds⟩ := h.surrounds
  have htrim := Text.surrounds_iff.mp hsurrounds
  have hdigit : ∀ run ∈ runs, ∀ c ∈ run, c.isDigit = true := fun run hrun => (h.isNumber run hrun).isDigit
  have hnumeric : ∀ c ∈ ['.'].intercalate runs ++ List.replicate dots '.', isNumeric c = true := by
    intro c hc
    rcases List.mem_append.mp hc with hc | hc
    · rcases Text.mem_intercalate hc with rfl | ⟨run, hrun, hc⟩
      · rfl
      · rw [isNumeric, hdigit run hrun c hc, Bool.true_or]
    · rw [List.eq_of_mem_replicate hc]
      rfl
  have htail : ∀ c, tail.head? = some c → isNumeric c = false := fun c hc =>
    isNumeric_eq_false_iff.mpr (h.head_tail c hc)
  have hlast : ∀ c, (['.'].intercalate runs).getLast? = some c → (c == '.') = false := by
    intro c hc
    obtain ⟨run, hrun, hc⟩ := Text.getLast?_intercalate (fun run hrun => (h.isNumber run hrun).ne_nil) hc
    refine beq_false_of_ne ?_
    rintro rfl
    exact absurd (hdigit run hrun _ hc) (by decide)
  have hdots : ∀ c ∈ List.replicate dots '.', (c == '.') = true := by
    intro c hc
    rw [List.eq_of_mem_replicate hc]
    rfl
  have hsplit : Text.splitAt '.' (['.'].intercalate runs) = runs := by
    refine Text.splitAt_intercalate h.runs_ne_nil (fun run hrun hdot => ?_)
    exact absurd (hdigit run hrun _ hdot) (by decide)
  unfold ofChars?
  simp only [htrim, Text.takeWhile_append_of_head hnumeric htail,
    Text.dropWhile_append_of_head hnumeric htail, Text.dropEndWhile_append_of_getLast hdots hlast,
    hsplit, Text.mapM_word?_eq_some_iff.mpr ⟨h.isNumber, rfl⟩]
  rfl

/-- Only texts of the form are read. -/
theorem exists_spells_of_ofChars? {cs : List Char} {v : Version} (h : ofChars? cs = some v) :
    ∃ runs tail, Spells cs runs tail := by
  unfold ofChars? at h
  dsimp only at h
  split at h
  · cases h
  · next ns hns =>
      obtain ⟨right, hfront, hright⟩ := Text.exists_dropEndWhile_append (· == '.')
        ((Text.trim cs).takeWhile isNumeric)
      obtain ⟨hnumbers, _⟩ := Text.mapM_word?_eq_some_iff.mp hns
      refine ⟨_, (Text.trim cs).dropWhile isNumeric, Text.splitAt_ne_nil _ _, hnumbers,
        fun c hc => isNumeric_eq_false_iff.mp (Text.head?_dropWhile_eq hc), right.length, ?_⟩
      have hdots : right = List.replicate right.length '.' :=
        List.eq_replicate_iff.mpr ⟨rfl, fun c hc => beq_iff_eq.mp (hright c hc)⟩
      rw [Text.surrounds_iff, Text.splitAt_eq_splitOn, List.intercalate_splitOn, ← hdots, ← hfront,
        List.takeWhile_append_dropWhile]

theorem isSome_tailSuffix?_iff {tail : List Char} :
    (tailSuffix? tail).isSome = true ↔ ∃ c ∈ tail, isSeparator c = false := by
  unfold tailSuffix?
  cases hrest : tail.dropWhile isSeparator with
  | nil =>
      rw [List.dropWhile_eq_nil_iff] at hrest
      simpa using hrest
  | cons c rest =>
      have hc : isSeparator c = false := Text.head?_dropWhile_eq (by rw [hrest]; rfl)
      have hmem : c ∈ tail := (List.dropWhile_suffix isSeparator).subset (by rw [hrest]; simp)
      simpa using ⟨c, hmem, hc⟩

/-! ### Reading -/

theorem parse_eq_error_iff {s : String} {e : InvalidVersion} :
    parse s = .error e ↔ ofChars? s.toList = none ∧ e = ⟨s⟩ := by
  unfold parse
  cases ofChars? s.toList with
  | none => simp [eq_comm]
  | some v => simp

/-- **Reading accepts exactly the texts of the grammar.**  A text is read as a version if and only if,
without the white space around it, it is one or more numbers below `2 ^ 64` in decimal with single dots
between them, any number of dots, and a tail that is empty or starts with neither digit nor dot.  The
segments are then the values of these numbers in order, at least one, and the version is a pre-release
exactly if some character of the tail is none of the separators; so it has one behind the separators
that it starts with.  A failure carries the text as it was given. -/
theorem parse_accepts_grammar (s : String) :
    ((∃ v, parse s = .ok v) ↔ ∃ runs tail, Spells s.toList runs tail) ∧
    (∀ v runs tail, parse s = .ok v → Spells s.toList runs tail →
      v.segments = runs.map natOfDigits ∧ v.segments ≠ [] ∧
      (v.isPrerelease = true ↔ ∃ c ∈ tail, c ≠ '-' ∧ c ≠ '.' ∧ c ≠ '+')) ∧
    ∀ e, parse s = .error e → e.raw = s := by
  refine ⟨⟨?_, ?_⟩, ?_, fun e he => by rw [(parse_eq_error_iff.mp he).2]⟩
  · rintro ⟨v, hv⟩
    exact exists_spells_of_ofChars? (parse_eq_ok_iff.mp hv)
  · rintro ⟨runs, tail, h⟩
    exact ⟨_, parse_eq_ok_iff.mpr (ofChars?_of_spells h)⟩
  · intro v runs tail hv h
    rw [parse_eq_ok_iff, ofChars?_of_spells h] at hv
    obtain rfl := Option.some.inj hv
    refine ⟨rfl, by simpa using h.runs_ne_nil, ?_⟩
    rw [isPrerelease, isSome_tailSuffix?_iff]
    simp [isSeparator, and_assoc]

/-- White space beyond ASCII around it, a leading zero, the greatest number, dots before the tail, and a
tail that starts with separators.  With two dots before another number the text is refused. -/
theorem parse_accepts_grammar_greatest_number :
    let s := "\u00A007.18446744073709551615..-+ü\u3000"
    Spells s.toList ["07".toList, "18446744073709551615".toList] "-+ü".toList ∧
      (∃ v, parse s = .ok v ∧ v.segments = [7, 18446744073709551615] ∧ v.isPrerelease = true) ∧
      ∃ e, parse "\u00A07..1" = .error e ∧ e.raw = "\u00A07..1" := by
  intro s
  have hspells : Spells s.toList ["07".toList, "18446744073709551615".toList] "-+ü".toList := by
    refine ⟨by decide, ?_, fun c hc => ?_, 2, Text.surrounds_iff.mpr (by decide +kernel)⟩
    · intro run hrun
      rw [Text.isNumber_iff]
      simp only [List.mem_cons, List.not_mem_nil, or_false] at hrun
      rcases hrun with rfl | rfl <;> decide +kernel
    · obtain rfl : '-' = c := Option.some.inj hc
      decide
  obtain ⟨hiff, hread, _⟩ := parse_accepts_grammar s
  obtain ⟨v, hv⟩ := hiff.mpr ⟨_, _, hspells⟩
  obtain ⟨hsegments, _, hprerelease⟩ := hread v _ _ hv hspells
  have herror : parse "\u00A07..1" = .error ⟨"\u00A07..1"⟩ := by decide +kernel
  refine ⟨hspells, ⟨v, hv, ?_, hprerelease.mpr ⟨'ü', by decide, by decide⟩⟩, _, herror,
    (parse_accepts_grammar "\u00A07..1").2.2 _ herror⟩
  rw [hsegments]
  decide +kernel

end Version

end RequiredVersion
