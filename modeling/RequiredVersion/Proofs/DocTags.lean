import RequiredVersion.Lifespan
import RequiredVersion.Proofs.VersionGrammar

/-! # The versions that tags name

A tag of a doc comment counts where white space and a digit of any script follow it, and the version it
names is read from the longest token of digit runs and single dots there (`Lifespan.FirstToken`).  Such
a token need not be a version: it may start with a digit beyond ASCII, or have a number that is too
great (`Lifespan.Fits`).  Where it is one, its segments are the runs of ASCII digits that the token
starts with, and a suffix can only come from a digit beyond ASCII (`Lifespan.ofChars?_token`). -/

namespace RequiredVersion

namespace Text

theorem dropStart?_eq_some_iff : ∀ {start text rest : List Char},
    dropStart? start text = some rest ↔ text = start ++ rest
  | [], text, rest => by
      rw [dropStart?, Option.some.injEq, List.nil_append]
  | p :: ps, [], rest => by simp [dropStart?]
  | p :: ps, c :: cs, rest => by
      rw [dropStart?, List.cons_append, List.cons.injEq, ← dropStart?_eq_some_iff]
      by_cases h : p = c
      · simp [h]
      · simp [h, Ne.symm h]

theorem toNat_mem_of_isBlank {c : Char} (h : isBlank c = true) :
    c.toNat ∈ [0x09, 0x0A, 0x0B, 0x0C, 0x0D, 0x20, 0x85, 0xA0, 0x1680, 0x2000, 0x2001, 0x2002, 0x2003,
      0x2004, 0x2005, 0x2006, 0x2007, 0x2008, 0x2009, 0x200A, 0x2028, 0x2029, 0x202F, 0x205F, 0x3000] := by
  simp only [isBlank, Bool.or_eq_true, Bool.and_eq_true, decide_eq_true_eq, beq_iff_eq] at h
  simp only [List.mem_cons, List.not_mem_nil, or_false]
  omega

theorem isBlank_of_isDecimalDigit {c : Char} (h : isDecimalDigit c = true) : isBlank c = false := by
  rw [Bool.eq_false_iff]
  intro hblank
  have hnone : ∀ n ∈ [0x09, 0x0A, 0x0B, 0x0C, 0x0D, 0x20, 0x85, 0xA0, 0x1680, 0x2000, 0x2001, 0x2002,
      0x2003, 0x2004, 0x2005, 0x2006, 0x2007, 0x2008, 0x2009, 0x200A, 0x2028, 0x2029, 0x202F, 0x205F,
      0x3000], decimalDigitRuns.any (fun r => r.1 ≤ n && n ≤ r.2) = false := by
    decide +kernel
  rw [isDecimalDigit, hnone _ (toNat_mem_of_isBlank hblank)] at h
  cases h

theorem ne_of_isDecimalDigit {c : Char} (h : isDecimalDigit c = true) : c ≠ '-' ∧ c ≠ '.' ∧ c ≠ '+' := by
  refine ⟨?_, ?_, ?_⟩ <;> rintro rfl <;> revert h <;> decide +kernel

end Text

namespace Lifespan

open Text (isBlank isDecimalDigit natOfDigits)

/-! ### Tokens -/

/-- Digits of any script, with single dots between some of them. -/
inductive IsToken : List Char → Prop where
  | digit {c : Char} (hc : isDecimalDigit c = true) : IsToken [c]
  | more {c : Char} {token : List Char} (hc : isDecimalDigit c = true) (htoken : IsToken token) :
      IsToken (c :: token)
  | dot {c : Char} {token : List Char} (hc : isDecimalDigit c = true) (htoken : IsToken token) :
      IsToken (c :: '.' :: token)

/-- The longest token at the front of a text. -/
structure LongestToken (cs token : List Char) : Prop where
  isToken : IsToken token
  starts : token <+: cs
  longest : ∀ other, IsToken other → other <+: cs → other.length ≤ token.length

theorem IsToken.exists_cons {token : List Char} (h : IsToken token) :
    ∃ c rest, token = c :: rest ∧ isDecimalDigit c = true := by
  cases h with
  | digit hc => exact ⟨_, _, rfl, hc⟩
  | more hc _ => exact ⟨_, _, rfl, hc⟩
  | dot hc _ => exact ⟨_, _, rfl, hc⟩

theorem dottedDigits_of_digit {c : Char} (hc : isDecimalDigit c = true) (cs : List Char) :
    dottedDigits (c :: cs) = c :: dottedDigits cs := by
  cases cs with
  | nil => simp [dottedDigits, hc]
  | cons d rest => rw [dottedDigits, if_pos (.inl hc)]

theorem dottedDigits_of_dot {d : Char} (hd : isDecimalDigit d = true) (cs : List Char) :
    dottedDigits ('.' :: d :: cs) = '.' :: dottedDigits (d :: cs) := by
  rw [dottedDigits, if_pos (.inr ⟨rfl, hd⟩)]

theorem dottedDigits_starts : ∀ cs : List Char, dottedDigits cs <+: cs
  | [] => List.prefix_rfl
  | [c] => by
      rw [dottedDigits]
      split
      · exact List.prefix_rfl
      · exact List.nil_prefix
  | c :: d :: rest => by
      rw [dottedDigits]
      split
      · exact List.cons_prefix_cons.mpr ⟨rfl, dottedDigits_starts (d :: rest)⟩
      · exact List.nil_prefix

theorem prefix_dottedDigits {token : List Char} (h : IsToken token) :
    ∀ {cs}, token <+: cs → token <+: dottedDigits cs := by
  induction h with
  | digit hc =>
      rintro _ ⟨rest, rfl⟩
      rw [List.singleton_append, dottedDigits_of_digit hc]
      exact ⟨_, rfl⟩
  | more hc _ ih =>
      rintro _ ⟨rest, rfl⟩
      rw [List.cons_append, dottedDigits_of_digit hc]
      exact List.cons_prefix_cons.mpr ⟨rfl, ih (List.prefix_append _ _)⟩
  | dot hc htoken ih =>
      rintro _ ⟨rest, rfl⟩
      obtain ⟨d, more, rfl, hd⟩ := htoken.exists_cons
      rw [List.cons_append, List.cons_append, dottedDigits_of_digit hc, List.cons_append,
        dottedDigits_of_dot hd]
      exact List.cons_prefix_cons.mpr ⟨rfl, List.cons_prefix_cons.mpr ⟨rfl, ih (List.prefix_append _ _)⟩⟩

theorem isToken_dottedDigits : ∀ {c : Char} {cs : List Char}, isDecimalDigit c = true →
    IsToken (dottedDigits (c :: cs))
  | c, [], hc => by
      rw [dottedDigits_of_digit hc, dottedDigits]
      exact .digit hc
  | c, [d], hc => by
      rw [dottedDigits_of_digit hc]
      by_cases hd : isDecimalDigit d = true
      · exact .more hc (isToken_dottedDigits hd)
      · rw [dottedDigits, if_neg hd]
        exact .digit hc
  | c, d :: e :: rest, hc => by
      rw [dottedDigits_of_digit hc]
      by_cases hd : isDecimalDigit d = true
      · exact .more hc (isToken_dottedDigits hd)
      · by_cases hdot : d = '.' ∧ isDecimalDigit e = true
        · obtain ⟨rfl, he⟩ := hdot
          rw [dottedDigits_of_dot he]
          exact .dot hc (isToken_dottedDigits he)
        · rw [dottedDigits, if_neg (fun h => h.elim hd hdot)]
          exact .digit hc

theorem longestToken_iff {c : Char} {cs token : List Char} (hc : isDecimalDigit c = true) :
    LongestToken (c :: cs) token ↔ token = dottedDigits (c :: cs) := by
  constructor
  · intro h
    have hlength := h.longest _ (isToken_dottedDigits hc) (dottedDigits_starts _)
    exact (prefix_dottedDigits h.isToken h.starts).eq_of_length_le hlength
  · rintro rfl
    exact ⟨isToken_dottedDigits hc, dottedDigits_starts _,
      fun other hother hstarts => (prefix_dottedDigits hother hstarts).length_le⟩

/-! ### Tags -/

/-- A text starts with a tag that counts: white space and a digit follow, and `number` is the text from
the digit on. -/
def TagCounts (tag cs number : List Char) : Prop :=
  ∃ blanks d rest, cs = tag ++ (blanks ++ number) ∧ blanks ≠ [] ∧
    (∀ c ∈ blanks, isBlank c = true) ∧ number = d :: rest ∧ isDecimalDigit d = true

/-- The token behind the leftmost tag that counts. -/
def FirstToken (tag doc token : List Char) : Prop :=
  ∃ before cs number, doc = before ++ cs ∧ TagCounts tag cs number ∧
    (∀ before' cs' number', doc = before' ++ cs' → TagCounts tag cs' number' →
      before.length ≤ before'.length) ∧
    LongestToken number token

theorem numberAfter?_eq_some_iff {cs token : List Char} :
    numberAfter? cs = some token ↔
      ∃ number, TagCounts [] cs number ∧ LongestToken number token := by
  constructor
  · intro h
    unfold numberAfter? at h
    split at h
    · next b rest =>
        split at h
        · next hb =>
            split at h
            · next d more hdrop =>
                split at h
                · next hd =>
                    refine ⟨d :: more, ⟨(b :: rest).takeWhile isBlank, d, more, ?_, ?_, ?_, rfl, hd⟩, ?_⟩
                    · rw [List.nil_append, ← hdrop, List.takeWhile_append_dropWhile]
                    · rw [List.takeWhile_cons_of_pos hb]
                      exact List.cons_ne_nil _ _
                    · exact fun c hc => List.mem_takeWhile_imp hc
                    · exact (longestToken_iff hd).mpr (Option.some.inj h).symm
                · cases h
            · cases h
        · cases h
    · cases h
  · rintro ⟨_, ⟨blanks, d, rest, rfl, hne, hblanks, rfl, hd⟩, htoken⟩
    have hdrop : (blanks ++ d :: rest).dropWhile isBlank = d :: rest := by
      refine Text.dropWhile_append_of_head hblanks (fun c hc => ?_)
      rw [← Option.some.inj hc]
      exact Text.isBlank_of_isDecimalDigit hd
    obtain ⟨b, more, rfl⟩ := List.exists_cons_of_ne_nil hne
    rw [(longestToken_iff hd).mp htoken]
    unfold numberAfter?
    rw [List.nil_append, List.cons_append] at *
    simp only [hblanks b List.mem_cons_self, if_true, hdrop, hd]

theorem dropStart?_bind_numberAfter? {tag cs token : List Char} :
    (Text.dropStart? tag cs).bind numberAfter? = some token ↔
      ∃ number, TagCounts tag cs number ∧ LongestToken number token := by
  simp only [Option.bind_eq_some_iff, Text.dropStart?_eq_some_iff, numberAfter?_eq_some_iff]
  constructor
  · rintro ⟨_, rfl, number, ⟨blanks, d, rest, rfl, h⟩, htoken⟩
    exact ⟨number, ⟨blanks, d, rest, rfl, h⟩, htoken⟩
  · rintro ⟨number, ⟨blanks, d, rest, rfl, h⟩, htoken⟩
    exact ⟨_, rfl, number, ⟨blanks, d, rest, rfl, h⟩, htoken⟩

theorem TagCounts.exists_token {tag cs number : List Char} (h : TagCounts tag cs number) :
    ∃ token, LongestToken number token := by
  obtain ⟨_, d, rest, _, _, _, rfl, hd⟩ := h
  exact ⟨_, (longestToken_iff hd).mpr rfl⟩

theorem not_tagCounts_nil {tag number : List Char} : ¬TagCounts tag [] number := by
  rintro ⟨blanks, _, _, hcs, hne, _⟩
  obtain ⟨_, hnil⟩ := List.append_eq_nil_iff.mp hcs.symm
  exact hne (List.append_eq_nil_iff.mp hnil).1

theorem not_firstToken_nil {tag token : List Char} : ¬FirstToken tag [] token := by
  rintro ⟨before, cs, number, hdoc, hcounts, _⟩
  obtain ⟨_, rfl⟩ := List.append_eq_nil_iff.mp hdoc.symm
  exact not_tagCounts_nil hcounts

/-- If a text starts with a tag that counts, its token is behind this tag. -/
theorem firstToken_iff_of_tagCounts {tag doc number token : List Char}
    (h : TagCounts tag doc number) :
    FirstToken tag doc token ↔ (Text.dropStart? tag doc).bind numberAfter? = some token := by
  rw [dropStart?_bind_numberAfter?]
  constructor
  · rintro ⟨before, cs, number', hdoc, hcounts, hleft, htoken⟩
    have hlength := hleft [] doc number rfl h
    obtain rfl := List.length_eq_zero_iff.mp (Nat.le_zero.mp hlength)
    obtain rfl : doc = cs := hdoc
    exact ⟨number', hcounts, htoken⟩
  · rintro ⟨number', hcounts, htoken⟩
    exact ⟨[], doc, number', rfl, hcounts, fun _ _ _ _ _ => Nat.zero_le _, htoken⟩

/-- If no tag counts right here, the next character is as good a start. -/
theorem firstToken_cons_iff {tag doc token : List Char} {c : Char}
    (h : ∀ number, ¬TagCounts tag (c :: doc) number) :
    FirstToken tag (c :: doc) token ↔ FirstToken tag doc token := by
  constructor
  · rintro ⟨before, cs, number, hdoc, hcounts, hleft, htoken⟩
    cases before with
    | nil => exact absurd (hdoc ▸ hcounts) (h number)
    | cons c' before =>
        obtain ⟨rfl, rfl⟩ := List.cons.inj hdoc
        refine ⟨before, cs, number, rfl, hcounts, fun before' cs' number' hdoc hcounts' => ?_, htoken⟩
        have hlength := hleft (c :: before') cs' number' (by rw [hdoc, List.cons_append]) hcounts'
        exact Nat.le_of_succ_le_succ hlength
  · rintro ⟨before, cs, number, rfl, hcounts, hleft, htoken⟩
    refine ⟨c :: before, cs, number, rfl, hcounts, fun before' cs' number' hdoc hcounts' => ?_, htoken⟩
    cases before' with
    | nil => exact absurd (hdoc ▸ hcounts') (h number')
    | cons c' before' =>
        exact Nat.succ_le_succ (hleft before' cs' number' (List.cons.inj hdoc).2 hcounts')

/-- **The first tag that counts decides.** -/
theorem firstTagged?_eq_some_iff {tag token : List Char} : ∀ {doc : List Char},
    firstTagged? tag doc = some token ↔ FirstToken tag doc token
  | [] => by
      rw [firstTagged?]
      exact iff_of_false (Option.some_ne_none token).symm not_firstToken_nil
  | c :: doc => by
      rw [firstTagged?]
      cases hhere : (Text.dropStart? tag (c :: doc)).bind numberAfter? with
      | some found =>
          obtain ⟨number, hcounts, _⟩ := dropStart?_bind_numberAfter?.mp hhere
          rw [firstToken_iff_of_tagCounts hcounts, hhere]
      | none =>
          have hnone : ∀ number, ¬TagCounts tag (c :: doc) number := by
            intro number hcounts
            obtain ⟨found, hfound⟩ := hcounts.exists_token
            rw [dropStart?_bind_numberAfter?.mpr ⟨number, hcounts, hfound⟩] at hhere
            cases hhere
          rw [firstToken_cons_iff hnone]
          exact firstTagged?_eq_some_iff

theorem FirstToken.isToken {tag doc token : List Char} (h : FirstToken tag doc token) :
    IsToken token := by
  obtain ⟨_, _, _, _, _, _, htoken⟩ := h
  exact htoken.isToken

/-! ### Reading a token -/

/-- The runs of digits in the longest front of a token that has only ASCII digits and dots. -/
def asciiRuns (token : List Char) : List (List Char) :=
  ((token.takeWhile (fun c => c.isDigit || c == '.')).splitOn '.').filter (fun run => !run.isEmpty)

/-- A text starts with an ASCII digit. -/
def StartsWithDigit (cs : List Char) : Prop := ∃ c, cs.head? = some c ∧ c.isDigit = true

/-- A token is a version: it starts with an ASCII digit, and the numbers there have at most 64 bits. -/
def Fits (token : List Char) : Prop :=
  StartsWithDigit token ∧ ∀ run ∈ asciiRuns token, natOfDigits run < 2 ^ 64

theorem IsToken.mem {token : List Char} (h : IsToken token) {c : Char} (hc : c ∈ token) :
    isDecimalDigit c = true ∨ c = '.' := by
  induction h with
  | digit hd =>
      rw [List.mem_singleton.mp hc]
      exact .inl hd
  | more hd _ ih =>
      rcases List.mem_cons.mp hc with rfl | hc
      · exact .inl hd
      · exact ih hc
  | dot hd _ ih =>
      rcases List.mem_cons.mp hc with rfl | hc
      · exact .inl hd
      · rcases List.mem_cons.mp hc with rfl | hc
        · exact .inr rfl
        · exact ih hc

theorem IsToken.getLast {token : List Char} (h : IsToken token) :
    ∀ {c}, token.getLast? = some c → isDecimalDigit c = true := by
  induction h with
  | digit hd =>
      rintro c hc
      obtain rfl := Option.some.inj hc
      exact hd
  | more _ htoken ih =>
      intro c hc
      obtain ⟨d, rest, rfl, _⟩ := htoken.exists_cons
      rw [List.getLast?_cons_cons] at hc
      exact ih hc
  | dot _ htoken ih =>
      intro c hc
      obtain ⟨d, rest, rfl, _⟩ := htoken.exists_cons
      rw [List.getLast?_cons_cons, List.getLast?_cons_cons] at hc
      exact ih hc

theorem IsToken.surrounds_iff {token body : List Char} (h : IsToken token) :
    Text.Surrounds token body ↔ token = body := by
  obtain ⟨c, rest, rfl, hc⟩ := h.exists_cons
  rw [Text.surrounds_iff, Text.trim_of_ends]
  · intro d hd
    rw [← Option.some.inj hd]
    exact Text.isBlank_of_isDecimalDigit hc
  · exact fun d hd => Text.isBlank_of_isDecimalDigit (h.getLast hd)

theorem splitOn_replicate (dots : Nat) :
    (List.replicate dots '.').splitOn '.' = List.replicate (dots + 1) [] := by
  induction dots with
  | zero => rfl
  | succ dots ih =>
      rw [← Text.splitAt_eq_splitOn] at ih ⊢
      rw [List.replicate_succ, Text.splitAt, if_pos rfl, ih]
      rfl

/-- Runs of ASCII digits, none of them empty. -/
def DigitRuns (runs : List (List Char)) : Prop :=
  ∀ run ∈ runs, run ≠ [] ∧ ∀ c ∈ run, c.isDigit = true

theorem digitRuns_singleton {c : Char} (hc : c.isDigit = true) : DigitRuns [[c]] := by
  intro run hrun
  rw [List.mem_singleton.mp hrun]
  exact ⟨List.cons_ne_nil _ _, fun d hd => by rw [List.mem_singleton.mp hd]; exact hc⟩

theorem DigitRuns.startsWithDigit {runs : List (List Char)} (h : DigitRuns runs) (hne : runs ≠ [])
    (rest : List Char) : StartsWithDigit (['.'].intercalate runs ++ rest) := by
  obtain ⟨run, more, rfl⟩ := List.exists_cons_of_ne_nil hne
  obtain ⟨hrun, hdigits⟩ := h run List.mem_cons_self
  obtain ⟨c, cs, rfl⟩ := List.exists_cons_of_ne_nil hrun
  refine ⟨c, ?_, hdigits c List.mem_cons_self⟩
  cases more with
  | nil => simp
  | cons next more => simp [List.intercalate_cons_cons]

theorem DigitRuns.mem_front {runs : List (List Char)} (h : DigitRuns runs) {dots : Nat} {c : Char}
    (hc : c ∈ ['.'].intercalate runs ++ List.replicate dots '.') : c.isDigit = true ∨ c = '.' := by
  rcases List.mem_append.mp hc with hc | hc
  · rcases Text.mem_intercalate hc with hdot | ⟨run, hrun, hc⟩
    · exact .inr hdot
    · exact .inl ((h run hrun).2 c hc)
  · exact .inr (List.eq_of_mem_replicate hc)

/-- The numbers that a token starts with are its runs of ASCII digits. -/
theorem asciiRuns_eq {runs : List (List Char)} {tail : List Char} (dots : Nat)
    (hne : runs ≠ []) (hruns : DigitRuns runs)
    (htail : ∀ c, tail.head? = some c → c.isDigit = false ∧ c ≠ '.') :
    asciiRuns (['.'].intercalate runs ++ List.replicate dots '.' ++ tail) = runs := by
  have hfront : ∀ c ∈ ['.'].intercalate runs ++ List.replicate dots '.',
      (c.isDigit || c == '.') = true := by
    intro c hc
    rcases hruns.mem_front hc with hdigit | rfl
    · rw [hdigit, Bool.true_or]
    · rfl
  have hstop : ∀ c, tail.head? = some c → (c.isDigit || c == '.') = false := by
    intro c hc
    rw [(htail c hc).1, beq_false_of_ne (htail c hc).2]
    rfl
  have hclean : ∀ run ∈ runs, '.' ∉ run := fun run hrun hdot =>
    absurd ((hruns run hrun).2 _ hdot) (by decide)
  have hkept : runs.filter (fun run => !run.isEmpty) = runs := by
    refine List.filter_eq_self.mpr (fun run hrun => ?_)
    simpa using (hruns run hrun).1
  rw [asciiRuns, Text.takeWhile_append_of_head hfront hstop]
  cases dots with
  | zero =>
      rw [List.replicate_zero, List.append_nil, List.splitOn_intercalate '.' hclean hne, hkept]
  | succ dots =>
      rw [List.replicate_succ, ← Text.splitAt_eq_splitOn, Text.splitAt_append_cons,
        Text.splitAt_intercalate hne hclean, Text.splitAt_eq_splitOn, splitOn_replicate,
        List.filter_append, hkept, List.filter_eq_nil_iff.mpr, List.append_nil]
      intro run hrun
      rw [List.eq_of_mem_replicate hrun]
      decide

theorem IsToken.head_of_not_startsWithDigit {token : List Char} (h : IsToken token)
    (hnot : ¬StartsWithDigit token) : ∀ c, token.head? = some c → c.isDigit = false ∧ c ≠ '.' := by
  intro c hc
  obtain ⟨d, rest, rfl, hd⟩ := h.exists_cons
  obtain rfl := Option.some.inj hc
  exact ⟨Bool.eq_false_iff.mpr (fun hdigit => hnot ⟨d, rfl, hdigit⟩), (Text.ne_of_isDecimalDigit hd).2.1⟩

/-- A token that starts with an ASCII digit is runs of such digits, perhaps a dot, and the rest from the
first other digit on. -/
theorem IsToken.exists_runs {token : List Char} (h : IsToken token) :
    StartsWithDigit token →
      ∃ runs dots tail, token = ['.'].intercalate runs ++ List.replicate dots '.' ++ tail ∧ runs ≠ [] ∧
        DigitRuns runs ∧ ∀ c, tail.head? = some c → c.isDigit = false ∧ c ≠ '.' := by
  -- a digit before runs goes to the first of them, and makes a run of its own before anything else
  induction h with
  | @digit c hd =>
      rintro ⟨d, hhead, hc⟩
      obtain rfl : c = d := Option.some.inj hhead
      exact ⟨[[c]], 0, [], rfl, by simp, digitRuns_singleton hc, fun c hc => by cases hc⟩
  | @more c t hd ht ih =>
      rintro ⟨d, hhead, hc⟩
      obtain rfl : c = d := Option.some.inj hhead
      by_cases hnext : StartsWithDigit t
      · obtain ⟨runs, dots, tail, rfl, hne, hruns, htail⟩ := ih hnext
        obtain ⟨run, rest, rfl⟩ := List.exists_cons_of_ne_nil hne
        obtain ⟨hrun, hrest⟩ := List.forall_mem_cons.mp hruns
        refine ⟨(c :: run) :: rest, dots, tail, ?_, by simp, List.forall_mem_cons.mpr ⟨?_, hrest⟩, htail⟩
        · cases rest with
          | nil => simp
          | cons next rest => simp [List.intercalate_cons_cons]
        · exact ⟨List.cons_ne_nil _ _, List.forall_mem_cons.mpr ⟨hc, hrun.2⟩⟩
      · exact ⟨[[c]], 0, t, rfl, by simp, digitRuns_singleton hc,
          ht.head_of_not_startsWithDigit hnext⟩
  | @dot c t hd ht ih =>
      rintro ⟨d, hhead, hc⟩
      obtain rfl : c = d := Option.some.inj hhead
      by_cases hnext : StartsWithDigit t
      · obtain ⟨runs, dots, tail, rfl, hne, hruns, htail⟩ := ih hnext
        obtain ⟨run, rest, rfl⟩ := List.exists_cons_of_ne_nil hne
        refine ⟨[c] :: run :: rest, dots, tail, by simp [List.intercalate_cons_cons], by simp, ?_, htail⟩
        exact List.forall_mem_cons.mpr ⟨digitRuns_singleton hc _ List.mem_cons_self, hruns⟩
      · exact ⟨[[c]], 1, t, rfl, by simp, digitRuns_singleton hc,
          ht.head_of_not_startsWithDigit hnext⟩

/-- What reading makes of a token that writes a version. -/
structure ReadAs (token : List Char) (v : Version) : Prop where
  segments : v.segments = (asciiRuns token).map natOfDigits
  isPrerelease_iff : v.isPrerelease = true ↔ ∃ c ∈ token, isDecimalDigit c = true ∧ c.isDigit = false

theorem readAs_of_spells {token tail : List Char} {runs : List (List Char)} (htoken : IsToken token)
    (h : Version.Spells token runs tail) :
    Fits token ∧ ReadAs token ⟨runs.map natOfDigits, Version.tailSuffix? tail⟩ := by
  obtain ⟨dots, hsurrounds⟩ := h.surrounds
  obtain rfl := htoken.surrounds_iff.mp hsurrounds
  have hruns : DigitRuns runs := fun run hrun =>
    ⟨(h.isNumber run hrun).ne_nil, (h.isNumber run hrun).isDigit⟩
  have hascii := asciiRuns_eq dots h.runs_ne_nil hruns h.head_tail
  refine ⟨⟨?_, ?_⟩, ⟨by rw [hascii], ?_⟩⟩
  · rw [List.append_assoc]
    exact hruns.startsWithDigit h.runs_ne_nil _
  · rw [hascii]
    exact fun run hrun => (h.isNumber run hrun).value_lt
  · rw [Version.isPrerelease, Version.isSome_tailSuffix?_iff]
    constructor
    · rintro ⟨c, hc, _⟩
      -- the first character of the tail is a digit beyond ASCII
      obtain ⟨d, rest, rfl⟩ := List.exists_cons_of_ne_nil (List.ne_nil_of_mem hc)
      obtain ⟨hdigit, hdot⟩ := h.head_tail d rfl
      have hmem : d ∈ ['.'].intercalate runs ++ List.replicate dots '.' ++ d :: rest := by simp
      exact ⟨d, hmem, (htoken.mem hmem).resolve_right hdot, hdigit⟩
    · rintro ⟨c, hc, hdecimal, hdigit⟩
      obtain ⟨hdash, hdot, hplus⟩ := Text.ne_of_isDecimalDigit hdecimal
      refine ⟨c, ?_, by simp [Version.isSeparator, hdash, hdot, hplus]⟩
      rcases List.mem_append.mp hc with hfront | htail
      · rcases hruns.mem_front hfront with hascii | hdot'
        · rw [hascii] at hdigit
          cases hdigit
        · exact absurd hdot' hdot
      · exact htail

/-- **A token is read exactly if it fits**, and as what its ASCII digits and the others say. -/
theorem ofChars?_token {token : List Char} (htoken : IsToken token) :
    ((Version.ofChars? token).isSome = true ↔ Fits token) ∧
      ∀ v, Version.ofChars? token = some v → ReadAs token v := by
  have hspells : ∀ v, Version.ofChars? token = some v → Fits token ∧ ReadAs token v := by
    intro v hv
    obtain ⟨runs, tail, h⟩ := Version.exists_spells_of_ofChars? hv
    rw [Version.ofChars?_of_spells h] at hv
    rw [← Option.some.inj hv]
    exact readAs_of_spells htoken h
  refine ⟨⟨fun h => ?_, fun hfits => ?_⟩, fun v hv => (hspells v hv).2⟩
  · obtain ⟨v, hv⟩ := Option.isSome_iff_exists.mp h
    exact (hspells v hv).1
  · obtain ⟨runs, dots, tail, heq, hne, hruns, htail⟩ := htoken.exists_runs hfits.1
    have hascii : asciiRuns token = runs := by
      rw [heq]
      exact asciiRuns_eq dots hne hruns htail
    have hnumbers : ∀ run ∈ runs, Text.IsNumber run := fun run hrun =>
      ⟨(hruns run hrun).1, (hruns run hrun).2, hfits.2 run (hascii ▸ hrun)⟩
    rw [Version.ofChars?_of_spells ⟨hne, hnumbers, htail, dots, htoken.surrounds_iff.mpr heq⟩]
    rfl

/-! ### Doc comments -/

/-- What a tag of a doc comment gives: a version exactly if the first token fits, and then the one that
the token is read as. -/
structure TagGives (tag : String) (doc : String) (o : Option Version) : Prop where
  isSome_iff : o.isSome = true ↔ ∃ token, FirstToken tag.toList doc.toList token ∧ Fits token
  readAs : ∀ v token, o = some v → FirstToken tag.toList doc.toList token → ReadAs token v

theorem tagGives (tag doc : String) : TagGives tag doc (taggedVersion? tag doc.toList) := by
  unfold taggedVersion?
  constructor
  · rw [Option.isSome_bind, Option.any_eq_true]
    constructor
    · rintro ⟨token, hfirst, hsome⟩
      rw [firstTagged?_eq_some_iff] at hfirst
      exact ⟨token, hfirst, (ofChars?_token hfirst.isToken).1.mp hsome⟩
    · rintro ⟨token, hfirst, hfits⟩
      exact ⟨token, firstTagged?_eq_some_iff.mpr hfirst, (ofChars?_token hfirst.isToken).1.mpr hfits⟩
  · intro v token hv hfirst
    rw [firstTagged?_eq_some_iff.mpr hfirst, Option.bind_some] at hv
    exact (ofChars?_token hfirst.isToken).2 v hv

/-- All digits of a doc comment are ASCII digits. -/
def PlainDigits (doc : String) : Prop :=
  ∀ c ∈ doc.toList, isDecimalDigit c = true → c.isDigit = true

instance (doc : String) : Decidable (PlainDigits doc) :=
  decidable_of_iff (doc.toList.all (fun c => !isDecimalDigit c || c.isDigit) = true) (by
    simp only [PlainDigits, List.all_eq_true, Bool.or_eq_true, Bool.not_eq_true']
    refine forall₂_congr (fun c _ => ?_)
    cases isDecimalDigit c <;> simp)

theorem FirstToken.mem_doc {tag doc token : List Char} (h : FirstToken tag doc token) {c : Char}
    (hc : c ∈ token) : c ∈ doc := by
  obtain ⟨before, _, number, rfl, ⟨blanks, _, _, rfl, _⟩, _, htoken⟩ := h
  have hnumber : c ∈ number := htoken.starts.subset hc
  simp [hnumber]

theorem isPrerelease_of_plainDigits {tag doc : String} (hdoc : PlainDigits doc) {v : Version}
    (hv : taggedVersion? tag doc.toList = some v) : v.isPrerelease = false := by
  obtain ⟨token, hfirst, _⟩ := (tagGives tag doc).isSome_iff.mp (by rw [hv]; rfl)
  rw [Bool.eq_false_iff]
  intro hpre
  obtain ⟨c, hc, hdecimal, hdigit⟩ := ((tagGives tag doc).readAs v token hv hfirst).isPrerelease_iff.mp hpre
  rw [hdoc c (hfirst.mem_doc hc) hdecimal] at hdigit
  cases hdigit

/-! ### Lifespans -/

theorem map_since_ofDoc? (doc : String) :
    (ofDoc? doc).map since = taggedVersion? "@since" doc.toList := by
  rw [ofDoc?, Option.map_map]
  exact Option.map_id'

theorem deprecated_of_ofDoc? {doc : String} {a : Lifespan} (h : ofDoc? doc = some a) :
    a.deprecated = taggedVersion? "@deprecated" doc.toList := by
  obtain ⟨v, _, rfl⟩ := Option.map_eq_some_iff.mp h
  rfl

/-- A doc comment with ASCII digits only tells of no pre-release. -/
theorem releases_of_plainDigits {doc : String} (hdoc : PlainDigits doc) {a : Lifespan}
    (h : ofDoc? doc = some a) :
    a.since.isPrerelease = false ∧ ∀ v, a.deprecated = some v → v.isPrerelease = false := by
  have hsince : taggedVersion? "@since" doc.toList = some a.since := by
    rw [← map_since_ofDoc?, h, Option.map_some]
  refine ⟨isPrerelease_of_plainDigits hdoc hsince, fun v hv => ?_⟩
  rw [deprecated_of_ofDoc? h] at hv
  exact isPrerelease_of_plainDigits hdoc hv

end Lifespan

end RequiredVersion
