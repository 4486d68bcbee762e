import RequiredVersion.Proofs.JsonText

/-! # Reading written JSON documents

Every value that is written in lines is read back as the document that it stands for, `Json.raw`
(`ofText?_pretty`, `ofBytes?_pretty`): its texts as code points, its numbers as literals.

A written number is a literal (`readNumber_chars`), and what follows a value in a document cannot be
part of it.  The fuel of the reader is measured by the characters that a value is written with. -/

namespace RequiredVersion

open Text (Glyph)

/-! ### Decimals -/

theorem Text.digitChar_ne_zero : ∀ n < 10, n ≠ 0 → n.digitChar ≠ '0' := by decide

theorem Text.decimal_of_ne_zero {n : Nat} (hn : n ≠ 0) : ∃ c cs, decimal n = c :: cs ∧ c ≠ '0' := by
  induction n using Nat.strongRecOn with
  | ind n ih =>
      rw [decimal, Nat.toDigits_eq_if (by decide)]
      split
      · next hlt => exact ⟨_, [], rfl, digitChar_ne_zero n hlt hn⟩
      · next hle =>
          obtain ⟨c, cs, hcs, hc⟩ := ih (n / 10) (by omega) (by omega)
          rw [decimal] at hcs
          exact ⟨c, cs ++ [(n % 10).digitChar], by rw [hcs]; rfl, hc⟩

namespace RawJson

/-! ### Parts of numbers -/

/-- Digits, and at least one. -/
structure IsDigits (ds : List Char) : Prop where
  ne_nil : ds ≠ []
  digit : ∀ c ∈ ds, c.isDigit = true

theorem isDigits_decimal (n : Nat) : IsDigits (Text.decimal n) :=
  ⟨Text.decimal_ne_nil n, fun _ h => Text.isDigit_of_mem_decimal h⟩

/-- A text that does not start with a digit. -/
def OffDigits (cs : List Glyph) : Prop := ∀ c, cs.head? = some (some c) → c.isDigit = false

theorem splitDigits_append {cs : List Glyph} (hcs : OffDigits cs) : ∀ {ds : List Char},
    (∀ c ∈ ds, c.isDigit = true) → splitDigits (ds.map some ++ cs) = (ds, cs)
  | [], _ => by
      rw [List.map_nil, List.nil_append]
      match cs with
      | [] => rfl
      | none :: cs => rfl
      | some c :: cs => rw [splitDigits, if_neg (by simp [hcs c rfl])]
  | d :: ds, h => by
      obtain ⟨hd, hds⟩ := List.forall_mem_cons.mp h
      rw [List.map_cons, List.cons_append, splitDigits, if_pos hd, splitDigits_append hcs hds]

theorem digits?_append {ds : List Char} (hds : IsDigits ds) {cs : List Glyph} (hcs : OffDigits cs) :
    digits? (ds.map some ++ cs) = some (ds, cs) := by
  obtain ⟨d, more, rfl⟩ := List.exists_cons_of_ne_nil hds.ne_nil
  rw [digits?, splitDigits_append hcs hds.digit]

/-- The whole part of a number: no zero stands before another digit. -/
structure IsWhole (ds : List Char) : Prop extends IsDigits ds where
  zero : ∀ cs, ds = '0' :: cs → cs = []

theorem wholePart?_append {ds : List Char} (hds : IsWhole ds) {cs : List Glyph} (hcs : OffDigits cs) :
    wholePart? (ds.map some ++ cs) = some (ds, cs) := by
  rw [wholePart?, digits?_append hds.toIsDigits hcs]
  split
  · next heq =>
      cases heq
      cases hds.zero _ rfl
  · rfl

theorem isWhole_decimal (n : Nat) : IsWhole (Text.decimal n) := by
  refine ⟨isDigits_decimal n, fun cs h => ?_⟩
  by_cases hn : n = 0
  · subst hn
    cases h
    rfl
  · obtain ⟨c, more, hc, hne⟩ := Text.decimal_of_ne_zero hn
    rw [hc] at h
    cases h
    exact absurd rfl hne

/-- The fraction of a number, if it has one. -/
inductive IsFraction : List Char → Prop where
  | absent : IsFraction []
  | present {ds : List Char} (h : IsDigits ds) : IsFraction ('.' :: ds)

/-- The exponent of a number, if it has one. -/
inductive IsExponent : List Char → Prop where
  | absent : IsExponent []
  | plus {ds : List Char} (h : IsDigits ds) : IsExponent ('e' :: '+' :: ds)
  | minus {ds : List Char} (h : IsDigits ds) : IsExponent ('e' :: '-' :: ds)

/-- A text that cannot go on with a number. -/
def OffNumber (cs : List Glyph) : Prop :=
  ∀ c, cs.head? = some (some c) → c.isDigit = false ∧ c ≠ '.' ∧ c ≠ 'e' ∧ c ≠ 'E'

theorem exponentPart?_append {exponent : List Char} (h : IsExponent exponent) {cs : List Glyph}
    (hcs : OffNumber cs) : exponentPart? (exponent.map some ++ cs) = some (exponent, cs) := by
  have hdigits : OffDigits cs := fun c hc => (hcs c hc).1
  cases h with
  | absent =>
      match cs with
      | [] => rfl
      | none :: cs => rfl
      | some c :: cs =>
          obtain ⟨_, _, he, hE⟩ := hcs c rfl
          rw [List.map_nil, List.nil_append, exponentPart?.eq_def]
          dsimp only
          rw [if_neg (not_or.mpr ⟨he, hE⟩)]
  | plus hds =>
      simp only [List.map_cons, List.cons_append, exponentPart?, true_or, if_true,
        digits?_append hds hdigits]
  | minus hds =>
      simp only [List.map_cons, List.cons_append, exponentPart?, true_or, if_true,
        digits?_append hds hdigits]

theorem fractionPart?_append {fraction : List Char} (h : IsFraction fraction) {cs : List Glyph}
    (hdigits : OffDigits cs) (hpoint : cs.head? ≠ some (some '.')) :
    fractionPart? (fraction.map some ++ cs) = some (fraction, cs) := by
  cases h with
  | absent =>
      rw [List.map_nil, List.nil_append, fractionPart?]
      rintro rest rfl
      exact hpoint rfl
  | present hds =>
      simp only [List.map_cons, List.cons_append, fractionPart?, digits?_append hds hdigits]

theorem IsExponent.off {exponent : List Char} (h : IsExponent exponent) {cs : List Glyph}
    (hcs : OffNumber cs) : OffDigits (exponent.map some ++ cs) ∧
      (exponent.map some ++ cs).head? ≠ some (some '.') := by
  have he : ∀ c, some (some 'e') = some (some c) → c.isDigit = false := by
    rintro c ⟨⟩
    decide
  cases h with
  | absent => exact ⟨fun c hc => (hcs c hc).1, fun hc => (hcs '.' hc).2.1 rfl⟩
  | plus _ => exact ⟨he, by simp⟩
  | minus _ => exact ⟨he, by simp⟩

theorem IsFraction.off {fraction : List Char} (h : IsFraction fraction) {cs : List Glyph}
    (hcs : OffDigits cs) : OffDigits (fraction.map some ++ cs) := by
  cases h with
  | absent => exact hcs
  | present _ =>
      rintro c ⟨⟩
      decide

/-- A number that is not negative, as it is written. -/
def IsMagnitude (literal : List Char) : Prop :=
  ∃ whole fraction exponent, literal = whole ++ (fraction ++ exponent) ∧ IsWhole whole ∧
    IsFraction fraction ∧ IsExponent exponent

theorem readMagnitude_append {literal : List Char} (h : IsMagnitude literal) {cs : List Glyph}
    (hcs : OffNumber cs) : readMagnitude (literal.map some ++ cs) = some (literal, cs) := by
  obtain ⟨whole, fraction, exponent, rfl, hwhole, hfraction, hexponent⟩ := h
  obtain ⟨hdigits, hpoint⟩ := hexponent.off hcs
  rw [List.map_append, List.map_append, List.append_assoc, List.append_assoc, readMagnitude,
    wholePart?_append hwhole (hfraction.off hdigits)]
  dsimp only
  rw [fractionPart?_append hfraction hdigits hpoint]
  dsimp only
  rw [exponentPart?_append hexponent hcs, ← List.append_assoc]

theorem IsMagnitude.head {literal : List Char} (h : IsMagnitude literal) :
    ∃ d ds, literal = d :: ds ∧ d.isDigit = true := by
  obtain ⟨whole, fraction, exponent, rfl, hwhole, _⟩ := h
  obtain ⟨d, ds, rfl⟩ := List.exists_cons_of_ne_nil hwhole.ne_nil
  exact ⟨d, _, rfl, hwhole.digit d List.mem_cons_self⟩

/-! ### Numbers -/

theorem isMagnitude_decimal (n : Nat) : IsMagnitude (Text.decimal n) :=
  ⟨_, [], [], by simp, isWhole_decimal n, .absent, .absent⟩

theorem isExponent_exponentChars (e : Int) : IsExponent (Json.exponentChars e) := by
  cases e with
  | ofNat n => exact .plus (isDigits_decimal n)
  | negSucc n => exact .minus (isDigits_decimal (n + 1))

theorem isDigit_of_mem_zeros {n : Nat} {c : Char} (h : c ∈ List.replicate n '0') :
    c.isDigit = true := by
  rw [List.eq_of_mem_replicate h]
  rfl

/-- **Fractions are written as literals**, in positions or with an exponent. -/
theorem isMagnitude_fractionChars (digits : Nat) (exponent : Int) :
    IsMagnitude (Json.fractionChars digits exponent) := by
  have hzero : IsWhole ['0'] := isWhole_decimal 0
  have hdigits := isDigits_decimal digits
  unfold Json.fractionChars
  dsimp only
  split
  · exact ⟨['0'], ['.', '0'], [], rfl, hzero, .present hzero.toIsDigits, .absent⟩
  next hne =>
  -- the digits of a number that is not zero start with none
  obtain ⟨d, ds, hds, hd⟩ := Text.decimal_of_ne_zero hne
  rw [hds] at hdigits ⊢
  obtain ⟨hfirst, hmore⟩ := List.forall_mem_cons.mp hdigits.digit
  have hwhole : ∀ cs, (∀ c ∈ cs, c.isDigit = true) → IsWhole (d :: cs) := fun cs hcs =>
    ⟨⟨List.cons_ne_nil d cs, List.forall_mem_cons.mpr ⟨hfirst, hcs⟩⟩,
      fun more heq => absurd (List.cons.inj heq).1 hd⟩
  split
  · refine ⟨d :: (ds ++ List.replicate exponent.toNat '0'), ['.', '0'], [], by simp, hwhole _ ?_,
      .present hzero.toIsDigits, .absent⟩
    exact List.forall_mem_append.mpr ⟨hmore, fun c hc => isDigit_of_mem_zeros hc⟩
  next hpositions =>
  split
  · next hpoint =>
      have hlength : (↑(d :: ds).length + exponent).toNat < (d :: ds).length := by omega
      obtain ⟨k, hk⟩ : ∃ k, (↑(d :: ds).length + exponent).toNat = k + 1 :=
        Nat.exists_eq_succ_of_ne_zero (by omega)
      rw [hk] at hlength ⊢
      refine ⟨d :: ds.take k, '.' :: ds.drop k, [], by simp,
        hwhole _ (fun c hc => hmore c (List.mem_of_mem_take hc)), .present ⟨?_, ?_⟩, .absent⟩
      · rw [ne_eq, List.drop_eq_nil_iff]
        rw [List.length_cons] at hlength
        omega
      · exact fun c hc => hmore c (List.mem_of_mem_drop hc)
  split
  · refine ⟨['0'], '.' :: (List.replicate _ '0' ++ d :: ds), [], by rw [List.append_nil]; rfl, hzero,
      .present ⟨by simp, ?_⟩, .absent⟩
    exact List.forall_mem_append.mpr ⟨fun c hc => isDigit_of_mem_zeros hc, hdigits.digit⟩
  · have hexponent := isExponent_exponentChars (↑(d :: ds).length + exponent - 1)
    cases ds with
    | nil => exact ⟨[d], [], _, rfl, hwhole [] (by simp), .absent, hexponent⟩
    | cons d' ds =>
        exact ⟨[d], '.' :: d' :: ds, _, by simp, hwhole [] (by simp),
          .present ⟨List.cons_ne_nil _ _, hmore⟩, hexponent⟩

/-- The characters that a number starts with. -/
def startsNumber (c : Char) : Bool := c.isDigit || c == '-'

theorem ne_of_startsNumber {c : Char} (h : startsNumber c = true) {d : Char}
    (hd : startsNumber d = false) : c ≠ d := by
  rintro rfl
  rw [h] at hd
  cases hd

theorem isBlank_of_startsNumber {c : Char} (h : startsNumber c = true) :
    isBlank (some c) = false := by
  simp [isBlank, ne_of_startsNumber h (show startsNumber ' ' = false by decide),
    ne_of_startsNumber h (show startsNumber '\t' = false by decide),
    ne_of_startsNumber h (show startsNumber '\n' = false by decide),
    ne_of_startsNumber h (show startsNumber '\r' = false by decide)]

theorem head_chars (n : Number) : ∃ c cs, n.chars = c :: cs ∧ startsNumber c = true := by
  have hdigit : ∀ {literal : List Char}, IsMagnitude literal →
      ∃ c cs, literal = c :: cs ∧ startsNumber c = true := by
    intro literal h
    obtain ⟨d, ds, hds, hd⟩ := h.head
    exact ⟨d, ds, hds, by rw [startsNumber, hd]; rfl⟩
  cases n with
  | int z =>
      cases z with
      | ofNat n => exact hdigit (isMagnitude_decimal n)
      | negSucc n => exact ⟨'-', _, rfl, rfl⟩
  | float negative digits exponent =>
      cases negative with
      | false => exact hdigit (isMagnitude_fractionChars digits exponent)
      | true => exact ⟨'-', _, rfl, rfl⟩

/-- **Numbers are written as literals.** -/
theorem readNumber_chars (n : Number) {cs : List Glyph} (hcs : OffNumber cs) :
    readNumber (n.chars.map some ++ cs) = some (n.chars, cs) := by
  have hminus : ∀ {literal : List Char}, IsMagnitude literal →
      readNumber (('-' :: literal).map some ++ cs) = some ('-' :: literal, cs) := by
    intro literal h
    rw [List.map_cons, List.cons_append, readNumber, readMagnitude_append h hcs]
    rfl
  have hplain : ∀ {literal : List Char}, IsMagnitude literal →
      readNumber (literal.map some ++ cs) = some (literal, cs) := by
    intro literal h
    obtain ⟨d, ds, rfl, hd⟩ := h.head
    rw [← readMagnitude_append h hcs, List.map_cons, List.cons_append, readNumber]
    rintro rest ⟨⟩
    exact absurd hd (by decide)
  cases n with
  | int z =>
      cases z with
      | ofNat n => exact hplain (isMagnitude_decimal n)
      | negSucc n => exact hminus (isMagnitude_decimal (n + 1))
  | float negative digits exponent =>
      have h := isMagnitude_fractionChars digits exponent
      cases negative with
      | false => exact hplain h
      | true => exact hminus h

end RawJson

/-! ### Values -/

namespace Json

/-- The code points of a text. -/
def units (s : String) : RawText := s.toList.map (fun c => some c.toNat)

mutual
/-- The document that a value is written as. -/
def raw : Json → RawJson
  | .null => .null
  | .bool b => .bool b
  | .num n => .num n.chars
  | .str s => .str (units s)
  | .arr items => .arr (rawItems items)
  | .obj members => .obj (rawMembers members)

def rawItems : List Json → List RawJson
  | [] => []
  | v :: vs => v.raw :: rawItems vs

def rawMembers : List (String × Json) → List (RawText × RawJson)
  | [] => []
  | (k, v) :: ms => (units k, v.raw) :: rawMembers ms
end

end Json

namespace RawJson

/-! ### Blanks -/

theorem skipBlanks_of_head {c : Char} (h : isBlank (some c) = false) (cs : List Glyph) :
    skipBlanks (some c :: cs) = some c :: cs := by
  rw [skipBlanks, List.dropWhile_cons_of_neg (by simp [h])]

theorem skipBlanks_skipBlanks (cs : List Glyph) : skipBlanks (skipBlanks cs) = skipBlanks cs := by
  cases h : skipBlanks cs with
  | nil => rfl
  | cons c more =>
      have hhead := List.head?_dropWhile_not isBlank cs
      rw [show cs.dropWhile isBlank = c :: more from h] at hhead
      exact List.dropWhile_cons_of_neg (by simpa using hhead)

theorem skipBlanks_newline (level : Nat) (cs : List Glyph) :
    skipBlanks ((Json.newline level).map some ++ cs) = skipBlanks cs := by
  refine List.dropWhile_append_of_pos (fun g hg => ?_)
  obtain ⟨c, hc, rfl⟩ := List.mem_map.mp hg
  rcases List.mem_cons.mp hc with rfl | hc
  · rfl
  · rw [List.eq_of_mem_replicate hc]
    rfl

section skip
variable (fuel : Nat) (cs : List Glyph)

theorem readValue_skipBlanks : readValue fuel (skipBlanks cs) = readValue fuel cs := by
  cases fuel with
  | zero => rfl
  | succ fuel => rw [readValue, readValue, skipBlanks_skipBlanks]

theorem readItems_skipBlanks : readItems fuel (skipBlanks cs) = readItems fuel cs := by
  cases fuel with
  | zero => rfl
  | succ fuel => rw [readItems, readItems, readValue_skipBlanks]

theorem readMembers_skipBlanks : readMembers fuel (skipBlanks cs) = readMembers fuel cs := by
  cases fuel with
  | zero => rfl
  | succ fuel => rw [readMembers, readMembers, skipBlanks_skipBlanks]

end skip

/-! ### Steps of the reader -/

section steps
variable {fuel : Nat} {c : Char} {cs more more' more'' rest rest' : List Glyph}

theorem readValue_num (hc : startsNumber c = true) {literal : List Char}
    (h : readNumber (some c :: cs) = some (literal, rest)) :
    readValue (fuel + 1) (some c :: cs) = some (.num literal, rest) := by
  rw [readValue, skipBlanks_of_head (isBlank_of_startsNumber hc)]
  split <;> rename_i heq
  case h_7 => rw [h]
  all_goals
    cases heq
    exact absurd hc (by decide)

theorem readValue_arr (h : skipBlanks cs = some c :: more) (hc : c ≠ ']') :
    readValue (fuel + 1) (some '[' :: cs) = (readItems fuel cs).map (fun r => (.arr r.1, r.2)) := by
  have hopen : skipBlanks (some '[' :: cs) = some '[' :: cs := skipBlanks_of_head rfl cs
  simp only [readValue, hopen]
  split
  · next heq =>
      rw [h] at heq
      cases heq
      exact absurd rfl hc
  · rw [readItems_skipBlanks]
    cases readItems fuel cs <;> rfl

theorem readValue_obj (h : skipBlanks cs = some c :: more) (hc : c ≠ '\x7d') :
    readValue (fuel + 1) (some '\x7b' :: cs) =
      (readMembers fuel cs).map (fun r => (.obj r.1, r.2)) := by
  have hopen : skipBlanks (some '\x7b' :: cs) = some '\x7b' :: cs := skipBlanks_of_head rfl cs
  simp only [readValue, hopen]
  split
  · next heq =>
      rw [h] at heq
      cases heq
      exact absurd rfl hc
  · rw [readMembers_skipBlanks]
    cases readMembers fuel cs <;> rfl

variable {item : RawJson} {items : List RawJson}

theorem readItems_last (hitem : readValue fuel cs = some (item, more))
    (hclose : skipBlanks more = some ']' :: rest) :
    readItems (fuel + 1) cs = some ([item], rest) := by
  simp only [readItems, hitem, hclose]

theorem readItems_cons (hitem : readValue fuel cs = some (item, more))
    (hsep : skipBlanks more = some ',' :: more')
    (hitems : readItems fuel more' = some (items, rest)) :
    readItems (fuel + 1) cs = some (item :: items, rest) := by
  simp only [readItems, hitem, hsep, hitems]

variable {key : RawText} {value : RawJson} {members : List (RawText × RawJson)}

theorem readMembers_last (hquote : skipBlanks cs = some '"' :: more)
    (hkey : readText more = some (key, some ':' :: more'))
    (hvalue : readValue fuel more' = some (value, more''))
    (hclose : skipBlanks more'' = some '\x7d' :: rest) :
    readMembers (fuel + 1) cs = some ([(key, value)], rest) := by
  have hcolon : skipBlanks (some ':' :: more') = some ':' :: more' := rfl
  simp only [readMembers, hquote, hkey, hcolon, hvalue, hclose]

theorem readMembers_cons (hquote : skipBlanks cs = some '"' :: more)
    (hkey : readText more = some (key, some ':' :: more'))
    (hvalue : readValue fuel more' = some (value, more''))
    (hsep : skipBlanks more'' = some ',' :: rest)
    (hmembers : readMembers fuel rest = some (members, rest')) :
    readMembers (fuel + 1) cs = some ((key, value) :: members, rest') := by
  have hcolon : skipBlanks (some ':' :: more') = some ':' :: more' := rfl
  simp only [readMembers, hquote, hkey, hcolon, hvalue, hsep, hmembers]

end steps

/-! ### Written values -/

/-- What a value starts with is no blank and does not close anything. -/
theorem head_prettyAt (level : Nat) (v : Json) : ∃ c cs, v.prettyAt level = c :: cs ∧
    isBlank (some c) = false ∧ c ≠ ']' ∧ c ≠ '\x7d' := by
  match v with
  | .null => exact ⟨_, _, rfl, by decide⟩
  | .bool true => exact ⟨_, _, rfl, by decide⟩
  | .bool false => exact ⟨_, _, rfl, by decide⟩
  | .num n =>
      obtain ⟨c, cs, hcs, hc⟩ := head_chars n
      exact ⟨c, cs, hcs, isBlank_of_startsNumber hc, ne_of_startsNumber hc (by decide),
        ne_of_startsNumber hc (by decide)⟩
  | .str s => exact ⟨_, _, rfl, by decide⟩
  | .arr [] => exact ⟨_, _, rfl, by decide⟩
  | .arr (v :: vs) => exact ⟨_, _, rfl, by decide⟩
  | .obj [] => exact ⟨_, _, rfl, by decide⟩
  | .obj (m :: ms) => exact ⟨_, _, rfl, by decide⟩

theorem offNumber_newline (level : Nat) (cs : List Glyph) :
    OffNumber ((Json.newline level).map some ++ cs) := by
  rintro c ⟨⟩
  decide

theorem readValue_newline (fuel level : Nat) (cs : List Glyph) :
    readValue fuel ((Json.newline level).map some ++ cs) = readValue fuel cs := by
  rw [← readValue_skipBlanks, skipBlanks_newline, readValue_skipBlanks]

theorem readValue_space (fuel : Nat) (cs : List Glyph) :
    readValue fuel (some ' ' :: cs) = readValue fuel cs := by
  rw [← readValue_skipBlanks, ← readValue_skipBlanks fuel cs]
  rfl

theorem exists_fuel {n fuel : Nat} (h : 2 * (n + 1) ≤ fuel) : ∃ f, fuel = f + 1 :=
  ⟨fuel - 1, by omega⟩

theorem length_newline (level : Nat) : (Json.newline level).length = 2 * level + 1 := by
  rw [Json.newline, List.length_cons, List.length_replicate]

theorem readText_quoted (s : String) (rest : List Glyph) :
    ∃ more, (Json.quoted s.toList).map some ++ rest = some '"' :: more ∧
      readText more = some (Json.units s, rest) := by
  refine ⟨_, ?_, readText_escaped rest s.toList⟩
  rw [Json.quoted, List.cons_append, List.map_cons, List.map_append, List.cons_append,
    List.append_assoc]
  rfl

theorem prettyItems_cons_cons (level : Nat) (v w : Json) (vs : List Json) :
    Json.prettyItems level (v :: w :: vs) =
      Json.newline level ++ (v.prettyAt level ++ ',' :: Json.prettyItems level (w :: vs)) := by
  rw [← List.append_assoc]
  rfl

theorem prettyMembers_singleton (level : Nat) (k : String) (v : Json) :
    Json.prettyMembers level [(k, v)] =
      Json.newline level ++ (Json.quoted k.toList ++ ':' :: ' ' :: v.prettyAt level) := by
  rw [← List.append_assoc]
  rfl

theorem prettyMembers_cons_cons (level : Nat) (k : String) (v : Json) (m : String × Json)
    (ms : List (String × Json)) :
    Json.prettyMembers level ((k, v) :: m :: ms) =
      Json.newline level ++ (Json.quoted k.toList ++ ':' :: ' ' ::
        (v.prettyAt level ++ ',' :: Json.prettyMembers level (m :: ms))) := by
  rw [← List.append_assoc]
  exact List.append_assoc _ (':' :: ' ' :: v.prettyAt level) _

theorem head_prettyItems (level : Nat) (v : Json) (vs : List Json) (cs : List Glyph) :
    ∃ c more, skipBlanks ((Json.prettyItems level (v :: vs)).map some ++ cs) = some c :: more ∧
      c ≠ ']' := by
  obtain ⟨c, more, hmore, hblank, hc, _⟩ := head_prettyAt level v
  have hitems : ∃ tail, Json.prettyItems level (v :: vs) = Json.newline level ++ (c :: tail) := by
    cases vs with
    | nil => exact ⟨more, by rw [← hmore]; rfl⟩
    | cons w vs => exact ⟨_, by rw [prettyItems_cons_cons, hmore, List.cons_append]⟩
  obtain ⟨tail, htail⟩ := hitems
  refine ⟨c, tail.map some ++ cs, ?_, hc⟩
  rw [htail, List.map_append, List.append_assoc, skipBlanks_newline]
  exact skipBlanks_of_head hblank _

theorem head_prettyMembers (level : Nat) (m : String × Json) (ms : List (String × Json))
    (cs : List Glyph) :
    ∃ more, skipBlanks ((Json.prettyMembers level (m :: ms)).map some ++ cs) = some '"' :: more := by
  have hmembers : ∃ tail,
      Json.prettyMembers level (m :: ms) = Json.newline level ++ ('"' :: tail) := by
    cases ms with
    | nil => exact ⟨_, prettyMembers_singleton level m.1 m.2⟩
    | cons m' ms => exact ⟨_, prettyMembers_cons_cons level m.1 m.2 m' ms⟩
  obtain ⟨tail, htail⟩ := hmembers
  refine ⟨tail.map some ++ cs, ?_⟩
  rw [htail, List.map_append, List.append_assoc, skipBlanks_newline]
  rfl

theorem offNumber_comma (cs : List Glyph) : OffNumber (some ',' :: cs) := by
  rintro c ⟨⟩
  decide

mutual
/-- **A written value is read back**, whatever follows that cannot go on with a number. -/
theorem readValue_prettyAt {level fuel : Nat} {rest : List Glyph} (hrest : OffNumber rest) :
    ∀ v : Json, 2 * (v.prettyAt level).length ≤ fuel →
      readValue fuel ((v.prettyAt level).map some ++ rest) = some (v.raw, rest)
  | .null, h => by
      obtain ⟨fuel, rfl⟩ := exists_fuel h
      rfl
  | .bool true, h => by
      obtain ⟨fuel, rfl⟩ := exists_fuel h
      rfl
  | .bool false, h => by
      obtain ⟨fuel, rfl⟩ := exists_fuel h
      rfl
  | .num n, h => by
      obtain ⟨c, cs, hcs, hc⟩ := head_chars n
      have hread := readNumber_chars n hrest
      rw [Json.prettyAt] at h ⊢
      rw [Json.raw]
      rw [hcs] at h hread ⊢
      obtain ⟨fuel, rfl⟩ := exists_fuel h
      exact readValue_num hc hread
  | .str s, h => by
      obtain ⟨fuel, rfl⟩ := exists_fuel h
      obtain ⟨more, hmore, htext⟩ := readText_quoted s rest
      have hopen : skipBlanks (some '"' :: more) = some '"' :: more := skipBlanks_of_head rfl more
      simp only [Json.prettyAt, hmore, readValue, hopen, htext]
      rfl
  | .arr [], h => by
      obtain ⟨fuel, rfl⟩ := exists_fuel h
      rfl
  | .arr (v :: vs), h => by
      obtain ⟨fuel, rfl⟩ := exists_fuel h
      rw [Json.prettyAt] at h ⊢
      simp only [List.cons_append, List.length_cons, List.length_append] at h
      have hitems := readItems_prettyItems (offNumber_newline level (some ']' :: rest))
        (skipBlanks_newline level (some ']' :: rest)) v vs
        (show 2 * (Json.prettyItems (level + 1) (v :: vs)).length ≤ fuel by omega)
      obtain ⟨c, more, hmore, hc⟩ := head_prettyItems (level + 1) v vs
        ((Json.newline level).map some ++ some ']' :: rest)
      simp only [List.cons_append, List.append_assoc, List.map_cons, List.map_append, List.map_nil,
        List.nil_append]
      rw [readValue_arr hmore hc, hitems]
      rfl
  | .obj [], h => by
      obtain ⟨fuel, rfl⟩ := exists_fuel h
      rfl
  | .obj ((k, v) :: ms), h => by
      obtain ⟨fuel, rfl⟩ := exists_fuel h
      rw [Json.prettyAt] at h ⊢
      simp only [List.cons_append, List.length_cons, List.length_append] at h
      have hmembers := readMembers_prettyMembers (offNumber_newline level (some '\x7d' :: rest))
        (skipBlanks_newline level (some '\x7d' :: rest)) k v ms
        (show 2 * (Json.prettyMembers (level + 1) ((k, v) :: ms)).length ≤ fuel by omega)
      obtain ⟨more, hmore⟩ := head_prettyMembers (level + 1) (k, v) ms
        ((Json.newline level).map some ++ some '\x7d' :: rest)
      simp only [List.cons_append, List.append_assoc, List.map_cons, List.map_append, List.map_nil,
        List.nil_append]
      rw [readValue_obj hmore (by decide), hmembers]
      rfl

/-- The items of an array, up to its bracket. -/
theorem readItems_prettyItems {level fuel : Nat} {close rest : List Glyph} (hoff : OffNumber close)
    (hclose : skipBlanks close = some ']' :: rest) : ∀ (v : Json) (vs : List Json),
      2 * (Json.prettyItems level (v :: vs)).length ≤ fuel →
        readItems fuel ((Json.prettyItems level (v :: vs)).map some ++ close) =
          some (Json.rawItems (v :: vs), rest)
  | v, [], h => by
      obtain ⟨fuel, rfl⟩ := exists_fuel h
      rw [Json.prettyItems, List.length_append, length_newline] at h
      have hitem := readValue_prettyAt hoff v (show 2 * (v.prettyAt level).length ≤ fuel by omega)
      rw [Json.prettyItems, List.map_append, List.append_assoc]
      exact readItems_last ((readValue_newline fuel level _).trans hitem) hclose
  | v, w :: vs, h => by
      obtain ⟨fuel, rfl⟩ := exists_fuel h
      rw [prettyItems_cons_cons, List.length_append, List.length_append, List.length_cons,
        length_newline] at h
      have hitems := readItems_prettyItems hoff hclose w vs
        (show 2 * (Json.prettyItems level (w :: vs)).length ≤ fuel by omega)
      have hitem := readValue_prettyAt
        (offNumber_comma ((Json.prettyItems level (w :: vs)).map some ++ close)) v
        (show 2 * (v.prettyAt level).length ≤ fuel by omega)
      rw [prettyItems_cons_cons, List.map_append, List.append_assoc, List.map_append,
        List.append_assoc]
      exact readItems_cons ((readValue_newline fuel level _).trans hitem) rfl hitems

/-- The members of an object, up to its brace. -/
theorem readMembers_prettyMembers {level fuel : Nat} {close rest : List Glyph}
    (hoff : OffNumber close) (hclose : skipBlanks close = some '\x7d' :: rest) :
    ∀ (k : String) (v : Json) (ms : List (String × Json)),
      2 * (Json.prettyMembers level ((k, v) :: ms)).length ≤ fuel →
        readMembers fuel ((Json.prettyMembers level ((k, v) :: ms)).map some ++ close) =
          some (Json.rawMembers ((k, v) :: ms), rest)
  | k, v, [], h => by
      obtain ⟨fuel, rfl⟩ := exists_fuel h
      rw [prettyMembers_singleton] at h ⊢
      simp only [List.length_append, List.length_cons] at h
      have hvalue := readValue_prettyAt hoff v (show 2 * (v.prettyAt level).length ≤ fuel by omega)
      rw [← readValue_space] at hvalue
      obtain ⟨more, hmore, hkey⟩ := readText_quoted k
        (some ':' :: some ' ' :: ((v.prettyAt level).map some ++ close))
      refine readMembers_last ?_ hkey hvalue hclose
      simp only [List.map_append, List.map_cons, List.append_assoc, List.cons_append]
      rw [skipBlanks_newline]
      exact congrArg skipBlanks hmore
  | k, v, (k', v') :: ms, h => by
      obtain ⟨fuel, rfl⟩ := exists_fuel h
      rw [prettyMembers_cons_cons] at h ⊢
      simp only [List.length_append, List.length_cons] at h
      have hmembers := readMembers_prettyMembers hoff hclose k' v' ms
        (show 2 * (Json.prettyMembers level ((k', v') :: ms)).length ≤ fuel by omega)
      have hvalue := readValue_prettyAt
        (offNumber_comma ((Json.prettyMembers level ((k', v') :: ms)).map some ++ close)) v
        (show 2 * (v.prettyAt level).length ≤ fuel by omega)
      rw [← readValue_space] at hvalue
      obtain ⟨more, hmore, hkey⟩ := readText_quoted k
        (some ':' :: some ' ' :: ((v.prettyAt level).map some ++ some ',' ::
          ((Json.prettyMembers level ((k', v') :: ms)).map some ++ close)))
      refine readMembers_cons ?_ hkey hvalue rfl hmembers
      simp only [List.map_append, List.map_cons, List.append_assoc, List.cons_append]
      rw [skipBlanks_newline]
      exact congrArg skipBlanks hmore
end

/-- **A written document is read back.** -/
theorem ofText?_pretty (v : Json) : ofText? v.pretty = some v.raw := by
  have hread : ∀ fuel, 2 * (v.prettyAt 0).length ≤ fuel →
      readValue fuel ((v.prettyAt 0).map some) = some (v.raw, []) := by
    intro fuel h
    have hvalue := readValue_prettyAt (show OffNumber [] from fun c hc => by cases hc) v h
    rwa [List.append_nil] at hvalue
  rw [ofText?, Text.glyphs, Json.pretty, String.toList_ofList, read?, hread _ (by simp)]
  rfl

theorem ofBytes?_pretty (v : Json) : ofBytes? v.pretty.toUTF8 = some v.raw := by
  rw [ofBytes?_toUTF8, ofText?_pretty]

/-! ### Names and lists -/

theorem mapM_map_eq_some {α β γ : Type} {f : β → Option γ} {g : α → β} {r : α → γ} :
    ∀ {l : List α}, (∀ a ∈ l, f (g a) = some (r a)) → (l.map g).mapM f = some (l.map r)
  | [], _ => rfl
  | a :: l, h => by
      obtain ⟨ha, hl⟩ := List.forall_mem_cons.mp h
      rw [List.map_cons, List.mapM_cons, ha, mapM_map_eq_some hl]
      rfl

theorem key?_units (s : String) : key? (Json.units s) = some s := by
  rw [key?, Json.units, unitsText?_toNat, Option.map_some, String.ofList_toList]

theorem rawMembers_eq_map : ∀ members : List (String × Json),
    Json.rawMembers members = members.map (fun m => (Json.units m.1, m.2.raw))
  | [] => rfl
  | (k, v) :: ms => by rw [Json.rawMembers, rawMembers_eq_map ms, List.map_cons]

end RawJson

end RequiredVersion
