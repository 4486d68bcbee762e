import RequiredVersion.Json.Basic
import RequiredVersion.Text.Digit

/-! # Reading JSON numbers

A literal without fraction and exponent is a whole number as long as it fits 64 bits.  Every other
literal is read as a binary number of 64 bits: the first digits of its whole part, as many as fit a
word of 64 bits, and behind them those of its fraction, as many as still fit, are rounded to such a
number and then multiplied or divided by a power of ten, rounding again.  The number is kept as the
shortest decimal that rounds to it.

All of it is exact arithmetic on whole numbers. -/

namespace RequiredVersion

/-- The number `mantissa * 2 ^ exponent`, where `mantissa` has at most 53 bits. -/
structure Binary64 where
  mantissa : Nat
  exponent : Int
  deriving DecidableEq

namespace Binary64

/-- The least exponent of a binary number of 64 bits. -/
def leastExponent : Int := -1074

/-- The greatest exponent of a binary number of 64 bits. -/
def greatestExponent : Int := 971

/-- `num / den` in units of `2 ^ e`, as a fraction. -/
def inUnits (num den : Nat) (e : Int) : Nat × Nat :=
  if 0 ≤ e then (num, den * Nat.pow 2 e.toNat) else (num * Nat.pow 2 (-e).toNat, den)

/-- A fraction rounded to the nearest whole number, a half to the even one. -/
def roundHalfEven (num den : Nat) : Nat :=
  let q := num / den
  let r := num % den
  if den < 2 * r ∨ (2 * r = den ∧ q % 2 = 1) then q + 1 else q

/-- The binary number nearest to `num / den`; none where that exceeds all of them. -/
def ofQuotient? (num den : Nat) : Option Binary64 :=
  if num = 0 then some ⟨0, 0⟩
  else
    let e : Int := (num.log2 : Int) - den.log2 - 53
    let e := if (inUnits num den e).1 / (inUnits num den e).2 < 0x20000000000000 then e else e + 1
    let e := max leastExponent e
    let m := roundHalfEven (inUnits num den e).1 (inUnits num den e).2
    let (m, e) := if m = 0x20000000000000 then (0x10000000000000, e + 1) else (m, e)
    if greatestExponent < e then none else some ⟨m, e⟩

/-- The number as a fraction. -/
def fraction (b : Binary64) : Nat × Nat := inUnits b.mantissa 1 (-b.exponent)

def mul? (a b : Binary64) : Option Binary64 :=
  ofQuotient? (a.fraction.1 * b.fraction.1) (a.fraction.2 * b.fraction.2)

def div? (a b : Binary64) : Option Binary64 :=
  ofQuotient? (a.fraction.1 * b.fraction.2) (a.fraction.2 * b.fraction.1)

/-- The binary number nearest to a power of ten. -/
def powerOfTen? (k : Nat) : Option Binary64 := ofQuotient? (Nat.pow 10 k) 1

/-- The greatest power of ten below the greatest binary number. -/
def greatestPower : Nat := 308

/-- `b / 10 ^ k`, dividing by the greatest power first while `k` exceeds it. -/
def scaleDown? : Nat → Binary64 → Nat → Option Binary64
  | 0, _, _ => none
  | fuel + 1, b, k =>
    if k ≤ greatestPower then (powerOfTen? k).bind b.div?
    else if b.mantissa = 0 then some b
    else
      match (powerOfTen? greatestPower).bind b.div? with
      | some b => scaleDown? fuel b (k - greatestPower)
      | none => none

/-- `significand * 10 ^ exponent`; none where that exceeds all binary numbers. -/
def ofDecimal? (significand : Nat) (exponent : Int) : Option Binary64 :=
  match ofQuotient? significand 1 with
  | none => none
  | some b =>
    if 0 ≤ exponent then
      if exponent.toNat ≤ greatestPower then (powerOfTen? exponent.toNat).bind b.mul?
      else if b.mantissa = 0 then some b
      else none
    else scaleDown? ((-exponent).toNat / greatestPower + 2) b (-exponent).toNat

/-! ### The shortest decimal -/

/-- `d * 10 ^ x` against `num / den`. -/
def compareDecimal (d : Nat) (x : Int) (num den : Nat) : Ordering :=
  if 0 ≤ x then compare (d * Nat.pow 10 x.toNat * den) num
  else compare (d * den) (num * Nat.pow 10 (-x).toNat)

/-- The whole number of units `10 ^ x` in `num / den`. -/
def wholeUnits (num den : Nat) (x : Int) : Nat :=
  if 0 ≤ x then num / (den * Nat.pow 10 x.toNat) else num * Nat.pow 10 (-x).toNat / den

/-- The distance from `d * 10 ^ x` to `num / den`, times a positive number that depends only on
`x` and `den`. -/
def decimalDistance (d : Nat) (x : Int) (num den : Nat) : Nat :=
  let (a, b) := if 0 ≤ x then (d * Nat.pow 10 x.toNat * den, num)
    else (d * den, num * Nat.pow 10 (-x).toNat)
  (a - b) + (b - a)

/-- Does `d * 10 ^ x` round to the binary number?  The halfway points to its neighbours, given in
quarters of its last bit, count if its mantissa is even. -/
def roundsTo (b : Binary64) (d : Nat) (x : Int) : Bool :=
  let quarters (n : Nat) : Nat × Nat := inUnits n 1 (2 - b.exponent)
  let low := quarters (if b.mantissa = 0x10000000000000 ∧ leastExponent < b.exponent then
    4 * b.mantissa - 1 else 4 * b.mantissa - 2)
  let high := quarters (4 * b.mantissa + 2)
  let above := compareDecimal d x low.1 low.2
  let below := compareDecimal d x high.1 high.2
  (above == .gt && below == .lt) || (b.mantissa % 2 == 0 && (above == .eq || below == .eq))

/-- A number without its trailing decimal zeros, and their count. -/
def stripZeros : Nat → Nat → Int → Nat × Int
  | 0, d, x => (d, x)
  | fuel + 1, d, x => if d % 10 = 0 ∧ d ≠ 0 then stripZeros fuel (d / 10) (x + 1) else (d, x)

/-- The decimal with the fewest digits that rounds to the binary number, the nearest of those. -/
def shortest (b : Binary64) : Nat × Int :=
  if b.mantissa = 0 then (0, 0)
  else
    let (num, den) := b.fraction
    let powers : List Int := (List.range 640).map (fun i : Nat => (i : Int) - 323)
    let places := (powers.find? (fun x => compareDecimal 1 x num den == .gt)).getD 0
    let lengths : List Int := (List.range 17).map (fun p : Nat => (p : Int) + 1)
    let found := lengths.findSome? (fun p =>
      let x := places - p
      let d := wholeUnits num den x
      let hits := [d, d + 1].filter (fun d => roundsTo b d x)
      match hits with
      | [] => none
      | [d] => some (d, x)
      | d :: d' :: _ =>
        let near := decimalDistance d x num den
        let far := decimalDistance d' x num den
        if near < far ∨ (near = far ∧ d % 2 = 0) then some (d, x) else some (d', x))
    match found with
    | some (d, x) => stripZeros 20 d x
    | none => (0, 0)

end Binary64

namespace Number

/-- The digits of a literal as far as they fit a word, with the number of digits left over. -/
def significant : List Char → Nat → Nat × Nat
  | [], n => (n, 0)
  | c :: cs, n =>
    let n' := 10 * n + Text.digitValue c
    if n' < Text.wordBound then significant cs n' else (n, cs.length + 1)

/-- The greatest exponent that is taken at face value. -/
def exponentBound : Nat := 0x80000000

/-- Reads a literal with fraction or exponent, or a whole number that does not fit a word. -/
def ofParts? (negative : Bool) (whole fraction : List Char) (exponentNegative : Bool)
    (exponent : Nat) : Option Number :=
  let (n, left) := significant whole 0
  let (n, left') := significant fraction n
  let start : Int := (left : Int) - (fraction.length - left' : Nat)
  let finish (b : Binary64) : Number :=
    let (d, x) := b.shortest
    .float negative d x
  if exponentBound ≤ exponent then
    if n = 0 ∨ exponentNegative then some (finish ⟨0, 0⟩) else none
  else
    let e : Int := if exponentNegative then start - exponent else start + exponent
    (Binary64.ofDecimal? n e).map finish

/-- The number that a literal writes; none where it exceeds all numbers of 64 bits. -/
def ofLiteral? (literal : List Char) : Option Number :=
  let (negative, cs) := match literal with
    | '-' :: cs => (true, cs)
    | cs => (false, cs)
  let whole := cs.takeWhile Char.isDigit
  let rest := cs.dropWhile Char.isDigit
  let (fraction, rest) := match rest with
    | '.' :: rest => (rest.takeWhile Char.isDigit, rest.dropWhile Char.isDigit)
    | rest => ([], rest)
  match rest with
  | [] =>
    let n := Text.natOfDigits whole
    if !fraction.isEmpty then ofParts? negative whole fraction false 0
    else if negative then
      if n = 0 ∨ 0x8000000000000000 < n then ofParts? true whole [] false 0
      else some (.int (-(n : Int)))
    else if n < Text.wordBound then some (.int n)
    else ofParts? false whole [] false 0
  | _ :: '-' :: ds => ofParts? negative whole fraction true (Text.natOfDigits ds)
  | _ :: '+' :: ds => ofParts? negative whole fraction false (Text.natOfDigits ds)
  | _ :: ds => ofParts? negative whole fraction false (Text.natOfDigits ds)

end Number

end RequiredVersion
