/-! # Names in the letters of ASCII

A text in any script is written with the letters, digits and the hyphen of ASCII: first its ASCII
characters, then, behind a hyphen, one number for each other character, in the order of the
characters.  The characters are put in from the lowest to the highest; a number counts the places
that are passed over until the next one is put in, where going once through the text raises the
character by one.

Numbers are written with 36 digits, the lowest first.  A digit below the threshold of its place is
the last one.  The thresholds depend on a bias, which follows the size of the numbers so far. -/

namespace RequiredVersion.Punycode

/-! ### Digits and thresholds -/

/-- The number of digits. -/
def radix : Nat := 36

/-- The characters below this number stand for themselves. -/
def firstCode : Nat := 0x80

/-- The bias before the first number. -/
def firstBias : Nat := 72

/-- Numbers beyond 32 bits are not read. -/
def bound : Nat := 0x100000000

/-- The threshold of the place with the number `k`, counted in steps of the radix. -/
def threshold (bias k : Nat) : Nat := min 26 (max 1 (k - bias))

theorem one_le_threshold (bias k : Nat) : 1 ≤ threshold bias k := by
  unfold threshold; omega

/-- How often a number is divided by 35 until it is at most 455, times the radix, together with
what the remainder adds. -/
def damped (delta : Nat) : Nat :=
  if 455 < delta then radix + damped (delta / 35) else radix * delta / (delta + 38)
termination_by delta
decreasing_by omega

/-- The bias after a number, where the text has `count` characters then. -/
def adapt (delta count : Nat) (isFirst : Bool) : Nat :=
  let delta := if isFirst then delta / 700 else delta / 2
  damped (delta + delta / count)

/-- The digit of a value: 26 letters, then the ten digits. -/
def digit (n : Nat) : Char :=
  if n < 26 then Char.ofNat ('a'.toNat + n) else Char.ofNat ('0'.toNat + (n - 26))

/-- The value of a digit. -/
def value? (c : Char) : Option Nat :=
  if 'a' ≤ c ∧ c ≤ 'z' then some (c.toNat - 'a'.toNat)
  else if c.isDigit then some (c.toNat - '0'.toNat + 26)
  else none

/-! ### Writing -/

/-- The digits of a number from the place `k` on. -/
def digits (bias n k : Nat) : List Char :=
  let t := threshold bias k
  if n < t then [digit n]
  else digit (t + (n - t) % (radix - t)) :: digits bias ((n - t) / (radix - t)) (k + radix)
termination_by n
decreasing_by
  have h1 := one_le_threshold bias k
  have h2 := Nat.div_le_self (n - threshold bias k) (radix - threshold bias k)
  omega

/-- What writing has come to: the number of characters that are in, the places passed over since
the last one, and the bias. -/
structure Progress where
  count : Nat
  delta : Nat
  bias : Nat

/-- Goes once through the text and puts in the characters with the given number. -/
def writeCode (basic code : Nat) : Progress → List Char → List Char × Progress
  | s, [] => ([], s)
  | s, c :: cs =>
    if c.toNat < code then writeCode basic code { s with delta := s.delta + 1 } cs
    else if c.toNat = code then
      let next : Progress :=
        { count := s.count + 1, delta := 0, bias := adapt s.delta (s.count + 1) (s.count == basic) }
      let (written, last) := writeCode basic code next cs
      (digits s.bias s.delta radix ++ written, last)
    else writeCode basic code s cs

/-- Puts in the characters with the given numbers, which ascend; `next` is the lowest number that
can come. -/
def writeCodes (text : List Char) (basic : Nat) : (next : Nat) → Progress → List Nat → List Char
  | _, _, [] => []
  | next, s, code :: codes =>
    let s := { s with delta := s.delta + (code - next) * (s.count + 1) }
    let (written, last) := writeCode basic code s text
    written ++ writeCodes text basic (code + 1) { last with delta := last.delta + 1 } codes

/-- Puts a number in its place among ascending ones, once. -/
def insertCode (n : Nat) : List Nat → List Nat
  | [] => [n]
  | m :: ms => if n < m then n :: m :: ms else if n = m then m :: ms else m :: insertCode n ms

/-- Writes a text with the characters of ASCII. -/
def encode (text : List Char) : List Char :=
  let basic := text.filter (fun c => c.toNat < firstCode)
  let codes := (text.filter (fun c => firstCode ≤ c.toNat)).foldl
    (fun codes c => insertCode c.toNat codes) []
  let start : Progress := { count := basic.length, delta := 0, bias := firstBias }
  (if basic.isEmpty then [] else basic ++ ['-']) ++
    writeCodes text basic.length firstCode start codes

/-! ### Reading -/

/-- What reading has come to: the text so far, the character and the place of the next one, the
bias, and of the number that is being read the sum, the weight of the next digit and its place. -/
structure Reading where
  text : List Char
  code : Nat
  place : Nat
  bias : Nat
  sum : Nat
  weight : Nat
  k : Nat

/-- Puts in the character that the number which has been read stands for. -/
def Reading.put? (r : Reading) : Option Reading :=
  let count := r.text.length + 1
  let code := r.code + r.sum / count
  let place := r.sum % count
  if code.isValidChar then
    some { text := r.text.take place ++ Char.ofNat code :: r.text.drop place
           code
           place := place + 1
           bias := adapt (r.sum - r.place) count (r.place == 0)
           sum := place + 1
           weight := 1
           k := radix }
  else none

/-- Reads numbers.  The last one must be complete. -/
def readDigits : Reading → List Char → Option (List Char)
  | r, [] => if r.weight = 1 then some r.text else none
  | r, c :: cs =>
    match value? c with
    | none => none
    | some v =>
      let t := threshold r.bias r.k
      let sum := r.sum + v * r.weight
      if bound ≤ sum then none
      else if v < t then
        match { r with sum }.put? with
        | some r => readDigits r cs
        | none => none
      else
        let weight := r.weight * (radix - t)
        if bound ≤ weight then none else readDigits { r with sum, weight, k := r.k + radix } cs

/-- Reads a text that is written with the characters of ASCII; other characters are refused. -/
def decode? (written : List Char) : Option (List Char) :=
  let numbers := (written.reverse.takeWhile (· != '-')).reverse
  let front := written.take (written.length - numbers.length)
  if front = ['-'] ∨ front.any (fun c => firstCode ≤ c.toNat) then none
  else
    readDigits { text := front.dropLast, code := firstCode, place := 0, bias := firstBias
                 sum := 0, weight := 1, k := radix } numbers

end RequiredVersion.Punycode
