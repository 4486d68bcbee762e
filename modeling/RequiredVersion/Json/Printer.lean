import RequiredVersion.Json.Basic
import RequiredVersion.Text.Digit

/-! # Writing JSON

`Json.compact` writes a value without blanks, `Json.pretty` with one member or item a line,
indented by two blanks a level.  Only the quote, the backslash and the control characters below
U+0020 are escaped. -/

namespace RequiredVersion.Json

/-! ### Texts and numbers -/

/-- A hexadecimal digit in lower case. -/
def hexDigit (n : Nat) : Char := Nat.digitChar (n % 16)

/-- A character inside a quoted text. -/
def escapeChar (c : Char) : List Char :=
  if c = '"' then ['\\', '"']
  else if c = '\\' then ['\\', '\\']
  else if c = '\x08' then ['\\', 'b']
  else if c = '\x0c' then ['\\', 'f']
  else if c = '\n' then ['\\', 'n']
  else if c = '\r' then ['\\', 'r']
  else if c = '\t' then ['\\', 't']
  else if c.toNat < 0x20 then ['\\', 'u', '0', '0', hexDigit (c.toNat / 16), hexDigit c.toNat]
  else [c]

/-- A text between quotes. -/
def quoted (s : List Char) : List Char := '"' :: s.flatMap escapeChar ++ ['"']

/-- A whole number in decimal. -/
def intChars : Int → List Char
  | .ofNat n => Text.decimal n
  | .negSucc n => '-' :: Text.decimal (n + 1)

/-- The power of ten of a fraction, with its sign. -/
def exponentChars : Int → List Char
  | .ofNat n => 'e' :: '+' :: Text.decimal n
  | .negSucc n => 'e' :: '-' :: Text.decimal (n + 1)

/-- A fraction.  With the point after `point` digits, it is written in positions for
`-5 < point ≤ 16` and with a power of ten elsewhere; a whole number gets the ending `.0`. -/
def fractionChars (digits : Nat) (exponent : Int) : List Char :=
  let ds := Text.decimal digits
  let point : Int := ds.length + exponent
  if digits = 0 then ['0', '.', '0']
  else if 0 ≤ exponent ∧ point ≤ 16 then
    ds ++ List.replicate exponent.toNat '0' ++ ['.', '0']
  else if 0 < point ∧ point ≤ 16 then
    ds.take point.toNat ++ '.' :: ds.drop point.toNat
  else if -5 < point ∧ point ≤ 0 then
    '0' :: '.' :: List.replicate (-point).toNat '0' ++ ds
  else
    match ds with
    | [] => []
    | [d] => d :: exponentChars (point - 1)
    | d :: more => d :: '.' :: more ++ exponentChars (point - 1)

end Json

def Number.chars : Number → List Char
  | .int z => Json.intChars z
  | .float negative digits exponent =>
    if negative then '-' :: Json.fractionChars digits exponent
    else Json.fractionChars digits exponent

namespace Json

/-! ### Values -/

mutual
/-- A value without blanks. -/
def compact : Json → List Char
  | .null => ['n', 'u', 'l', 'l']
  | .bool true => ['t', 'r', 'u', 'e']
  | .bool false => ['f', 'a', 'l', 's', 'e']
  | .num n => n.chars
  | .str s => quoted s.toList
  | .arr items => '[' :: compactItems items ++ [']']
  | .obj members => '\x7b' :: compactMembers members ++ ['\x7d']

def compactItems : List Json → List Char
  | [] => []
  | [v] => v.compact
  | v :: vs => v.compact ++ ',' :: compactItems vs

def compactMembers : List (String × Json) → List Char
  | [] => []
  | [(k, v)] => quoted k.toList ++ ':' :: v.compact
  | (k, v) :: ms => quoted k.toList ++ ':' :: v.compact ++ ',' :: compactMembers ms
end

/-- The start of a line at a level of nesting. -/
def newline (level : Nat) : List Char := '\n' :: List.replicate (2 * level) ' '

mutual
/-- A value that starts on a line of the given level. -/
def prettyAt (level : Nat) : Json → List Char
  | .null => ['n', 'u', 'l', 'l']
  | .bool true => ['t', 'r', 'u', 'e']
  | .bool false => ['f', 'a', 'l', 's', 'e']
  | .num n => n.chars
  | .str s => quoted s.toList
  | .arr [] => ['[', ']']
  | .arr (v :: vs) => '[' :: prettyItems (level + 1) (v :: vs) ++ newline level ++ [']']
  | .obj [] => ['\x7b', '\x7d']
  | .obj (m :: ms) => '\x7b' :: prettyMembers (level + 1) (m :: ms) ++ newline level ++ ['\x7d']

def prettyItems (level : Nat) : List Json → List Char
  | [] => []
  | [v] => newline level ++ v.prettyAt level
  | v :: vs => newline level ++ v.prettyAt level ++ ',' :: prettyItems level vs

def prettyMembers (level : Nat) : List (String × Json) → List Char
  | [] => []
  | [(k, v)] => newline level ++ quoted k.toList ++ ':' :: ' ' :: v.prettyAt level
  | (k, v) :: ms =>
    newline level ++ quoted k.toList ++ ':' :: ' ' :: v.prettyAt level ++ ',' ::
      prettyMembers level ms
end

/-- A document in lines, without a line end at the last one. -/
def pretty (v : Json) : String := String.ofList (v.prettyAt 0)

end RequiredVersion.Json
