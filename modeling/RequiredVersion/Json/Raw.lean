import RequiredVersion.Json.Basic
import RequiredVersion.Text.Digit
import RequiredVersion.Text.Utf8

/-! # The syntax of JSON documents

A document is read in two steps.  `RawJson.read?` checks its syntax and keeps number literals,
escapes and bytes that are no character as they stand; the values that a reader asks for are then
taken out of the raw document.  So a member that nobody asks for may hold a number out of range,
half of a surrogate pair or broken UTF-8. -/

namespace RequiredVersion

open Text (Glyph)

/-- A text of a document: its code points, among which an escape may name a surrogate, and nothing
where bytes are no character. -/
abbrev RawText := List (Option Nat)

/-- A JSON document of which only the syntax has been checked. -/
inductive RawJson where
  | null
  | bool (b : Bool)
  | num (literal : List Char)
  | str (units : RawText)
  | arr (items : List RawJson)
  | obj (members : List (RawText × RawJson))
  deriving Inhabited

namespace RawJson

/-! ### Tokens -/

/-- The blanks between tokens. -/
def isBlank (c : Glyph) : Bool :=
  c == some ' ' || c == some '\t' || c == some '\n' || c == some '\r'

def skipBlanks (cs : List Glyph) : List Glyph := cs.dropWhile isBlank

/-- The value of four hexadecimal digits. -/
def hexQuad? (a b c d : Glyph) : Option Nat :=
  match a.bind Text.hexValue?, b.bind Text.hexValue?, c.bind Text.hexValue?,
    d.bind Text.hexValue? with
  | some a, some b, some c, some d => some (((a * 16 + b) * 16 + c) * 16 + d)
  | _, _, _, _ => none

/-- The character that a one-letter escape stands for. -/
def simpleEscape? (c : Char) : Option Nat :=
  if c = '"' then some 0x22
  else if c = '\\' then some 0x5C
  else if c = '/' then some 0x2F
  else if c = 'b' then some 0x08
  else if c = 'f' then some 0x0C
  else if c = 'n' then some 0x0A
  else if c = 'r' then some 0x0D
  else if c = 't' then some 0x09
  else none

/-- Reads a text up to its closing quote.  Control characters below U+0020 must be escaped. -/
def readText : List Glyph → Option (RawText × List Glyph)
  | [] => none
  | some '"' :: rest => some ([], rest)
  | some '\\' :: some 'u' :: a :: b :: c :: d :: rest =>
    match hexQuad? a b c d, readText rest with
    | some n, some (units, rest) => some (some n :: units, rest)
    | _, _ => none
  | some '\\' :: some e :: rest =>
    match simpleEscape? e, readText rest with
    | some n, some (units, rest) => some (some n :: units, rest)
    | _, _ => none
  | some c :: rest =>
    if c.toNat < 0x20 ∨ c = '\\' then none
    else
      match readText rest with
      | some (units, rest) => some (some c.toNat :: units, rest)
      | none => none
  | none :: rest =>
    match readText rest with
    | some (units, rest) => some (none :: units, rest)
    | none => none

/-- The digits that a text starts with, and the rest of it. -/
def splitDigits : List Glyph → List Char × List Glyph
  | some c :: cs =>
    if c.isDigit then
      let (ds, rest) := splitDigits cs
      (c :: ds, rest)
    else ([], some c :: cs)
  | cs => ([], cs)

/-- Splits a non-empty run of digits off. -/
def digits? (cs : List Glyph) : Option (List Char × List Glyph) :=
  match splitDigits cs with
  | ([], _) => none
  | split => some split

/-- The whole part of a number: no zero stands before another digit. -/
def wholePart? (cs : List Glyph) : Option (List Char × List Glyph) :=
  match digits? cs with
  | some ('0' :: _ :: _, _) => none
  | other => other

/-- The fraction of a number, if it has one. -/
def fractionPart? : List Glyph → Option (List Char × List Glyph)
  | some '.' :: rest =>
    match digits? rest with
    | some (ds, rest) => some ('.' :: ds, rest)
    | none => none
  | cs => some ([], cs)

/-- The exponent of a number, if it has one. -/
def exponentPart? : List Glyph → Option (List Char × List Glyph)
  | some e :: rest =>
    if e = 'e' ∨ e = 'E' then
      match rest with
      | some '+' :: more =>
        match digits? more with
        | some (ds, rest) => some (e :: '+' :: ds, rest)
        | none => none
      | some '-' :: more =>
        match digits? more with
        | some (ds, rest) => some (e :: '-' :: ds, rest)
        | none => none
      | more =>
        match digits? more with
        | some (ds, rest) => some (e :: ds, rest)
        | none => none
    else some ([], some e :: rest)
  | cs => some ([], cs)

/-- Reads a number that is not negative. -/
def readMagnitude (cs : List Glyph) : Option (List Char × List Glyph) :=
  match wholePart? cs with
  | none => none
  | some (whole, cs) =>
    match fractionPart? cs with
    | none => none
    | some (fraction, cs) =>
      match exponentPart? cs with
      | none => none
      | some (exponent, cs) => some (whole ++ fraction ++ exponent, cs)

/-- Reads a number literal. -/
def readNumber : List Glyph → Option (List Char × List Glyph)
  | some '-' :: cs => (readMagnitude cs).map (fun r => ('-' :: r.1, r.2))
  | cs => readMagnitude cs

/-! ### Values -/

mutual
/-- Reads a value after blanks.  The fuel bounds the number of nested calls. -/
def readValue : Nat → List Glyph → Option (RawJson × List Glyph)
  | 0, _ => none
  | fuel + 1, cs =>
    match skipBlanks cs with
    | some 'n' :: some 'u' :: some 'l' :: some 'l' :: rest => some (.null, rest)
    | some 't' :: some 'r' :: some 'u' :: some 'e' :: rest => some (.bool true, rest)
    | some 'f' :: some 'a' :: some 'l' :: some 's' :: some 'e' :: rest => some (.bool false, rest)
    | some '"' :: rest =>
      match readText rest with
      | some (units, rest) => some (.str units, rest)
      | none => none
    | some '[' :: rest =>
      match skipBlanks rest with
      | some ']' :: rest => some (.arr [], rest)
      | rest =>
        match readItems fuel rest with
        | some (items, rest) => some (.arr items, rest)
        | none => none
    | some '\x7b' :: rest =>
      match skipBlanks rest with
      | some '\x7d' :: rest => some (.obj [], rest)
      | rest =>
        match readMembers fuel rest with
        | some (members, rest) => some (.obj members, rest)
        | none => none
    | cs =>
      match readNumber cs with
      | some (literal, rest) => some (.num literal, rest)
      | none => none

/-- Reads the items of an array, at least one, and the closing bracket. -/
def readItems : Nat → List Glyph → Option (List RawJson × List Glyph)
  | 0, _ => none
  | fuel + 1, cs =>
    match readValue fuel cs with
    | none => none
    | some (item, rest) =>
      match skipBlanks rest with
      | some ']' :: rest => some ([item], rest)
      | some ',' :: rest =>
        match readItems fuel rest with
        | some (items, rest) => some (item :: items, rest)
        | none => none
      | _ => none

/-- Reads the members of an object, at least one, and the closing brace. -/
def readMembers : Nat → List Glyph → Option (List (RawText × RawJson) × List Glyph)
  | 0, _ => none
  | fuel + 1, cs =>
    match skipBlanks cs with
    | some '"' :: rest =>
      match readText rest with
      | none => none
      | some (key, rest) =>
        match skipBlanks rest with
        | some ':' :: rest =>
          match readValue fuel rest with
          | none => none
          | some (value, rest) =>
            match skipBlanks rest with
            | some '\x7d' :: rest => some ([(key, value)], rest)
            | some ',' :: rest =>
              match readMembers fuel rest with
              | some (members, rest) => some ((key, value) :: members, rest)
              | none => none
            | _ => none
        | _ => none
    | _ => none
end

/-- Reads a whole document: one value, with blanks around it.  Every second call consumes a
character, so the fuel never runs out. -/
def read? (text : List Glyph) : Option RawJson :=
  match readValue (2 * text.length + 2) text with
  | some (v, rest) => if (skipBlanks rest).isEmpty then some v else none
  | none => none

/-- Reads the document that a text holds. -/
def ofText? (text : String) : Option RawJson := read? (Text.glyphs text)

/-- Reads the document that bytes hold. -/
def ofBytes? (bytes : ByteArray) : Option RawJson := read? (Text.glyphsOfBytes bytes)

end RawJson

end RequiredVersion
