import RequiredVersion.Text.Blank
import RequiredVersion.Text.Digit

/-! # Versions

A version is a list of numeric segments and, for a pre-release, a suffix: `6.8`, `2.0.11`,
`6.8-beta1`, `6.8-RC2`.  The suffix keeps its text; its stage and number are read off it.

`Version.parse` reads a version, `Version.text` writes it. -/

namespace RequiredVersion

/-- How mature a pre-release is; `other` stands for any label that is not one of the four. -/
inductive Stage where
  | dev | alpha | beta | rc | other
  deriving DecidableEq, Inhabited

/-- The part of a pre-release version behind its numbers. -/
structure Suffix where
  stage : Stage
  number : Nat
  /-- The suffix as written. -/
  raw : String
  deriving DecidableEq, Inhabited

structure Version where
  /-- The numbers as written: `5` and `5.0` are two versions. -/
  segments : List Nat
  suffix : Option Suffix
  deriving DecidableEq, Inhabited

/-- The text that was to be read as a version, as it was given. -/
structure InvalidVersion where
  raw : String
  deriving DecidableEq

def InvalidVersion.message (e : InvalidVersion) : String := "Invalid version: '" ++ e.raw ++ "'"

/-! ### Reading -/

/-- The stage that a label in lower case names. -/
def Stage.ofLabel (label : String) : Stage :=
  if label = "dev" then .dev
  else if label = "alpha" ∨ label = "a" then .alpha
  else if label = "beta" ∨ label = "b" then .beta
  else if label = "rc" then .rc
  else .other

/-- Reads a suffix: the label is what stands before the first digit, without dashes and dots
around it, and the number is the run of digits there.  No number, or one that needs more than 64
bits, counts as zero. -/
def Suffix.ofChars (raw : List Char) : Suffix :=
  let lower := Text.lowerAscii raw
  let label := lower.takeWhile (fun c => !c.isDigit)
  let digits := (lower.dropWhile (fun c => !c.isDigit)).takeWhile Char.isDigit
  { stage := Stage.ofLabel (String.ofList (Text.trimWhile (fun c => c == '-' || c == '.') label))
    number := (Text.word? digits).getD 0
    raw := String.ofList raw }

namespace Version

/-- The characters of the numeric part of a version. -/
def isNumeric (c : Char) : Bool := c.isDigit || c == '.'

/-- The characters that may stand between the numbers and the suffix. -/
def isSeparator (c : Char) : Bool := c == '-' || c == '.' || c == '+'

/-- Reads the characters of a version.  Dots at the end of the numeric part are dropped; a dot at
its front, an empty segment or a segment of more than 64 bits is refused. -/
def ofChars? (cs : List Char) : Option Version :=
  let trimmed := Text.trim cs
  let numeric := Text.dropEndWhile (· == '.') (trimmed.takeWhile isNumeric)
  let rest := (trimmed.dropWhile isNumeric).dropWhile isSeparator
  match (Text.splitAt '.' numeric).mapM Text.word? with
  | none => none
  | some segments =>
    some { segments, suffix := if rest.isEmpty then none else some (Suffix.ofChars rest) }

/-- Reads a version; a failure carries the text as it was given. -/
def parse (s : String) : Except InvalidVersion Version :=
  match ofChars? s.toList with
  | some v => .ok v
  | none => .error ⟨s⟩

def parse? (s : String) : Option Version := ofChars? s.toList

/-- Pre-releases are the versions with a suffix. -/
def isPrerelease (v : Version) : Bool := v.suffix.isSome

/-! ### Writing -/

/-- The characters of a version: its segments between dots, then a dash and the suffix. -/
def chars (v : Version) : List Char :=
  let numbers := (List.intersperse ['.'] (v.segments.map Text.decimal)).flatten
  match v.suffix with
  | none => numbers
  | some s => numbers ++ '-' :: s.raw.toList

def text (v : Version) : String := String.ofList v.chars

end Version

end RequiredVersion
