import RequiredVersion.Text.Blank
import RequiredVersion.Text.Digit

/-! # Tables of characters

A table says something of runs of characters with consecutive numbers, in ascending order.  Tables
are written as lines of words such as `41-5A:61`: the first and the last number of a run in base 16,
and behind a colon what is said of it.  A run of one character is written with one number. -/

namespace RequiredVersion

/-- Characters with consecutive numbers, and what is said of them. -/
structure CharRun (α : Type) where
  first : Nat
  last : Nat
  value : α

/-- Runs of characters in ascending order. -/
structure CharTable (α : Type) where
  runs : List (CharRun α)

/-- A set of characters. -/
abbrev CharSet := CharTable Unit

namespace CharTable

variable {α : Type}

/-- The run that a character is in: the first one that does not end before it, unless that starts
behind it. -/
def find? (t : CharTable α) (c : Char) : Option (CharRun α) :=
  (t.runs.find? (fun r => c.toNat ≤ r.last)).filter (fun r => r.first ≤ c.toNat)

def get? (t : CharTable α) (c : Char) : Option α := (t.find? c).map (·.value)

def contains (t : CharTable α) (c : Char) : Bool := (t.find? c).isSome

/-- The text up to the first occurrence of a character, and the text behind it. -/
def cut (mark : Char) (cs : List Char) : List Char × List Char :=
  (cs.takeWhile (· != mark), (cs.dropWhile (· != mark)).tail)

/-- Reads a run. -/
def readRun (value : List Char → α) (word : List Char) : CharRun α :=
  let (numbers, said) := cut ':' word
  let (first, last) := cut '-' numbers
  { first := Text.natOfHex first
    last := Text.natOfHex (if last.isEmpty then first else last)
    value := value said }

/-- Reads a table. -/
def ofLines (value : List Char → α) (lines : List String) : CharTable α :=
  ⟨lines.flatMap (fun line => (Text.splitAt ' ' line.toList).map (readRun value))⟩

/-- The characters whose numbers stand between dots. -/
def charsOfHex (cs : List Char) : List Char :=
  if cs.isEmpty then [] else (Text.splitAt '.' cs).map (fun n => Char.ofNat (Text.natOfHex n))

end CharTable

/-- Reads a set. -/
def CharSet.ofLines (lines : List String) : CharSet := CharTable.ofLines (fun _ => ()) lines

end RequiredVersion
