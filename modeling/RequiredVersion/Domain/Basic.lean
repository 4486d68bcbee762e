import RequiredVersion.Domain.Direction
import RequiredVersion.Domain.Folding
import RequiredVersion.Domain.Joining
import RequiredVersion.Domain.Punycode
import RequiredVersion.Text.Composition

/-! # Domain names

A domain name is a list of labels with dots between them.  A name in any script is brought into the
form that is asked for on the net: its characters are folded and composed, and a label with
characters beyond ASCII is written with those of ASCII, behind the mark `xn--`.  A label that has
the mark already must be the writing of a label that could be written so. -/

namespace RequiredVersion.Domain

/-- The mark of a label that stands for one in another script. -/
def mark : List Char := "xn--".toList

def isAscii (c : Char) : Bool := c.toNat < 0x80

/-- Characters of ASCII that no name has. -/
def isDenied (c : Char) : Bool :=
  c.toNat ≤ 0x20 || c.toNat = 0x7F ||
    ['%', '#', '/', ':', '<', '>', '?', '@', '[', '\\', ']', '^', '|'].contains c

/-- The longest label that is written with the characters of ASCII. -/
def longestWritten : Nat := 1000

/-- The longest writing that is read. -/
def longestRead : Nat := 2000

/-- The label that a writing behind the mark stands for.  It has characters beyond ASCII, and
folding and composing leave it as it is. -/
def readMarked? (writing : List Char) : Option (List Char) :=
  if longestRead < writing.length then none
  else
    match Punycode.decode? writing with
    | none => none
    | some label =>
      if label.all isAscii then none
      else if label.all (fun c => fold? c == some [c]) && Text.composed label == label then
        some label
      else none

/-- A label in its own script. -/
def ownScript? (label : List Char) : Option (List Char) :=
  match Text.dropStart? mark label with
  | some writing => readMarked? writing
  | none => some label

/-- Can the label stand in a name?  It does not start with a mark, and joiners stand where they
may. -/
def isWellFormed (label : List Char) : Bool :=
  match label with
  | [] => true
  | c :: _ => !Text.isMark c && joinersFit [] label

/-- A label with the characters of ASCII. -/
def written? (label : List Char) : Option (List Char) :=
  if label.all isAscii then some label
  else if longestWritten < label.length then none
  else some (mark ++ Punycode.encode label)

/-- Folds and composes a name. -/
def folded? (name : List Char) : Option (List Char) :=
  (name.mapM fold?).map (fun parts => Text.composed parts.flatten)

/-- Brings a name into the form with the characters of ASCII only. -/
def toAscii? (name : List Char) : Option (List Char) := do
  let labels := Text.splitAt '.' (← folded? name)
  let own ← labels.mapM ownScript?
  let written ← labels.mapM written?
  let ascii := (written.intersperse ['.']).flatten
  if own.all isWellFormed && (!own.any hasRightToLeft || own.all keepsDirection) &&
      !ascii.any isDenied then
    some ascii
  else none

end RequiredVersion.Domain
