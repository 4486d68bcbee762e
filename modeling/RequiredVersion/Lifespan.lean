import RequiredVersion.Text.Blank
import RequiredVersion.Text.Digit
import RequiredVersion.Version.Basic

/-! # Lifespans

A doc comment says with the tags `@since` and `@deprecated` in which version a symbol came and
went.  A tag counts where white space and a number follow it; the first such tag decides, also if
its number is no version. -/

namespace RequiredVersion

/-- The version that introduced a symbol, and the one that deprecated it. -/
structure Lifespan where
  since : Version
  deprecated : Option Version
  deriving DecidableEq, Inhabited

namespace Lifespan

/-- The longest token of digit runs with single dots between them at the front of a text that
starts with a digit. -/
def dottedDigits : List Char → List Char
  | [] => []
  | [c] => if Text.isDecimalDigit c then [c] else []
  | c :: d :: rest =>
    if Text.isDecimalDigit c ∨ (c = '.' ∧ Text.isDecimalDigit d) then c :: dottedDigits (d :: rest)
    else []

/-- The number right behind a tag: white space, then digits. -/
def numberAfter? (cs : List Char) : Option (List Char) :=
  match cs with
  | b :: _ =>
    if Text.isBlank b then
      match cs.dropWhile Text.isBlank with
      | d :: rest => if Text.isDecimalDigit d then some (dottedDigits (d :: rest)) else none
      | [] => none
    else none
  | [] => none

/-- The number of the first tag in a text that has one. -/
def firstTagged? (tag : List Char) : List Char → Option (List Char)
  | [] => none
  | c :: cs =>
    match (Text.dropStart? tag (c :: cs)).bind numberAfter? with
    | some number => some number
    | none => firstTagged? tag cs

/-- The version that the first tag of a text names. -/
def taggedVersion? (tag : String) (doc : List Char) : Option Version :=
  (firstTagged? tag.toList doc).bind Version.ofChars?

/-- Reads the lifespan of a doc comment; there is none without an `@since` version. -/
def ofDoc? (doc : String) : Option Lifespan :=
  (taggedVersion? "@since" doc.toList).map
    (fun since => { since, deprecated := taggedVersion? "@deprecated" doc.toList })

end Lifespan

end RequiredVersion
