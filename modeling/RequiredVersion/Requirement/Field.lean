import RequiredVersion.Requirement.Basic
import RequiredVersion.Text.Blank

/-! # Requirement fields in texts

A readme declares a requirement on a line of its own that starts with the key and a colon.  A PHP
file declares it inside its first block comment, on a line that starts with blanks, perhaps a star
and more blanks, then the key and a colon; its value ends at white space or a star.  Keys are found
in any case.  Both texts are changed line by line. -/

namespace RequiredVersion

namespace Text

/-- Folds the case of a character, as far as ASCII letters go: besides the capital letters the long
s and the Kelvin sign fold to one. -/
def foldCase (c : Char) : Char :=
  if c.toNat = 0x17F then 's' else if c.toNat = 0x212A then 'k' else c.toLower

/-- Splits off the front of a text that equals `start` in any case, as it is written there. -/
def splitFolded? : (start text : List Char) → Option (List Char × List Char)
  | [], text => some ([], text)
  | _ :: _, [] => none
  | p :: ps, c :: cs =>
    if foldCase p = foldCase c then (splitFolded? ps cs).map (fun r => (c :: r.1, r.2)) else none

/-- The lines of a text, which line feeds divide. -/
def lines (cs : List Char) : List (List Char) := splitAt '\n' cs

/-- The text of a list of lines. -/
def unlines (ls : List (List Char)) : List Char := (ls.intersperse ['\n']).flatten

end Text

namespace Requirement

/-- The key of a field with its colon. -/
def keyChars (field : Requirement) : List Char := field.key.toList ++ [':']

/-! ### Readme lines -/

/-- The line of a readme with the field set, if it is a line of the field.  All up to a carriage
return is replaced. -/
def readmeLine? (field : Requirement) (version line : List Char) : Option (List Char) :=
  (Text.splitFolded? field.keyChars line).map (fun r =>
    field.keyChars ++ ' ' :: version ++ r.2.dropWhile (· != '\r'))

/-- Sets a field on every line of a readme that declares it. -/
def patchReadme (field : Requirement) (version : Version) (content : List Char) : List Char :=
  Text.unlines ((Text.lines content).map (fun line =>
    (readmeLine? field version.chars line).getD line))

/-! ### Header lines -/

def isTabOrSpace (c : Char) : Bool := c == ' ' || c == '\t'

/-- The blanks and the star before the key of a header line, and the rest of the line. -/
def splitMargin (line : List Char) : List Char × List Char :=
  let blanks := line.takeWhile isTabOrSpace
  match line.dropWhile isTabOrSpace with
  | '*' :: rest =>
    (blanks ++ '*' :: rest.takeWhile isTabOrSpace, rest.dropWhile isTabOrSpace)
  | rest => (blanks, rest)

/-- The text behind the value of a field. -/
def afterValue (rest : List Char) : List Char :=
  (rest.dropWhile isTabOrSpace).dropWhile (fun c => !Text.isBlank c && c != '*')

/-- The line of a header with the field set, if it is a line of the field.  The key stays as it is
written. -/
def headerLine? (field : Requirement) (version line : List Char) : Option (List Char) :=
  let (margin, rest) := splitMargin line
  (Text.splitFolded? field.keyChars rest).map (fun r =>
    margin ++ r.1 ++ ' ' :: version ++ afterValue r.2)

/-! ### Header blocks -/

/-- Splits a text in front of the first occurrence of two characters. -/
def splitBefore? (a b : Char) : List Char → Option (List Char × List Char)
  | [] => none
  | [_] => none
  | x :: y :: rest =>
    if x = a ∧ y = b then some ([], x :: y :: rest)
    else (splitBefore? a b (y :: rest)).map (fun r => (x :: r.1, r.2))

/-- The text before the first block comment, the comment, and the text after it. -/
def splitHeader? (content : List Char) : Option (List Char × List Char × List Char) :=
  match splitBefore? '/' '*' content with
  | some (before, o :: s :: rest) =>
    match splitBefore? '*' '/' rest with
    | some (inner, s' :: c :: after) => some (before, o :: s :: inner ++ [s', c], after)
    | _ => none
  | _ => none

/-- Sets a field on every line of the first block comment that declares it. -/
def patchHeader (field : Requirement) (version : Version) (content : List Char) : List Char :=
  match splitHeader? content with
  | none => content
  | some (before, block, after) =>
    before ++ Text.unlines ((Text.lines block).map (fun line =>
      (headerLine? field version.chars line).getD line)) ++ after

end Requirement

end RequiredVersion
