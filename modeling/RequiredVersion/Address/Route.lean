import RequiredVersion.Address.Escape
import RequiredVersion.Text.Blank

/-! # Paths of addresses

A path is a list of segments, or, where an address has neither a host nor a slash behind its scheme,
a plain text.  Reading a path resolves the segments that stay in their directory or go to the one
above.

The letter of a drive (`C:` or `C|`) is never left by going to the directory above.  In the
addresses of files it may stand first, and then with a colon. -/

namespace RequiredVersion.Address

inductive Route where
  | rooted (segments : List (List Char))
  | plain (text : List Char)
  deriving DecidableEq

namespace Route

def isSlash (web : Bool) (c : Char) : Bool := c == '/' || (web && c == '\\')

/-- The segments of a path without the slash at its front. -/
def segments (web : Bool) (path : List Char) : List (List Char) :=
  (Text.splitAt '/' (path.map (fun c => if isSlash web c then '/' else c))).map (escape keptInPath)

/-- Is it a segment that stays in its directory? -/
def isDot (s : List Char) : Bool :=
  s == ['.'] || Text.lowerAscii s == ['%', '2', 'e']

/-- Is it a segment that goes to the directory above? -/
def isDoubleDot (s : List Char) : Bool :=
  let s := Text.lowerAscii s
  s == ['.', '.'] || s == ['.', '%', '2', 'e'] || s == ['%', '2', 'e', '.'] ||
    s == ['%', '2', 'e', '%', '2', 'e']

/-- Is it the letter of a drive? -/
def isDrive : List Char → Bool
  | [c, d] => c.isAlpha && (d == ':' || d == '|')
  | _ => false

/-- Does a segment start with the letter of a drive, and with a backslash if anything follows? -/
def startsWithDrive (s : List Char) : Bool :=
  isDrive (s.take 2) && (s.length == 2 || s[2]? == some '\\')

/-- The directory above; `above` holds the segments so far, the last one first. -/
def leave (above : List (List Char)) : List (List Char) :=
  match above with
  | [] => []
  | s :: rest => if startsWithDrive s then s :: rest else rest

/-- Resolves segments; `above` holds the segments so far, the last one first. -/
def resolve (file : Bool) : (above : List (List Char)) → List (List Char) → List (List Char)
  | above, [] => above.reverse
  | above, s :: rest =>
    if isDot s then
      if rest.isEmpty then (([] : List Char) :: above).reverse else resolve file above rest
    else if isDoubleDot s then
      if rest.isEmpty then (([] : List Char) :: leave above).reverse
      else resolve file (leave above) rest
    else if file && above.isEmpty && isDrive s then resolve file [s.take 1 ++ [':']] rest
    else resolve file (s :: above) rest

/-- The path without empty segments at its front. -/
def withoutEmptyFront : List (List Char) → List (List Char)
  | [] :: s :: rest => withoutEmptyFront (s :: rest)
  | path => path

/-- Reads a path without the slash at its front. -/
def ofWeb (path : List Char) : Route := .rooted (resolve false [] (segments true path))

def ofFile (path : List Char) : Route :=
  .rooted (withoutEmptyFront (resolve true [] (segments true path)))

def ofOther (path : List Char) : Route := .rooted (resolve false [] (segments false path))

/-- Does the path start with the letter of a drive? -/
def startsAtDrive : Route → Bool
  | .rooted (s :: _) => isDrive s
  | _ => false

def chars : Route → List Char
  | .rooted segments => segments.flatMap (fun s => '/' :: s)
  | .plain text => text

end Route

end RequiredVersion.Address
