import RequiredVersion.Text.Blank
import RequiredVersion.Text.Utf8

/-! # Paths

A path is a text whose components slashes divide.  Paths are kept as they are written, since that
is how messages show them; what they mean is said by their components.

The operating system takes any bytes for a path.  Where that shows, a path is a `RawPath`. -/

namespace RequiredVersion

/-- A path as it is written. -/
structure Path where
  text : String
  deriving DecidableEq, Inhabited

namespace Path

/-- The texts between the slashes of a path. -/
def pieces (p : Path) : List (List Char) := Text.splitAt '/' p.text.toList

def ofPieces (ps : List (List Char)) : Path := ⟨String.ofList (ps.intersperse ['/']).flatten⟩

def isAbsolute (p : Path) : Bool := p.text.toList.head? == some '/'

/-- Does a piece name no component of its own? -/
def isIdle (piece : List Char) : Bool := piece == [] || piece == ['.']

/-- Puts a path behind another one; an absolute path stands for itself. -/
def join (base p : Path) : Path :=
  if p.isAbsolute || base.text.isEmpty then p
  else if base.text.toList.getLast? = some '/' then ⟨base.text ++ p.text⟩
  else ⟨base.text ++ "/" ++ p.text⟩

def joinText (base : Path) (s : String) : Path := base.join ⟨s⟩

/-! ### Components -/

/-- Drops idle pieces at the end, but not the first piece. -/
def trimPieces : List (List Char) → List (List Char)
  | [] => []
  | first :: rest => first :: (rest.reverse.dropWhile isIdle).reverse

/-- The components of a path below its start: names and `..`.  A dot counts only at the start of a
relative path. -/
def components (p : Path) : List String :=
  match p.pieces with
  | [] => []
  | first :: rest =>
    let below := (rest.filter (fun c => !isIdle c)).map String.ofList
    if first = [] then below else String.ofList first :: below

/-- The last component, if it is a name. -/
def fileName? (p : Path) : Option String :=
  match p.components.getLast? with
  | some name => if name = "." ∨ name = ".." then none else some name
  | none => none

/-- The path without its last component; none of a path without components. -/
def parent? (p : Path) : Option Path :=
  if p.components.isEmpty then none
  else
    match trimPieces (trimPieces p.pieces).dropLast with
    | [[]] => if p.isAbsolute then some ⟨"/"⟩ else some ⟨""⟩
    | ps => some (ofPieces ps)

/-- The part of a file name behind its last dot; none if the name has no dot but a first one. -/
def extension? (p : Path) : Option String :=
  match p.fileName? with
  | none => none
  | some name =>
    let cs := name.toList
    let ext := (cs.reverse.takeWhile (· != '.')).reverse
    if cs.length ≤ ext.length + 1 then none else some (String.ofList ext)

/-- The path behind a first component with the given name. -/
def dropFirst? (p : Path) (name : String) : Option Path :=
  match trimPieces p.pieces with
  | first :: rest =>
    if first = name.toList ∧ first ≠ [] then some (ofPieces (rest.dropWhile isIdle)) else none
  | [] => none

/-- The components of a path behind those of a directory it starts with, with slashes between; all
of its components if it does not. -/
def relativeTo (p dir : Path) : String :=
  let cs := p.components
  let ds := dir.components
  let rest := if p.isAbsolute = dir.isAbsolute ∧ cs.take ds.length = ds then cs.drop ds.length
    else cs
  "/".intercalate rest

end Path

/-! ### Paths in bytes -/

/-- A path as the operating system has it: bytes that need not be text. -/
structure RawPath where
  bytes : ByteArray

/-- The bytes of a path that is text. -/
def Path.raw (p : Path) : RawPath := ⟨p.text.toUTF8⟩

instance : Coe Path RawPath := ⟨Path.raw⟩

/-- The text that stands for a path where a text is needed.  Bytes that are no text are replaced, so
that two paths may have one key. -/
def RawPath.key (p : RawPath) : String := Text.lossyText p.bytes

end RequiredVersion
