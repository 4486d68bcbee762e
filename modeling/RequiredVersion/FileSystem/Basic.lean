import RequiredVersion.FileSystem.Path
import RequiredVersion.SortedMap

/-! # File systems

A file system is a map from places to what stands there: files, directories and symbolic links.  A
place is the list of names from the root.  Paths are resolved component by component: `..` goes to
the directory above, and a link is replaced by its target.  Names and paths have a greatest length,
and no path has the character with the number 0.

Operations give a new file system or the cause of their failure. -/

namespace RequiredVersion

/-- Bytes are compared as the arrays they are kept in. -/
instance decidableEqBytes : DecidableEq ByteArray := ByteArray.instDecidableEq

/-- Why an operation fails. -/
inductive Cause where
  | notFound
  | alreadyExists
  | notADirectory
  | isADirectory
  | tooManyLinks
  | nameTooLong
  | permissionDenied
  /-- A path has the character with the number 0. -/
  | nulInPath
  /-- The name of a program has the character with the number 0. -/
  | nulInCommand
  /-- A file that was to be read as text is not UTF-8. -/
  | notText
  /-- The data of a member of an archive cannot be decoded, for this reason. -/
  | undecodable (reason : String)
  /-- The walk through a directory came to a path that fails. -/
  | onWalk (path : String) (cause : Cause)
  /-- The walk through a directory came to a link back to a directory that it is in. -/
  | loop (path ancestor : String)
  deriving DecidableEq

def Cause.message : Cause → String
  | .notFound => "No such file or directory (os error 2)"
  | .alreadyExists => "File exists (os error 17)"
  | .notADirectory => "Not a directory (os error 20)"
  | .isADirectory => "Is a directory (os error 21)"
  | .tooManyLinks => "Too many levels of symbolic links (os error 40)"
  | .nameTooLong => "File name too long (os error 36)"
  | .permissionDenied => "Permission denied (os error 13)"
  | .nulInPath => "file name contained an unexpected NUL byte"
  | .nulInCommand => "nul byte found in provided data"
  | .notText => "stream did not contain valid UTF-8"
  | .undecodable reason => reason
  | .onWalk path cause => "IO error for operation on " ++ path ++ ": " ++ cause.message
  | .loop path ancestor =>
    "File system loop found: " ++ path ++ " points to an ancestor " ++ ancestor

/-- What can be read of a member of an archive. -/
inductive Member where
  /-- Data, to its end or up to a failure. -/
  | readable (data : ByteArray) (failure : Option Cause)
  /-- Nothing, since the member cannot be opened. -/
  | unreadable
  deriving DecidableEq

namespace Member

/-- A member with nothing wrong with it. -/
abbrev whole (data : ByteArray) : Member := .readable data none

/-- The data that can be read. -/
def data : Member → ByteArray
  | .readable data _ => data
  | .unreadable => .empty

end Member

/-- The content of a file.  An archive is kept as the list of its members with their names. -/
inductive Content where
  | bytes (data : ByteArray)
  | archive (members : List (String × Member))
  deriving DecidableEq

/-- The bytes of a file; those of an archive are not text. -/
def Content.toBytes : Content → ByteArray
  | .bytes data => data
  | .archive _ => ⟨#[0x50, 0x4B, 0x03, 0x04, 0xFF]⟩

/-- What stands at a place. -/
inductive Entry where
  | file (content : Content)
  | directory
  | link (target : String)
  deriving DecidableEq

/-- The names from the root. -/
abbrev Place := List String

structure FileSystem where
  /-- All entries but the root, which is always a directory. -/
  entries : SortedMap Place Entry
  /-- The directory that relative paths start from. -/
  cwd : Place
  deriving DecidableEq

/-- What a path leads to: an entry, or a name that is free in a directory. -/
inductive Target where
  | found (place : Place) (entry : Entry)
  | vacant (directory : Place) (name : String)
  deriving DecidableEq

/-- What a path is resolved for. -/
inductive Lookup where
  /-- The entry that it names, which may be a link. -/
  | entry
  /-- What a link at its end leads to. -/
  | target
  /-- The same, to make a file if there is none. -/
  | creation
  deriving DecidableEq

namespace FileSystem

def empty : FileSystem := ⟨.empty, []⟩

def get? (fs : FileSystem) (place : Place) : Option Entry :=
  if place = [] then some .directory else fs.entries.get? place

def put (fs : FileSystem) (place : Place) (entry : Entry) : FileSystem :=
  { fs with entries := fs.entries.insert place entry }

/-! ### Resolution -/

/-- The components that a path has for the resolution; an empty one at the end stands for a slash
there, which asks for a directory. -/
def steps (p : String) : List String :=
  let pieces := Text.splitAt '/' p.toList
  (pieces.filter (· != [])).map String.ofList ++
    (if 1 < pieces.length ∧ pieces.getLast? = some [] then [""] else [])

/-- The number of bytes that a name may have. -/
def nameLimit : Nat := 255

/-- The number of bytes that a path may have. -/
def pathLimit : Nat := 4095

/-- Is nothing left but the wish for a directory? -/
def asksForDirectory (names : List String) : Bool := !names.isEmpty && names.all String.isEmpty

/-- Resolves components from a directory.  `onLink` goes on from a directory with the components of
a link's target and what follows the link.  A file cannot be made where a directory is asked for,
whatever stands there. -/
def descend (fs : FileSystem) (lookup : Lookup)
    (onLink : Place → List String → Except Cause Target) :
    Place → List String → Except Cause Target
  | dir, [] => .ok (.found dir .directory)
  | dir, name :: rest =>
    if name = "" ∨ name = "." then descend fs lookup onLink dir rest
    else if name = ".." then descend fs lookup onLink dir.dropLast rest
    else if lookup = .creation ∧ asksForDirectory rest then .error .isADirectory
    else if nameLimit < name.utf8ByteSize then .error .nameTooLong
    else
      let place := dir ++ [name]
      match fs.get? place with
      | none => if rest.isEmpty then .ok (.vacant dir name) else .error .notFound
      | some .directory => descend fs lookup onLink place rest
      | some (.file content) =>
        if rest.isEmpty then .ok (.found place (.file content)) else .error .notADirectory
      | some (.link target) =>
        if rest.isEmpty ∧ lookup = .entry then .ok (.found place (.link target))
        else onLink (if (⟨target⟩ : Path).isAbsolute then [] else dir) (steps target ++ rest)

/-- Resolves components with at most the given number of links on the way. -/
def resolveSteps (fs : FileSystem) (lookup : Lookup) :
    Nat → Place → List String → Except Cause Target
  | 0, dir, names => descend fs lookup (fun _ _ => .error .tooManyLinks) dir names
  | n + 1, dir, names => descend fs lookup (resolveSteps fs lookup n) dir names

/-- The number of links that a resolution may follow. -/
def linkLimit : Nat := 40

def hasNul (s : String) : Bool := s.toList.contains (Char.ofNat 0)

/-- What a path leads to. -/
def resolve (fs : FileSystem) (p : Path) (lookup : Lookup) : Except Cause Target :=
  if p.text.isEmpty then .error .notFound
  else if hasNul p.text then .error .nulInPath
  else if pathLimit < p.text.utf8ByteSize then .error .nameTooLong
  else fs.resolveSteps lookup linkLimit (if p.isAbsolute then [] else fs.cwd) (steps p.text)

/-! ### Questions -/

def isFile (fs : FileSystem) (p : Path) : Bool :=
  match fs.resolve p .target with
  | .ok (.found _ (.file _)) => true
  | _ => false

def isDirectory (fs : FileSystem) (p : Path) : Bool :=
  match fs.resolve p .target with
  | .ok (.found _ .directory) => true
  | _ => false

/-- The place of the entry that a path leads to, as a path. -/
def canonical (fs : FileSystem) (p : Path) : Except Cause Path :=
  match fs.resolve p .target with
  | .ok (.found place _) => .ok ⟨"/" ++ "/".intercalate place⟩
  | .ok (.vacant _ _) => .error .notFound
  | .error e => .error e

/-- The names in a directory, in ascending order. -/
def names (fs : FileSystem) (dir : Place) : List String :=
  fs.entries.keys.filterMap (fun place =>
    if place.dropLast = dir then place.getLast? else none)

/-! ### Files -/

def read (fs : FileSystem) (p : Path) : Except Cause Content :=
  match fs.resolve p .target with
  | .ok (.found _ (.file content)) => .ok content
  | .ok (.found _ _) => .error .isADirectory
  | .ok (.vacant _ _) => .error .notFound
  | .error e => .error e

def readBytes (fs : FileSystem) (p : Path) : Except Cause ByteArray :=
  (fs.read p).map Content.toBytes

def readText (fs : FileSystem) (p : Path) : Except Cause String :=
  match fs.readBytes p with
  | .error e => .error e
  | .ok bytes =>
    match String.fromUTF8? bytes with
    | some s => .ok s
    | none => .error .notText

/-- Writes a file, replacing its content or making a new one. -/
def write (fs : FileSystem) (p : Path) (content : Content) : Except Cause FileSystem :=
  match fs.resolve p .creation with
  | .ok (.found place (.file _)) => .ok (fs.put place (.file content))
  | .ok (.found _ _) => .error .isADirectory
  | .ok (.vacant dir name) => .ok (fs.put (dir ++ [name]) (.file content))
  | .error e => .error e

def writeText (fs : FileSystem) (p : Path) (text : String) : Except Cause FileSystem :=
  fs.write p (.bytes text.toUTF8)

def removeFile (fs : FileSystem) (p : Path) : Except Cause FileSystem :=
  match fs.resolve p .entry with
  | .ok (.found _ .directory) => .error .isADirectory
  | .ok (.found place _) => .ok { fs with entries := fs.entries.erase place }
  | .ok (.vacant _ _) => .error .notFound
  | .error e => .error e

/-! ### Directories -/

/-- The path without slashes at its end. -/
def withoutSlashes (p : Path) : Path :=
  match Text.dropEndWhile (· == '/') p.text.toList with
  | [] => p
  | cs => ⟨String.ofList cs⟩

/-- Makes a directory in an existing one. -/
def makeDirectory (fs : FileSystem) (p : Path) : Except Cause FileSystem :=
  match fs.resolve (withoutSlashes p) .entry with
  | .ok (.vacant dir name) => .ok (fs.put (dir ++ [name]) .directory)
  | .ok (.found _ _) => .error .alreadyExists
  | .error e => .error e

/-- Makes a directory unless there is one. -/
def ensureDirectory (fs : FileSystem) (p : Path) : Except Cause FileSystem :=
  match fs.makeDirectory p with
  | .ok fs => .ok fs
  | .error e => if fs.isDirectory p then .ok fs else .error e

/-- Makes a directory and, where they are missing, those above it.  Also a failure may leave
directories behind, so the file system comes with the outcome.  The fuel is at least the number of
components. -/
def makeDirectoriesFrom : Nat → FileSystem → Path → Except Cause Unit × FileSystem
  | 0, fs, _ => (.error .notFound, fs)
  | fuel + 1, fs, p =>
    if p.text.isEmpty then (.ok (), fs)
    else
      match fs.ensureDirectory p with
      | .ok fs => (.ok (), fs)
      | .error .notFound =>
        match p.parent? with
        | none => (.error .notFound, fs)
        | some above =>
          match makeDirectoriesFrom fuel fs above with
          | (.error e, fs) => (.error e, fs)
          | (.ok (), fs) =>
            match fs.ensureDirectory p with
            | .ok fs => (.ok (), fs)
            | .error e => (.error e, fs)
      | .error e => (.error e, fs)

/-- Makes a directory and those above it. -/
def makeDirectories (fs : FileSystem) (p : Path) : Except Cause Unit × FileSystem :=
  makeDirectoriesFrom (p.components.length + 1) fs p

/-- The entries at a place and below it. -/
def isWithin (dir place : Place) : Bool := dir.isPrefixOf place

/-- The file system without a place and all below it. -/
def eraseTree (fs : FileSystem) (place : Place) : FileSystem :=
  { fs with entries := fs.entries.filter (fun p _ => !isWithin place p) }

/-- Removes a directory with all it holds.  Of a link only the link goes. -/
def removeTree (fs : FileSystem) (p : Path) : Except Cause FileSystem :=
  match fs.resolve p .entry with
  | .ok (.found place .directory) => .ok (fs.eraseTree place)
  | .ok (.found place (.link _)) => .ok (fs.eraseTree place)
  | .ok (.found _ (.file _)) => .error .notADirectory
  | .ok (.vacant _ _) => .error .notFound
  | .error e => .error e

/-- The entries at a place and below it, moved to another place. -/
def movedEntries (fs : FileSystem) (source dest : Place) : List (Place × Entry) :=
  fs.entries.entries.filterMap (fun e =>
    if isWithin source e.1 then some (dest ++ e.1.drop source.length, e.2) else none)

/-- Moves an entry, with all it holds, to a free name. -/
def rename (fs : FileSystem) (source dest : Path) : Except Cause FileSystem :=
  match fs.resolve source .entry, fs.resolve dest .entry with
  | .error e, _ => .error e
  | .ok (.vacant _ _), _ => .error .notFound
  | _, .error e => .error e
  | .ok (.found _ _), .ok (.found _ _) => .error .alreadyExists
  | .ok (.found place _), .ok (.vacant dir name) =>
    let moved := fs.movedEntries place (dir ++ [name])
    .ok (moved.foldl (fun fs e => fs.put e.1 e.2) (fs.eraseTree place))

end FileSystem

end RequiredVersion
