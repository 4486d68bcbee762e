import RequiredVersion.FileSystem.Basic

/-! # Walks through directories

`FileSystem.phpFiles` lists the PHP files below a directory: each directory in the order of its
names, subdirectories at their place, links followed.  Directories with certain names are passed
over, and a link back to a directory that the walk is in is a failure. -/

namespace RequiredVersion

/-- A walk that failed: where, and why. -/
structure WalkFailure where
  path : Path
  cause : Cause
  deriving DecidableEq

namespace FileSystem

/-- Is it a path of a PHP file?  The case of the extension does not count. -/
def isPhpPath (p : Path) : Bool :=
  match p.extension? with
  | some ext => Text.lowerAscii ext.toList == ['p', 'h', 'p']
  | none => false

/-- A file or directory on a walk, with its place. -/
inductive Stop where
  | file
  | directory (place : Place)

/-- What a walk finds at a path.  A link to a directory that the walk is in is a failure. -/
def stopAt (fs : FileSystem) (inside : List (Place × Path)) (p : Path) :
    Except WalkFailure Stop :=
  let failure (e : Cause) : Except WalkFailure Stop := .error ⟨p, .onWalk p.text e⟩
  match fs.resolve p .entry with
  | .error e => failure e
  | .ok (.vacant _ _) => failure .notFound
  | .ok (.found _ (.file _)) => .ok .file
  | .ok (.found place .directory) => .ok (.directory place)
  | .ok (.found _ (.link _)) =>
    match fs.resolve p .target with
    | .error e => failure e
    | .ok (.vacant _ _) => failure .notFound
    | .ok (.found place .directory) =>
      match inside.find? (fun a => a.1 == place) with
      | some ancestor => .error ⟨p, .loop p.text ancestor.2.text⟩
      | none => .ok (.directory place)
    | .ok (.found _ _) => .ok .file

/-- The PHP files at a path and below it.  `inside` holds the directories that the walk is in, the
innermost first; they are all different, so their number bounds the depth. -/
def phpFilesFrom (fs : FileSystem) (ignored : List String) :
    Nat → List (Place × Path) → Path → Except WalkFailure (List Path)
  | 0, _, _ => .ok []
  | fuel + 1, inside, p =>
    match fs.stopAt inside p with
    | .error e => .error e
    | .ok .file => .ok (if isPhpPath p then [p] else [])
    | .ok (.directory place) =>
      if !inside.isEmpty && (p.fileName?.any ignored.contains) then .ok []
      else
        ((fs.names place).mapM (fun name =>
          phpFilesFrom fs ignored fuel ((place, p) :: inside) (p.joinText name))).map List.flatten

/-- The PHP files below a directory, without those in directories with an ignored name. -/
def phpFiles (fs : FileSystem) (root : Path) (ignored : List String) :
    Except WalkFailure (List Path) :=
  fs.phpFilesFrom ignored (fs.entries.size + 2) [] root

end FileSystem

end RequiredVersion
