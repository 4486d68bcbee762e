import RequiredVersion.Requirement.Field
import RequiredVersion.Session.Basic

/-! # Requirements in the files of a plugin

The readme and the main files of a plugin declare its requirements.  Only files that exist and that
change are written. -/

namespace RequiredVersion.Requirements

/-- The name of this part in log filters. -/
def area : Area := ["rewrite"]

def readmeName : String := "readme.txt"

/-- The files of a plugin that may declare requirements.  `base` is the name of its main file. -/
def candidates (base : String) (dir : Path) : List Path :=
  let own := match dir.fileName? with
    | some name => if name = base then [] else [base ++ "-" ++ name ++ ".php"]
    | none => []
  ([readmeName, "index.php", base ++ ".php"] ++ own).map dir.joinText

/-- Sets the fields one after the other, and gives those that changed the text. -/
def patch (readme : Bool) : List (Requirement × Version) → List Char →
    List Char × List Requirement
  | [], content => (content, [])
  | (field, version) :: rest, content =>
    let patched := if readme then field.patchReadme version content
      else field.patchHeader version content
    let (final, changed) := patch readme rest patched
    (final, if patched = content then changed else field :: changed)

/-- Sets the requirements in one file and says whether it changed. -/
def applyTo (r : Requirements) (file : Path) : Run PatchFailure Bool := do
  let fs ← Run.files
  if !fs.isFile file then return false
  match fs.readText file with
  | .error e => throw ⟨file, e⟩
  | .ok text =>
    let (content, changed) := patch (file.fileName? == some readmeName) r.fields text.toList
    if content = text.toList then
      Run.note area .debug (file.quoted ++ " already declares the requested versions")
      return false
    Run.change (fun e => ⟨file, e⟩) (fun fs => fs.writeText file (String.ofList content))
    Run.note area .info ("Updated minimum required " ++
      " and ".intercalate (changed.map Requirement.label) ++ " version in " ++ file.quoted)
    return true

/-- Sets the requirements in a list of files and gives those that changed. -/
def applyAll (r : Requirements) : List Path → Run PatchFailure (List Path)
  | [] => return []
  | file :: rest => do
    let changed ← r.applyTo file
    let others ← applyAll r rest
    return if changed then file :: others else others

/-- Sets the requirements in the files of a plugin and gives those that changed. -/
def apply (r : Requirements) (base : String) (dir : Path) : Run PatchFailure (List Path) :=
  r.applyAll (candidates base dir)

end RequiredVersion.Requirements
