import RequiredVersion.CommandLine
import RequiredVersion.Document.Trees
import RequiredVersion.FileSystem.Listing

/-! # Documents of scenes

What the program cannot find out by itself it is told in a document: the current directory, the
files that matter, the trees of their sources, what interpreters answer, and which records of the
log are wanted.  The first half of this module reads such a document; the second half puts files
into a file system. -/

namespace RequiredVersion

/-- What the program is told about its surroundings. -/
structure Scene where
  cwd : Path
  /-- The files that matter, by their absolute paths. -/
  files : List Path
  grammar : Grammar
  interpreters : List (String × Probe.Interpreter)
  /-- The log filter that is set, if any. -/
  logFilter : Option String

namespace Scene

/-- The texts in an array; other items are passed over. -/
def textItems : Json → List String
  | .arr items => items.filterMap Json.str?
  | _ => []

def interpreterOfJson (j : Json) : Probe.Interpreter :=
  match (j.get? "exit").bind Json.nat?, (j.get? "stdout").bind Json.str? with
  | some status, output => .ended status (output.getD "").toUTF8
  | none, _ => .unavailable .notFound

def ofJson? (j : Json) : Option Scene := do
  let cwd ← (j.get? "cwd").bind Json.str?
  let interpreters := match j.get? "interpreters" with
    | some (.obj members) => members.map (fun m => (m.1, interpreterOfJson m.2))
    | _ => []
  some { cwd := ⟨cwd⟩
         files := (((j.get? "files").map textItems).getD []).map Path.mk
         grammar := .ofTrees ((j.get? "trees").getD .null)
         interpreters
         logFilter := (j.get? "log").bind Json.str? }

def parse? (text : String) : Option Scene :=
  ((RawJson.ofText? text).bind (RawJson.value? RawJson.depthLimit)).bind ofJson?

/-- What comes of running an interpreter; one that is not mentioned cannot be started. -/
def interpreter (s : Scene) (name : String) : Probe.Interpreter :=
  ((s.interpreters.find? (fun i => i.1 == name)).map (·.2)).getD (.unavailable .notFound)

end Scene

namespace FileSystem

/-- The file system with a file and the directories above it; a file in the way stays. -/
def placeFile (fs : FileSystem) (p : Path) (content : ByteArray) : FileSystem :=
  let fs := match p.parent? with
    | some dir => (fs.makeDirectories dir).2
    | none => fs
  match fs.write p (.bytes content) with
  | .ok fs => fs
  | .error _ => fs

/-- The file system of a scene with the given contents. -/
def ofContents (cwd : Path) (contents : List (Path × ByteArray)) : FileSystem :=
  let fs := (contents.foldl (fun fs e => fs.placeFile e.1 e.2) FileSystem.empty).makeDirectories cwd
  { fs.2 with cwd := cwd.components }

end FileSystem

end RequiredVersion
