import RequiredVersion.Document.Scene

/-! # The program

The outer layer of the command line.  It reads a scene from the standard input, loads its files,
runs the program, writes the files that changed, and prints what the program says. -/

namespace RequiredVersion

/-- The rest of a stream. -/
partial def restOf (input : IO.FS.Stream) (text : String) : IO String := do
  let line ← input.getLine
  if line.isEmpty then return text
  restOf input (text ++ line)

/-- The contents of the files that can be read. -/
def loadFiles (files : List Path) : IO (List (Path × ByteArray)) := do
  let contents ← files.mapM (fun p => do
    try
      return [(p, ← IO.FS.readBinFile p.text)]
    catch _ => return [])
  return contents.flatten

/-- Brings the files to the state that a run has left. -/
def storeFiles (before after : Listing) : IO Unit := do
  for (name, content) in after.changedSince before do
    let p : Path := ⟨"/" ++ name⟩
    match content with
    | some content =>
      match p.parent? with
      | some dir => IO.FS.createDirAll dir.text
      | none => pure ()
      IO.FS.writeBinFile p.text content.toBytes
    | none => IO.FS.createDirAll p.text
  for name in after.removedSince before do
    if !name.endsWith "/" then IO.FS.removeFile ("/" ++ name)

/-- Runs the program in a scene and gives its status. -/
def runScene (scene : Scene) (args : List String) : IO UInt32 := do
  let files := FileSystem.ofContents scene.cwd (← loadFiles scene.files)
  let around : Surroundings :=
    { grammar := scene.grammar
      interpreter := scene.interpreter
      dataHome := (← IO.getEnv "XDG_DATA_HOME").map Path.mk
      home := (← IO.getEnv "HOME").map Path.mk
      logFilter := scene.logFilter }
  let (outcome, log, after) := CommandLine.run around args files
  storeFiles (files.listing []) (after.listing [])
  let ending := match outcome with
    | .ok ending => ending
    | .error stop => stop.ending
  for record in log do
    IO.eprintln record.line
  for line in ending.output do
    IO.println line
  match ending.complaint with
  | some line => IO.eprintln line
  | none => pure ()
  return ending.status.toUInt32

end RequiredVersion

open RequiredVersion in
def main (args : List String) : IO UInt32 := do
  let text ← restOf (← IO.getStdin) ""
  match Scene.parse? text with
  | some scene => runScene scene args
  | none =>
    IO.eprintln "error: the standard input holds no scene"
    return 2
