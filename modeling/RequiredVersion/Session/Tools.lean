import RequiredVersion.Capability
import RequiredVersion.Json.Decode
import RequiredVersion.Session.Basic

/-! # Tools of a run

What a run is given: a grammar for PHP, a probe that knows the capabilities of the PHP runtime, and
a source of releases.

A probe may have to ask the runtime first.  It does so once, when a guard is met, and the records
of that are its `detection`. -/

namespace RequiredVersion

/-- Knows what the runtime has. -/
structure Probe where
  inventory : Inventory
  /-- What asking the runtime adds to the log. -/
  detection : List Record

namespace Probe

/-- A probe that has nothing to ask. -/
def fixed (inventory : Inventory) : Probe := ⟨inventory, []⟩

def area : Area := ["index", "probe"]

/-- What came of running the PHP interpreter. -/
inductive Interpreter where
  /-- It could not be started. -/
  | unavailable (cause : Cause)
  /-- It ended with a status after writing its output. -/
  | ended (status : Nat) (output : ByteArray)

/-- What comes of starting a program by its name.  One without a slash is looked for among the
installed programs, of which there are none; `run?` says what a file does that can be run. -/
def Interpreter.start (fs : FileSystem) (run? : Place → Content → Option Interpreter)
    (name : String) : Interpreter :=
  if FileSystem.hasNul name then .unavailable .nulInCommand
  else if !name.toList.contains '/' then
    .unavailable (if FileSystem.nameLimit < name.utf8ByteSize then .nameTooLong else .notFound)
  else
    match fs.resolve ⟨name⟩ .target with
    | .error e => .unavailable e
    | .ok (.vacant _ _) => .unavailable .notFound
    | .ok (.found place (.file content)) =>
      (run? place content).getD (.unavailable .permissionDenied)
    | .ok (.found _ _) => .unavailable .permissionDenied

/-- Reads the inventory that the interpreter writes. -/
def inventoryOfRaw? (r : RawJson) : Option Inventory := do
  let fs ← r.fields? ["functions", "classes", "constants"]
  let functions ← fs.getD? "functions" [] (RawJson.list? RawJson.text?)
  let classes ← fs.getD? "classes" [] (RawJson.list? RawJson.text?)
  let constants ← fs.getD? "constants" [] (RawJson.list? RawJson.text?)
  some (.ofNames functions classes constants)

/-- The probe of an interpreter with the given name.  One that does not answer properly confirms
nothing. -/
def detect (php : String) : Interpreter → Probe
  | .unavailable cause =>
    ⟨.empty, [⟨area, .warn, "Failed to run " ++ php ++ ": " ++ cause.message ++
      "; shim guards will not be excluded"⟩]⟩
  | .ended 0 output =>
    match (RawJson.ofBytes? output).bind inventoryOfRaw? with
    | some inventory =>
      ⟨inventory, [⟨area, .info, "Loaded " ++ Text.decimalText inventory.size ++
        " PHP runtime capabilities"⟩]⟩
    | none => ⟨.empty, [⟨area, .warn, "Unexpected output from " ++ php⟩]⟩
  | .ended status _ =>
    ⟨.empty, [⟨area, .warn, php ++ " exited with exit status: " ++
      Text.decimalText status ++ "; shim guards will not be excluded"⟩]⟩

/-- Asks the runtime unless that has been done. -/
def ask (p : Probe) : Action Unit := do
  if !(← get).probed then
    Action.notes p.detection
    modify (fun s => { s with probed := true })

end Probe

/-- What a call of a release source adds to the log, and its result. -/
structure Reply (α : Type) where
  records : List Record
  result : α

/-- What a download leaves at its destination, if anything, and whether it failed. -/
structure Delivery where
  written : Option Content
  failure : Option ReleaseFailure

/-- Offers releases. -/
structure ReleaseSource where
  latest : Reply (Except ReleaseFailure Version)
  download : Version → Reply Delivery
  /-- What is reported where a path could not be made or written for a download, given this path and
  that of the download. -/
  reported : (failed dest : Path) → Path

structure Tools where
  grammar : Grammar
  probe : Probe
  source : ReleaseSource

end RequiredVersion
