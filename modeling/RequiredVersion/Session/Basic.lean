import RequiredVersion.Declaration
import RequiredVersion.Failure
import RequiredVersion.Log

/-! # Sessions

What a run works on and leaves behind: the files, the log, and how often the release source, the
grammar and the runtime were asked.  An action changes the session; one that can fail keeps the
changes made before the failure. -/

namespace RequiredVersion

structure Session where
  files : FileSystem
  /-- The records so far, in order. -/
  log : List Record
  /-- How often the latest version was asked for. -/
  queries : Nat
  /-- How often a release was downloaded. -/
  downloads : Nat
  /-- How often a source was parsed. -/
  parses : Nat
  /-- Has the runtime been asked for its capabilities? -/
  probed : Bool

def Session.start (files : FileSystem) : Session := ⟨files, [], 0, 0, 0, false⟩

/-- An action on a session. -/
abbrev Action := StateM Session

/-- An action that may fail. -/
abbrev Run (ε : Type) := ExceptT ε Action

namespace Action

def note (area : Area) (level : Level) (message : String) : Action Unit :=
  modify (fun s => { s with log := s.log ++ [⟨area, level, message⟩] })

/-- Adds records to the log. -/
def notes (records : List Record) : Action Unit :=
  modify (fun s => { s with log := s.log ++ records })

/-- Looks at the files. -/
def files : Action FileSystem := do return (← get).files

def setFiles (fs : FileSystem) : Action Unit := modify (fun s => { s with files := fs })

/-- Changes the files; a failure leaves them alone. -/
def change (f : FileSystem → Except Cause FileSystem) : Action (Except Cause Unit) := do
  match f (← files) with
  | .ok fs => do setFiles fs; return .ok ()
  | .error e => return .error e

/-- Makes a directory and those above it. -/
def makeDirectories (p : Path) : Action (Except Cause Unit) := do
  let (outcome, fs) := (← files).makeDirectories p
  setFiles fs
  return outcome

end Action

namespace Run

variable {ε : Type} {α : Type}

/-- The outcome of an action that says itself whether it failed. -/
def ofAction (onError : Cause → ε) (x : Action (Except Cause α)) : Run ε α := do
  match ← x with
  | .ok a => return a
  | .error e => throw (onError e)

def note (area : Area) (level : Level) (message : String) : Run ε Unit :=
  liftM (Action.note area level message)

def files : Run ε FileSystem := liftM Action.files

/-- Changes the files, or fails and leaves them alone. -/
def change (onError : Cause → ε) (f : FileSystem → Except Cause FileSystem) : Run ε Unit :=
  ofAction onError (Action.change f)

def makeDirectories (onError : Cause → ε) (p : Path) : Run ε Unit :=
  ofAction onError (Action.makeDirectories p)

/-- The action as part of one with more ways to fail. -/
def lift {ε' : Type} (f : ε → ε') (x : Run ε α) : Run ε' α := ExceptT.adapt f x

/-- The action with its outcome as a value. -/
def outcome (x : Run ε α) : Action (Except ε α) := x.run

end Run

end RequiredVersion
