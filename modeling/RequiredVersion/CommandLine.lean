import RequiredVersion.Check
import RequiredVersion.Release.Catalogue

/-! # The command line

The arguments of the program, and what a whole run of it does: it reads the settings, runs the
check and says what came of it.  All of it works on a session; reading and writing the real files
is left to the caller. -/

namespace RequiredVersion

/-! ### Arguments -/

/-- A switch of the command line. -/
inductive Switch where
  | skipUpdate
  | skipUpdateCheck
  | saveReport
  | updateFiles
  | updateFilesOnly
  | keepTree
  | keepArchive
  | noCache
  | verbose
  deriving DecidableEq

/-- An option of the command line that takes a value. -/
inductive Parameter where
  | wordpress
  | php
  | channel
  | pretendRelease
  deriving DecidableEq

namespace Switch

def ofName? : String → Option Switch
  | "skip-update" | "su" => some .skipUpdate
  | "skip-update-check" | "suc" => some .skipUpdateCheck
  | "save-usage-data" | "save" => some .saveReport
  | "update-files" | "update" => some .updateFiles
  | "update-files-only" | "ufo" => some .updateFilesOnly
  | "keep-data" => some .keepTree
  | "keep-zip" => some .keepArchive
  | "no-cache" => some .noCache
  | "verbose" => some .verbose
  | _ => none

end Switch

namespace Parameter

def ofName? : String → Option Parameter
  | "wp" => some .wordpress
  | "php" => some .php
  | "channel" => some .channel
  | "pretend-release" => some .pretendRelease
  | _ => none

end Parameter

/-- The arguments of the program. -/
structure Arguments where
  dirs : List Path
  switches : List Switch
  values : List (Parameter × String)

/-- Why the program ends before it does anything. -/
inductive EarlyEnd where
  | usageError
  | version
  | help
  deriving DecidableEq

namespace Arguments

def empty : Arguments := ⟨[], [], []⟩

def has (a : Arguments) (s : Switch) : Bool := a.switches.contains s

def value? (a : Arguments) (s : Parameter) : Option String :=
  (a.values.find? (fun v => v.1 = s)).map (·.2)

/-- Adds a switch, which may be given once. -/
def addSwitch (a : Arguments) (s : Switch) : Except EarlyEnd Arguments :=
  if a.has s then .error .usageError else .ok { a with switches := s :: a.switches }

/-- Adds an option, which may be given once. -/
def addValue (a : Arguments) (s : Parameter) (value : String) : Except EarlyEnd Arguments :=
  if (a.value? s).isSome then .error .usageError
  else .ok { a with values := (s, value) :: a.values }

/-- Adds a directory, whose path may not be empty. -/
def addDir (a : Arguments) (text : String) : Except EarlyEnd Arguments :=
  if text.isEmpty then .error .usageError else .ok { a with dirs := a.dirs ++ [⟨text⟩] }

/-- Reads the letters behind a single dash. -/
def addLetters : Arguments → List Char → Except EarlyEnd Arguments
  | a, [] => .ok a
  | a, 'v' :: rest => do
    let a ← a.addSwitch .verbose
    addLetters a rest
  | _, 'V' :: _ => .error .version
  | _, 'h' :: _ => .error .help
  | _, _ => .error .usageError

/-- An argument, by its form. -/
inductive Form where
  /-- Two dashes alone: what follows are directories. -/
  | separator
  /-- A name behind two dashes, perhaps with a value behind an equals sign. -/
  | long (name : String) (value : Option String)
  /-- Letters behind one dash. -/
  | letters (cs : List Char)
  | plain

def Form.of (arg : String) : Form :=
  match arg.toList with
  | ['-', '-'] => .separator
  | '-' :: '-' :: rest =>
    let name := rest.takeWhile (· != '=')
    .long (String.ofList name) ((rest.drop name.length).tail?.map String.ofList)
  | '-' :: c :: rest => .letters (c :: rest)
  | _ => .plain

/-- Reads arguments.  The value of an option is the next argument, if that is plain. -/
def addAll : Arguments → List String → Except EarlyEnd Arguments
  | a, [] => .ok a
  | a, arg :: rest =>
    match Form.of arg with
    | .separator => rest.foldlM addDir a
    | .plain => do
      let a ← a.addDir arg
      addAll a rest
    | .letters cs => do
      let a ← a.addLetters cs
      addAll a rest
    | .long name value =>
      match Switch.ofName? name, Parameter.ofName? name, value with
      | some s, _, none => do
        let a ← a.addSwitch s
        addAll a rest
      | some _, _, some _ => .error .usageError
      | none, some s, some value => do
        let a ← a.addValue s value
        addAll a rest
      | none, some s, none =>
        match rest with
        | [] => .error .usageError
        | next :: rest =>
          match Form.of next with
          | .plain => do
            let a ← a.addValue s next
            addAll a rest
          | _ => .error .usageError
      | none, none, none =>
        if name = "version" then .error .version
        else if name = "help" then .error .help
        else .error .usageError
      | none, none, some _ => .error .usageError

def parse (args : List String) : Except EarlyEnd Arguments := addAll empty args

/-- The settings as the arguments change them. -/
def applyTo (a : Arguments) (s : Settings) : Settings :=
  { s with
    channel := (a.value? .channel).getD s.channel
    pretendRelease := (a.value? .pretendRelease).or s.pretendRelease
    debug :=
      { keepArchive := s.debug.keepArchive || a.has .keepArchive
        keepTree := s.debug.keepTree || a.has .keepTree
        noCache := s.debug.noCache || a.has .noCache } }

def options (a : Arguments) : CheckOptions where
  skipUpdate := a.has .skipUpdate
  skipUpdateCheck := a.has .skipUpdateCheck
  saveReport := a.has .saveReport
  updateFiles := a.has .updateFiles
  updateFilesOnly := a.has .updateFilesOnly
  wordpress := a.value? .wordpress
  php := a.value? .php

end Arguments

/-! ### Runs of the program -/

/-- What the program finds around it. -/
structure Surroundings where
  grammar : Grammar
  /-- What comes of running an interpreter with the given name. -/
  interpreter : String → Probe.Interpreter
  dataHome : Option Path
  home : Option Path
  /-- The log filter that is set, if any. -/
  logFilter : Option String

/-- How the program ends. -/
structure Ending where
  status : Nat
  /-- The lines written to the standard output. -/
  output : List String
  /-- The line about wrong input, if there is one. -/
  complaint : Option String
  deriving DecidableEq

namespace CommandLine

def versionLine : String := "wpvc 0.1.0"

def usageLine : String := "Usage: wpvc [OPTIONS] [DIRS]..."

end CommandLine

/-- The end of a program that does nothing. -/
def EarlyEnd.ending : EarlyEnd → Ending
  | .usageError => ⟨2, [], none⟩
  | .version => ⟨0, [CommandLine.versionLine], none⟩
  | .help => ⟨0, [CommandLine.usageLine], none⟩

namespace CommandLine

/-- The lines about the outcome for a directory. -/
def outcomeLines (o : CheckOutcome) : List String :=
  (o.report.map (fun r =>
    o.dir.text ++ ": minimum WordPress version " ++ r.minimum.text)).toList ++
  (o.reportPath.map (fun p => "Usage data saved to " ++ p.text)).toList ++
  o.updated.map (fun p => "Updated " ++ p.text)

/-- The filter of the log: the one that is set, if it can be read, or else by level. -/
def logFilter (around : Surroundings) (verbose : Bool) : LogFilter :=
  (around.logFilter.bind LogFilter.parse?).getD (.ofLevel (if verbose then .debug else .info))

/-- Opens the log file; `false` if its directory cannot be made. -/
def openLog (directory : DataDirectory) : Run Cause Bool := do
  match ← liftM (Action.makeDirectories directory.path) with
  | .error _ => return false
  | .ok () =>
    if !(← Run.files).isFile directory.log then
      Run.change id (fun fs => fs.write directory.log (.bytes .empty))
    return true

def checker (around : Surroundings) (directory : DataDirectory) (settings : Settings)
    (base : String) : Checker where
  settings
  directory
  tools :=
    { grammar := around.grammar
      probe := .detect settings.phpBinary (around.interpreter settings.phpBinary)
      source := Catalogue.source
        ⟨settings.apiBase, settings.downloadBase, settings.channel, settings.pretendRelease⟩ }
  base

/-- Runs the program with its arguments read. -/
def runWith (around : Surroundings) (directory : DataDirectory) (a : Arguments) :
    Action Ending := do
  match ← (Settings.load directory.settings).outcome with
  | .error _ => return ⟨1, [], none⟩
  | .ok settings =>
    let base := ((← Action.files).cwd.getLast?).getD ""
    let c := checker around directory (a.applyTo settings) base
    match ← (c.run a.dirs a.options).outcome with
    | .ok outcomes => return ⟨0, outcomes.flatMap outcomeLines, none⟩
    | .error e =>
      if e.isUserInput then return ⟨2, [], some ("error: " ++ e.message)⟩
      Action.note [] .error e.message
      return ⟨1, [], none⟩

/-- The records that a log shows, if there is one. -/
def shown (around : Surroundings) (verbose logging : Bool) (log : List Record) : List Record :=
  if logging then log.filter (logFilter around verbose).shows else []

/-- Adds records to the log file. -/
def appendLog (directory : DataDirectory) (records : List Record) (fs : FileSystem) : FileSystem :=
  let text := String.join (records.map (fun r => r.line ++ "\n"))
  match (fs.readBytes directory.log).bind (fun old =>
    fs.write directory.log (.bytes (old ++ text.toUTF8))) with
  | .ok fs => fs
  | .error _ => fs

/-- The status of a program whose log file cannot be opened. -/
def brokenLogStatus : Nat := 101

/-- Runs the program, and gives its end, what its log shows, and the files it leaves. -/
def run (around : Surroundings) (args : List String) (files : FileSystem) :
    Except EarlyEnd Ending × List Record × FileSystem :=
  match Arguments.parse args with
  | .error stop => (.error stop, [], files)
  | .ok a =>
    let directory := DataDirectory.locate around.dataHome around.home
    let (opened, session) := (openLog directory).outcome.run (.start files)
    match opened with
    | .error _ => (.ok ⟨brokenLogStatus, [], none⟩, [], session.files)
    | .ok logging =>
      let (ending, session) := (runWith around directory a).run session
      let records := shown around (a.has .verbose) logging session.log
      (.ok ending, records, appendLog directory records session.files)

end CommandLine

end RequiredVersion
