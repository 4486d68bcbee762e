import RequiredVersion.Index.Build
import RequiredVersion.Release.Depot
import RequiredVersion.Requirement.Files
import RequiredVersion.Scan

/-! # Runs

A run finds out for plugin directories which version of the framework each needs, and may write that
down.  First all that the user gave is looked at, then the index is brought up to date, then the
directories are scanned one after the other.

`Checker.ensureIndex` gives an index whenever one can be had: an existing one counts as long as no
newer release has taken its place. -/

namespace RequiredVersion

/-- What a run is to do. -/
structure CheckOptions where
  /-- Keep an existing index also if there is a newer release. -/
  skipUpdate : Bool
  /-- Do not ask for the latest release if there is an index. -/
  skipUpdateCheck : Bool
  /-- Write the report into each directory. -/
  saveReport : Bool
  /-- Write the versions into the files of the plugin. -/
  updateFiles : Bool
  /-- Only write the given versions. -/
  updateFilesOnly : Bool
  wordpress : Option String
  php : Option String

/-- What a run found and did for a directory. -/
structure CheckOutcome where
  dir : Path
  /-- None if only files were updated. -/
  report : Option Report
  reportPath : Option Path
  updated : List Path

structure Checker where
  settings : Settings
  directory : DataDirectory
  tools : Tools
  /-- The name of the main file of the plugin. -/
  base : String

namespace Checker

def area : Area := ["checker"]

def depot (c : Checker) : Depot :=
  ⟨c.directory, c.tools.source, c.settings.debug.keepArchive, c.settings.debug.keepTree⟩

/-! ### The index -/

/-- The index in the data directory; an unusable one is passed over. -/
def loadIndex (c : Checker) : Action (Option Index) := do
  match ← (Index.load c.directory.index).outcome with
  | .ok index? => return index?
  | .error e =>
    Action.note area .warn ("Ignoring unusable index: " ++ e.message)
    return none

/-- Builds the index of a release, and writes it and the cache of the build. -/
def rebuild (c : Checker) (tree : Path) : Run IndexFailure Index := do
  let cache ← Run.lift .cache (Cache.load .symbols c.directory.cache)
  let cache := cache.bypass c.settings.debug.noCache
  let (cache, outcome) ← liftM (Index.build c.tools.grammar c.tools.probe tree cache)
  match outcome with
  | .error e => throw e
  | .ok index =>
    index.save c.directory.index
    Run.lift .cache (cache.save .symbols)
    liftM (c.depot.discard tree)
    return index

/-- What is used when the latest version cannot be found out: the existing index, or one of the
release that an earlier run has left. -/
def withoutCheck (c : Checker) (existing : Option Index) (e : ReleaseFailure) :
    Run CheckFailure Index := do
  match existing with
  | some index =>
    Run.note area .warn ("Update check failed, using existing index: " ++ e.message)
    return index
  | none =>
    match c.depot.retained? (← Run.files) with
    | some tree =>
      Run.note area .warn
        ("Update check failed, indexing retained tree " ++ tree.quoted ++ ": " ++ e.message)
      Run.lift .index (c.rebuild tree)
    | none => throw (.indexUnavailable e.message)

/-- The index of a release that is fetched, or else the existing one. -/
def fetchIndex (c : Checker) (existing : Option Index) (latest : Version) :
    Run CheckFailure Index := do
  match ← liftM (c.depot.fetch latest).outcome with
  | .ok tree => Run.lift .index (c.rebuild tree)
  | .error e =>
    match existing with
    | some index =>
      Run.note area .warn
        ("Failed to fetch WordPress " ++ latest.text ++ ", using existing index: " ++ e.message)
      return index
    | none => throw (.release e)

/-- The index that the version check leads to. -/
def checkedIndex (c : Checker) (options : CheckOptions) (existing : Option Index) :
    Run CheckFailure Index := do
  match ← liftM (c.depot.check (existing.bind Index.release)).outcome, existing with
  | .error e, _ => c.withoutCheck existing e
  | .ok (.upToDate _), some index => return index
  | .ok (.upToDate version), none => c.fetchIndex none version
  | .ok (.outdated _ latest), some index =>
    if options.skipUpdate then
      Run.note area .info
        ("WordPress " ++ latest.text ++ " is available; keeping existing index")
      return index
    c.fetchIndex (some index) latest
  | .ok (.outdated _ latest), none => c.fetchIndex none latest

/-- The index to scan with, brought up to date if need be. -/
def ensureIndex (c : Checker) (options : CheckOptions) : Run CheckFailure Index := do
  let existing ← liftM c.loadIndex
  match existing with
  | some index =>
    if options.skipUpdateCheck then
      Run.note area .info "Skipping update check"
      return index
    c.checkedIndex options (some index)
  | none => c.checkedIndex options none

/-! ### What the user gave -/

/-- The directories to look at; without any it is the current one. -/
def resolveDirs (fs : FileSystem) (dirs : List Path) : Except CheckFailure (List Path) :=
  (if dirs.isEmpty then [⟨"."⟩] else dirs).mapM (fun dir =>
    match fs.canonical dir with
    | .ok p => if fs.isDirectory p then .ok p else .error (.invalidSourceDir dir)
    | .error _ => .error (.invalidSourceDir dir))

/-- The version that the user gave, if any. -/
def givenVersion : Option String → Except CheckFailure (Option Version)
  | none => .ok none
  | some text =>
    match Version.parse text with
    | .ok v => .ok (some v)
    | .error e => .error (.invalidVersion e)

/-- The input of a run, as far as it can be wrong. -/
structure Input where
  dirs : List Path
  given : Requirements
  /-- The least version that a scan gives; none if there is to be no scan. -/
  floor : Option Version

/-- Looks at all that the user gave. -/
def validate (c : Checker) (fs : FileSystem) (dirs : List Path) (options : CheckOptions) :
    Except CheckFailure Input := do
  let dirs ← resolveDirs fs dirs
  let wordpress ← givenVersion options.wordpress
  let php ← givenVersion options.php
  let given : Requirements := { wordpress, php }
  if options.updateFilesOnly then
    if given.isEmpty then .error .missingVersionOverride
    else .ok { dirs, given, floor := none }
  else
    let floor ← givenVersion (some c.settings.floorVersion)
    .ok { dirs, given, floor }

/-! ### Directories -/

/-- Writes the given versions into the files of each directory. -/
def updateDirs (c : Checker) (given : Requirements) :
    List Path → Run CheckFailure (List CheckOutcome)
  | [] => return []
  | dir :: rest => do
    let updated ← Run.lift .patching (given.apply c.base dir)
    let others ← updateDirs c given rest
    return { dir, report := none, reportPath := none, updated } :: others

/-- Scans a directory and writes what is to be written there. -/
def checkDir (c : Checker) (options : CheckOptions) (given : Requirements) (scanner : Scanner)
    (dir : Path) : Run CheckFailure CheckOutcome := do
  let cache := Cache.inMemory.bypass c.settings.debug.noCache
  let (_, outcome) ← liftM (scanner.scan dir cache)
  match outcome with
  | .error e => throw (.scan e)
  | .ok report =>
    Run.note area .info
      ("Minimum WordPress version for " ++ dir.quoted ++ ": " ++ report.minimum.text)
    let reportPath ← if options.saveReport then
        some <$> Run.lift .scan (report.save dir)
      else pure none
    let updated ← if options.updateFiles then
        let wanted : Requirements :=
          { given with wordpress := some (given.wordpress.getD report.minimum) }
        Run.lift .patching (wanted.apply c.base dir)
      else pure []
    return { dir, report := some report, reportPath, updated }

def checkDirs (c : Checker) (options : CheckOptions) (given : Requirements) (scanner : Scanner) :
    List Path → Run CheckFailure (List CheckOutcome)
  | [] => return []
  | dir :: rest => do
    let outcome ← c.checkDir options given scanner dir
    let others ← checkDirs c options given scanner rest
    return outcome :: others

/-- A whole run. -/
def run (c : Checker) (dirs : List Path) (options : CheckOptions) :
    Run CheckFailure (List CheckOutcome) := do
  match c.validate (← Run.files) dirs options with
  | .error e => throw e
  | .ok input =>
    match input.floor with
    | none => c.updateDirs input.given input.dirs
    | some floor =>
      let index ← c.ensureIndex options
      let scanner : Scanner :=
        ⟨c.tools.grammar, index, floor, c.settings.ignoredNames, c.settings.matchUnknownReceivers⟩
      c.checkDirs options input.given scanner input.dirs

end Checker

end RequiredVersion
