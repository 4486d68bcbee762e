import RequiredVersion.Json.Decode
import RequiredVersion.Session.Basic

/-! # Settings

What the user may set for all runs, read from a document whose members all have defaults, and the
data directory, where the program keeps this document and all else. -/

namespace RequiredVersion

/-- Switches for looking into a run. -/
structure DebugSettings where
  /-- Are downloaded archives kept and used again? -/
  keepArchive : Bool
  /-- Is the unpacked release kept? -/
  keepTree : Bool
  /-- Are cached results passed over? -/
  noCache : Bool
  deriving DecidableEq

structure Settings where
  channel : String
  /-- A release that is to be taken as published. -/
  pretendRelease : Option String
  /-- The least version that a scan gives. -/
  floorVersion : String
  /-- Names of directories that a scan passes over. -/
  ignoredNames : List String
  phpBinary : String
  /-- Is a method called on an unknown object matched if only one class has it? -/
  matchUnknownReceivers : Bool
  apiBase : String
  downloadBase : String
  debug : DebugSettings
  deriving DecidableEq

namespace DebugSettings

def default : DebugSettings := ⟨false, false, false⟩

def ofRaw? (r : RawJson) : Option DebugSettings := do
  let fs ← r.fields? ["keepZip", "keepData", "noCache"]
  let keepArchive ← fs.getD? "keepZip" default.keepArchive RawJson.bool?
  let keepTree ← fs.getD? "keepData" default.keepTree RawJson.bool?
  let noCache ← fs.getD? "noCache" default.noCache RawJson.bool?
  some { keepArchive, keepTree, noCache }

def toJson (s : DebugSettings) : Json :=
  .obj [("keepZip", .bool s.keepArchive), ("keepData", .bool s.keepTree),
    ("noCache", .bool s.noCache)]

end DebugSettings

namespace Settings

def default : Settings where
  channel := "beta"
  pretendRelease := none
  floorVersion := "1.0"
  ignoredNames := [".git", ".svn", "svn", "node_modules", "dist", "bin"]
  phpBinary := "php"
  matchUnknownReceivers := true
  apiBase := "https://api.wordpress.org"
  downloadBase := "https://downloads.w.org"
  debug := .default

/-- The members of the document, in the order of the array form. -/
def fieldNames : List String :=
  ["channel", "pretendRelease", "floorVersion", "ignoreDirs", "phpBinary",
   "matchUnknownReceivers", "apiBaseUrl", "downloadBaseUrl", "debug"]

def ofRaw? (r : RawJson) : Option Settings := do
  let fs ← r.fields? fieldNames
  let channel ← fs.getD? "channel" default.channel RawJson.text?
  let pretendRelease ← fs.getD? "pretendRelease" default.pretendRelease
    (RawJson.nullable? RawJson.text?)
  let floorVersion ← fs.getD? "floorVersion" default.floorVersion RawJson.text?
  let ignoredNames ← fs.getD? "ignoreDirs" default.ignoredNames (RawJson.list? RawJson.text?)
  let phpBinary ← fs.getD? "phpBinary" default.phpBinary RawJson.text?
  let matchUnknownReceivers ← fs.getD? "matchUnknownReceivers" default.matchUnknownReceivers
    RawJson.bool?
  let apiBase ← fs.getD? "apiBaseUrl" default.apiBase RawJson.text?
  let downloadBase ← fs.getD? "downloadBaseUrl" default.downloadBase RawJson.text?
  let debug ← fs.getD? "debug" default.debug DebugSettings.ofRaw?
  some { channel, pretendRelease, floorVersion, ignoredNames, phpBinary, matchUnknownReceivers,
         apiBase, downloadBase, debug }

/-- The members of the document of settings. -/
def members (s : Settings) : List (String × Json) :=
  [("channel", .str s.channel), ("pretendRelease", Json.text? s.pretendRelease),
   ("floorVersion", .str s.floorVersion), ("ignoreDirs", Json.texts s.ignoredNames),
   ("phpBinary", .str s.phpBinary), ("matchUnknownReceivers", .bool s.matchUnknownReceivers),
   ("apiBaseUrl", .str s.apiBase), ("downloadBaseUrl", .str s.downloadBase),
   ("debug", s.debug.toJson)]

def parse? (text : String) : Option Settings := (RawJson.ofText? text).bind ofRaw?

/-- Loads settings; those of a missing file are the defaults. -/
def load (path : Path) : Run SettingsFailure Settings := do
  match (← Run.files).readText path with
  | .error .notFound => return default
  | .error e => throw (.io path e)
  | .ok text =>
    match parse? text with
    | some settings => return settings
    | none => throw (.undecodable path)

end Settings

/-- The directory where the program keeps its data. -/
structure DataDirectory where
  path : Path
  deriving DecidableEq

namespace DataDirectory

/-- The directory for the given data home and user home: below the former, or else at its usual
place below the latter, or else in the current directory. -/
def locate (dataHome home : Option Path) : DataDirectory :=
  let base := match dataHome, home with
    | some dir, _ => dir
    | none, some dir => dir.joinText ".local/share"
    | none, none => ⟨"."⟩
  ⟨base.joinText "wpvc"⟩

def index (d : DataDirectory) : Path := d.path.joinText "since_data.json"

def cache (d : DataDirectory) : Path := (d.path.joinText ".cache").joinText "wp_cache.json"

def settings (d : DataDirectory) : Path := d.path.joinText "config.json"

def log (d : DataDirectory) : Path := d.path.joinText "wpvc.log"

/-- Where the release that is being indexed stands. -/
def tree (d : DataDirectory) : Path := d.path.joinText "wordpress"

/-- Where a release is unpacked before it takes its place. -/
def staging (d : DataDirectory) : Path := d.path.joinText "wordpress-temp"

/-- Where the archive of a release is downloaded to. -/
def archive (d : DataDirectory) (version : Version) : Path :=
  d.path.joinText ("wordpress-" ++ version.text ++ ".zip")

end DataDirectory

end RequiredVersion
