import RequiredVersion.FileSystem.Basic
import RequiredVersion.Text.Quoted
import RequiredVersion.Version.Basic

/-! # Failures

Why the parts of a run fail, each part with a type of its own, and how messages put it. -/

namespace RequiredVersion

/-- A path as messages show it. -/
def Path.quoted (p : Path) : String := Text.quote p.text

def RawPath.quoted (p : RawPath) : String :=
  String.ofList ('"' :: Text.quotedBytes 0 p.bytes.toList ++ ['"'])

/-- A path and why it could not be used. -/
def Path.because (p : Path) (cause : Cause) : String := p.quoted ++ ": " ++ cause.message

/-- The content cache could not be read or written. -/
structure CacheFailure where
  path : Path
  cause : Cause
  deriving DecidableEq

def CacheFailure.message (e : CacheFailure) : String :=
  "Cache IO error at " ++ e.path.because e.cause

/-- An index could not be built, read or written. -/
inductive IndexFailure where
  | io (path : Path) (cause : Cause)
  /-- The document is no index. -/
  | undecodable (path : Path)
  /-- The release does not say which version it is. -/
  | noVersion (path : Path)
  | cache (failure : CacheFailure)
  deriving DecidableEq

def IndexFailure.message : IndexFailure → String
  | .io path cause => "IO error while indexing " ++ path.because cause
  | .undecodable path => "Invalid index document " ++ path.quoted
  | .noVersion path => "No WordPress version declaration found in " ++ path.quoted
  | .cache e => e.message

/-- A plugin could not be scanned, or its report not be written. -/
structure ScanFailure where
  path : Path
  cause : Cause
  deriving DecidableEq

def ScanFailure.message (e : ScanFailure) : String :=
  "IO error while scanning " ++ e.path.because e.cause

/-- A release could not be asked for, downloaded or unpacked. -/
inductive ReleaseFailure where
  /-- No request can be made for the address that was asked for, if it is one. -/
  | unsupported (address : Option String)
  /-- The request for an address could not be sent. -/
  | unreachable (address : String)
  | invalidResponse (text : String)
  /-- The file is no archive. -/
  | extraction (path : Path)
  | io (path : Path) (cause : Cause)
  deriving DecidableEq

def ReleaseFailure.message : ReleaseFailure → String
  | .unsupported (some address) => "Network error: builder error for url (" ++ address ++ ")"
  | .unsupported none => "Network error: builder error"
  | .unreachable address => "Network error: error sending request for url (" ++ address ++ ")"
  | .invalidResponse text => "Invalid response: " ++ text
  | .extraction path => "Failed to extract archive " ++ path.quoted
  | .io path cause => "IO error at " ++ path.because cause

/-- A requirement could not be written. -/
structure PatchFailure where
  path : Path
  cause : Cause
  deriving DecidableEq

def PatchFailure.message (e : PatchFailure) : String :=
  "Failed to rewrite " ++ e.path.because e.cause

/-- The settings could not be read. -/
inductive SettingsFailure where
  | io (path : Path) (cause : Cause)
  /-- The document holds no settings. -/
  | undecodable (path : Path)
  deriving DecidableEq

def SettingsFailure.message : SettingsFailure → String
  | .io path cause => "Failed to read config " ++ path.because cause
  | .undecodable path => "Invalid config " ++ path.quoted

/-- A run failed. -/
inductive CheckFailure where
  | invalidSourceDir (path : Path)
  | missingVersionOverride
  | invalidVersion (failure : InvalidVersion)
  | indexUnavailable (reason : String)
  | release (failure : ReleaseFailure)
  | index (failure : IndexFailure)
  | scan (failure : ScanFailure)
  | patching (failure : PatchFailure)
  deriving DecidableEq

namespace CheckFailure

def message : CheckFailure → String
  | .invalidSourceDir path => "Invalid source directory '" ++ path.text ++ "'"
  | .missingVersionOverride => "--update-files-only requires --wp or --php"
  | .invalidVersion e => e.message
  | .indexUnavailable reason => "No version index available: " ++ reason
  | .release e => e.message
  | .index e => e.message
  | .scan e => e.message
  | .patching e => e.message

/-- Is it the user's input that is wrong? -/
def isUserInput : CheckFailure → Bool
  | .invalidSourceDir _ | .missingVersionOverride | .invalidVersion _ => true
  | _ => false

end CheckFailure

end RequiredVersion
