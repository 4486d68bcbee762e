import RequiredVersion.Index.Build
import RequiredVersion.Release.Archive
import RequiredVersion.Settings
import RequiredVersion.Version.Order

/-! # Releases in the data directory

Finding out whether a newer release exists, bringing a release into the data directory and removing
it again.  A release is unpacked beside the place where it will stand and takes that place only as
a whole. -/

namespace RequiredVersion

/-- A data directory with a source of releases. -/
structure Depot where
  directory : DataDirectory
  source : ReleaseSource
  /-- Are downloaded archives kept and used again? -/
  keepArchive : Bool
  /-- Is the unpacked release kept? -/
  keepTree : Bool

/-- How the release of an index compares with the latest one. -/
inductive Freshness where
  | upToDate (version : Version)
  | outdated (local? : Option Version) (latest : Version)
  deriving DecidableEq

namespace Depot

def area : Area := ["release", "sync"]

/-- Asks the source for the latest version. -/
def latest (d : Depot) : Run ReleaseFailure Version := do
  modify (fun s => { s with queries := s.queries + 1 })
  liftM (Action.notes d.source.latest.records)
  match d.source.latest.result with
  | .ok v => return v
  | .error e => throw e

/-- Compares the version of an index with the latest one. -/
def check (d : Depot) (local? : Option Version) : Run ReleaseFailure Freshness := do
  match local? with
  | some v => Run.note area .info ("Local WordPress version: " ++ v.text)
  | none => Run.note area .info "No WordPress version data found"
  let latest ← d.latest
  match local? with
  | some v =>
    if (compare v latest).isGE then
      Run.note area .info "WordPress data is up-to-date"
      return .upToDate v
    return .outdated (some v) latest
  | none => return .outdated none latest

/-- Has the source put a release at a path. -/
def download (d : Depot) (version : Version) (dest : Path) : Run ReleaseFailure Unit := do
  modify (fun s => { s with downloads := s.downloads + 1 })
  let reply := d.source.download version
  liftM (Action.notes reply.records)
  match reply.result.written with
  | some content =>
    match dest.parent? with
    | some dir => Run.makeDirectories (fun e => .io (d.source.reported dir dest) e) dir
    | none => pure ()
    Run.change (fun e => .io (d.source.reported dest dest) e) (fun fs => fs.write dest content)
  | none => pure ()
  reply.result.failure.forM throw

/-- Removes a directory, if it is there, with all it holds. -/
def removeTree (p : Path) : Run ReleaseFailure Unit :=
  Run.change (fun e => .io p e) (fun fs =>
    match fs.removeTree p with
    | .error .notFound => .ok fs
    | outcome => outcome)

/-- Brings a release into the data directory, in place of an earlier one, and gives the directory
it stands in. -/
def fetch (d : Depot) (version : Version) : Run ReleaseFailure Path := do
  let archive := d.directory.archive version
  let staging := d.directory.staging
  let tree := d.directory.tree
  if d.keepArchive && (← Run.files).isFile archive then
    Run.note area .info ("Reusing local archive " ++ archive.quoted)
  else
    d.download version archive
  removeTree staging
  let _ ← Archive.extract archive staging
  removeTree tree
  Run.change (fun e => .io tree e) (fun fs => fs.rename staging tree)
  if !d.keepArchive then
    match ← liftM (Action.change (fun fs => fs.removeFile archive)) with
    | .ok () => pure ()
    | .error e =>
      Run.note area .warn ("Failed to remove archive " ++ archive.because e)
  Run.note area .info ("WordPress " ++ version.text ++ " stored at " ++ tree.quoted)
  return tree

/-- The release that an earlier run has left, if there is one. -/
def retained? (d : Depot) (fs : FileSystem) : Option Path :=
  if fs.isFile (d.directory.tree.joinText Index.versionFile) then some d.directory.tree else none

/-- Removes a release unless it is to be kept.  A failure is only noted. -/
def discard (d : Depot) (tree : Path) : Action Unit := do
  if d.keepTree then
    Action.note area .info ("Keeping WordPress source at " ++ tree.quoted)
  else
    match ← (removeTree tree).outcome with
    | .ok () => return ()
    | .error e =>
      Action.note area .warn ("Failed to remove " ++ tree.quoted ++ ": " ++ e.message)

end Depot

end RequiredVersion
