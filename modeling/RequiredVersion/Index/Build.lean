import RequiredVersion.Cache.Store
import RequiredVersion.FileSystem.Walk
import RequiredVersion.Session.Tools
import RequiredVersion.Text.Utf8

/-! # Building and keeping an index

The index of a release is the merge of what its PHP files declare, in the order of their paths, and
the version that the release says it is.  A file without a tree is passed over.  An index is kept in
a file. -/

namespace RequiredVersion.Index

def buildArea : Area := ["index", "builder"]

/-! ### The version of a release -/

/-- Where a release says which version it is. -/
def versionFile : String := "wp-includes/version.php"

def isQuoteMark (c : Char) : Bool := c == '\'' || c == '"'

/-- What is assigned right here: blanks, an equals sign, blanks, and a text between quotes of
either kind. -/
def assigned? (cs : List Char) : Option (List Char) :=
  match cs.dropWhile Text.isBlank with
  | '=' :: rest =>
    match rest.dropWhile Text.isBlank with
    | q :: rest =>
      let value := rest.takeWhile (fun c => !isQuoteMark c)
      if isQuoteMark q && !value.isEmpty && value.length < rest.length then some value else none
    | [] => none
  | _ => none

/-- The text of the first assignment to the version variable. -/
def versionText? : List Char → Option (List Char)
  | [] => none
  | c :: cs =>
    match (Text.dropStart? "$wp_version".toList (c :: cs)).bind assigned? with
    | some value => some value
    | none => versionText? cs

/-- The version that the release in a directory says it is. -/
def releaseVersion (fs : FileSystem) (root : Path) : Except IndexFailure Version :=
  let path := root.joinText versionFile
  match fs.readText path with
  | .error e => .error (.io path e)
  | .ok text =>
    match (versionText? text.toList).bind Version.ofChars? with
    | some v => .ok v
    | none => .error (.noVersion path)

/-! ### Declarations -/

/-- Puts the notes of a walk into the log; the first question to the runtime asks it. -/
def logNotes (probe : Probe) : List Declaration.Note → Action Unit
  | [] => return ()
  | .asked :: rest => do
    probe.ask
    logNotes probe rest
  | .passedOver line :: rest => do
    Action.note buildArea .debug ("Skipping shim guard at line " ++ Text.decimalText line)
    logNotes probe rest

/-- The declarations of a source text. -/
def extract (grammar : Grammar) (probe : Probe) (text : String) :
    Action (Except ParseFailure SymbolTable) := do
  modify (fun s => { s with parses := s.parses + 1 })
  match grammar text with
  | .error e => return .error e
  | .ok root =>
    let found := Declaration.collect probe.inventory.confirms text.toList root
    logNotes probe found.notes
    Action.note buildArea .debug
      ("Extracted " ++ Text.decimalText found.symbols.size ++ " symbols")
    return .ok found.symbols

/-! ### Files -/

/-- What has been done of a build. -/
structure Progress where
  cache : Cache SymbolTable
  symbols : SymbolTable
  /-- The number of files passed over. -/
  skipped : Nat

/-- Merges what a list of files declares, up to one that cannot be read. -/
def addFiles (grammar : Grammar) (probe : Probe) :
    List Path → Progress → Action (Progress × Option IndexFailure)
  | [], p => return (p, none)
  | file :: rest, p => do
    match (← Action.files).readBytes file with
    | .error e => return (p, some (.io file e))
    | .ok content =>
      let (cache, found) ← p.cache.getOrExtract file content
        (extract grammar probe (Text.lossyText content))
      match found with
      | .ok table => addFiles grammar probe rest { p with cache, symbols := p.symbols.merge table }
      | .error e => do
        Action.note buildArea .warn ("Skipping " ++ file.quoted ++ ": " ++ e.message)
        addFiles grammar probe rest { p with cache, skipped := p.skipped + 1 }

/-- Drops the entries of files that are no longer there. -/
def pruneCache (cache : Cache SymbolTable) : Action (Cache SymbolTable) := do
  let pruned := cache.prune
  if pruned.size < cache.size then
    Action.note buildArea .debug ("Dropped " ++
      Text.decimalText (cache.size - pruned.size) ++
      " cache entries for files no longer present")
  return pruned

/-- Builds the index of the release in a directory.  The cache changes also if that fails. -/
def build (grammar : Grammar) (probe : Probe) (root : Path) (cache : Cache SymbolTable) :
    Action (Cache SymbolTable × Except IndexFailure Index) := do
  Action.note buildArea .info ("Scanning " ++ root.quoted ++ " for version info")
  match (← Action.files).phpFiles root [] with
  | .error e => return (cache, .error (.io e.path e.cause))
  | .ok files =>
    let (p, failure) ← addFiles grammar probe files ⟨cache, .empty, 0⟩
    match failure with
    | some e => return (p.cache, .error e)
    | none =>
      let cache ← pruneCache p.cache
      match releaseVersion (← Action.files) root with
      | .error e => return (cache, .error e)
      | .ok version =>
        Action.note buildArea .info ("Indexed " ++ Text.decimalText p.symbols.size ++
          " symbols from " ++ Text.decimalText files.length ++
          " files for WordPress " ++ version.text ++ " (" ++
          Text.decimalText p.skipped ++ " skipped)")
        return (cache, .ok ⟨some version, p.symbols⟩)

/-! ### Indexes in files -/

def area : Area := ["index"]

/-- Loads an index; there is none if the file is missing. -/
def load (path : Path) : Run IndexFailure (Option Index) := do
  match (← Run.files).readBytes path with
  | .error .notFound => return none
  | .error e => throw (.io path e)
  | .ok bytes =>
    match decode? bytes with
    | none => throw (.undecodable path)
    | some index =>
      let version := match index.release with
        | some v => v.text
        | none => "unknown"
      Run.note area .info ("Loaded version index for WordPress " ++ version ++ " (" ++
        Text.decimalText index.symbols.size ++ " symbols)")
      return some index

/-- Saves an index, making the directories it needs. -/
def save (index : Index) (path : Path) : Run IndexFailure Unit := do
  match path.parent? with
  | some dir => Run.makeDirectories (fun e => .io dir e) dir
  | none => pure ()
  Run.change (fun e => .io path e) (fun fs => fs.writeText path index.document)
  Run.note area .info ("Stored version index at " ++ path.quoted)

end RequiredVersion.Index
