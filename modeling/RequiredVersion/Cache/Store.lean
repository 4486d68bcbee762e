import RequiredVersion.Cache.Basic
import RequiredVersion.Document.Usages
import RequiredVersion.Session.Basic

/-! # Caches in files

The document of a cache, and looking up, loading and saving as actions.  A document that cannot be
read counts as an empty cache. -/

namespace RequiredVersion

/-- How the data of a cache are written and read. -/
structure Format (α : Type) where
  encode : α → Json
  decode : RawJson → Option α

namespace Format

def symbols : Format SymbolTable := ⟨SymbolTable.toJson, SymbolTable.ofRaw?⟩

/-- The levels of nesting that a cache document puts around its data. -/
def outerLevels : Nat := 2

/-- The list around the usages is one more level. -/
def usages : Format (List Usage) :=
  ⟨fun us => .arr (us.map Usage.toJson),
   RawJson.list? (Usage.ofRaw? (RawJson.depthLimit - (outerLevels + 1)))⟩

end Format

namespace Cache

variable {α : Type}

def area : Area := ["cache"]

/-! ### Documents -/

def entryToJson (format : Format α) (e : CacheEntry α) : Json :=
  .obj [("key", .str e.key), ("data", format.encode e.data)]

def entryOfRaw? (format : Format α) (r : RawJson) : Option (CacheEntry α) := do
  let fs ← r.fields? ["key", "data"]
  let key ← fs.required? "key" RawJson.text?
  let data ← fs.required? "data" format.decode
  some { key, data }

def document (format : Format α) (c : Cache α) : String :=
  (c.entries.toJson (entryToJson format)).pretty

/-- The entries in the bytes of a document. -/
def decodeEntries? (format : Format α) (bytes : ByteArray) :
    Option (SortedMap String (CacheEntry α)) :=
  (RawJson.ofBytes? bytes).bind (RawJson.map? (entryOfRaw? format))

/-! ### Actions -/

/-- The cached data of a file, or those that `extract` gives, which are then recorded; and the cache
that is left. -/
def getOrExtract {ε : Type} (c : Cache α) (file : RawPath) (content : ByteArray)
    (extract : Action (Except ε α)) : Action (Cache α × Except ε α) := do
  match c.lookup file content with
  | some data =>
    Action.note area .debug ("Cache hit for " ++ file.quoted)
    return (c.touch file, .ok data)
  | none =>
    Action.note area .debug ("Cache miss for " ++ file.quoted)
    match ← extract with
    | .error e => return (c, .error e)
    | .ok data => return (c.insert file content data, .ok data)

/-- Loads a cache; a missing file counts as an empty one. -/
def load (format : Format α) (path : Path) : Run CacheFailure (Cache α) := do
  let entries ← match (← Run.files).readBytes path with
    | .ok bytes =>
      match decodeEntries? format bytes with
      | some entries => pure entries
      | none =>
        Run.note area .warn ("Discarding unreadable cache " ++ path.quoted)
        pure .empty
    | .error .notFound => pure .empty
    | .error e => throw ⟨path, e⟩
  Run.note area .info ("Loaded cache " ++ path.quoted ++ " with " ++
    Text.decimalText entries.size ++ " entries")
  return ⟨some path, entries, true, .empty⟩

/-- Saves a cache that is kept in a file. -/
def save (format : Format α) (c : Cache α) : Run CacheFailure Unit := do
  match c.path with
  | none => return ()
  | some path =>
    match path.parent? with
    | some dir => Run.makeDirectories (fun e => ⟨dir, e⟩) dir
    | none => pure ()
    Run.change (fun e => ⟨path, e⟩) (fun fs => fs.writeText path (c.document format))
    Run.note area .info ("Saved " ++ Text.decimalText c.entries.size ++
      " cache entries to " ++ path.quoted)

end Cache

end RequiredVersion
