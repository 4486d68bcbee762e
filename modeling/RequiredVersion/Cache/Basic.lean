import RequiredVersion.Digest.Blake3
import RequiredVersion.FileSystem.Path
import RequiredVersion.SortedMap
import RequiredVersion.Text.Digit

/-! # Content caches

What was extracted from files, by the keys of their paths.  An entry counts as long as the fingerprint
of the file's content is the one it was made from.  Entries for paths that have not come up since the
cache was opened can be pruned. -/

namespace RequiredVersion

/-- The fingerprint of a file's content: its hash in hexadecimal, a dot, and its length. -/
def fingerprint (bytes : ByteArray) : String :=
  String.ofList (Text.hex (Blake3.hash bytes.toList) ++ '.' :: Text.decimal bytes.size)

/-- What was extracted, and the fingerprint of what it was extracted from. -/
structure CacheEntry (α : Type) where
  key : String
  data : α
  deriving DecidableEq

structure Cache (α : Type) where
  /-- The file that the cache is kept in, if any. -/
  path : Option Path
  entries : SortedMap String (CacheEntry α)
  /-- Are entries looked up at all? -/
  enabled : Bool
  /-- The keys of the paths that have come up. -/
  touched : SortedMap String Unit

namespace Cache

variable {α : Type}

/-- A cache that is not kept in a file. -/
def inMemory : Cache α := ⟨none, .empty, true, .empty⟩

/-- Switches lookups off or on; new entries are recorded all the same. -/
def bypass (c : Cache α) (off : Bool) : Cache α := { c with enabled := !off }

/-- The data for a file with the given content. -/
def lookup (c : Cache α) (file : RawPath) (content : ByteArray) : Option α :=
  if c.enabled then
    match c.entries.get? file.key with
    | some e => if e.key = fingerprint content then some e.data else none
    | none => none
  else none

def touch (c : Cache α) (file : RawPath) : Cache α :=
  { c with touched := c.touched.insert file.key () }

/-- Records new data for a file. -/
def insert (c : Cache α) (file : RawPath) (content : ByteArray) (data : α) : Cache α :=
  { c.touch file with entries := c.entries.insert file.key ⟨fingerprint content, data⟩ }

/-- The cache without the entries whose path has not come up. -/
def prune (c : Cache α) : Cache α :=
  { c with entries := c.entries.filter (fun path _ => c.touched.contains path) }

def size (c : Cache α) : Nat := c.entries.size

end Cache

end RequiredVersion
