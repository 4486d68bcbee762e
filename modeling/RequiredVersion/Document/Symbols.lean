import RequiredVersion.Json.Decode
import RequiredVersion.Json.Printer
import RequiredVersion.SymbolTable

/-! # Documents of symbols

Lifespans, symbol tables and indexes as JSON, written and read.  A version is its text; absent
versions and empty sets of methods are left out.  An index is the table of its symbols with the
version of the release beside it. -/

namespace RequiredVersion

/-! ### Versions and lifespans -/

namespace Version

def toJson (v : Version) : Json := .str v.text

def ofRaw? (r : RawJson) : Option Version := r.text?.bind parse?

end Version

/-- A member that is left out where there is no value. -/
def Json.optional (name : String) : Option Json → List (String × Json)
  | some v => [(name, v)]
  | none => []

/-- A map as an object. -/
def SortedMap.toJson {α : Type} (encode : α → Json) (m : SortedMap String α) : Json :=
  .obj (m.entries.map (fun e => (e.1, encode e.2)))

namespace Lifespan

def toJson (a : Lifespan) : Json :=
  .obj (("since", a.since.toJson) :: Json.optional "deprecated" (a.deprecated.map Version.toJson))

def ofRaw? (r : RawJson) : Option Lifespan := do
  let fs ← r.fields? ["since", "deprecated"]
  let since ← fs.required? "since" Version.ofRaw?
  let deprecated ← fs.getD? "deprecated" none (RawJson.nullable? Version.ofRaw?)
  some { since, deprecated }

/-- A map from names to lifespans. -/
def mapOfRaw? (r : RawJson) : Option (SortedMap String Lifespan) := r.map? ofRaw?

def mapToJson (m : SortedMap String Lifespan) : Json := m.toJson toJson

end Lifespan

/-! ### Tables -/

namespace ClassEntry

def toJson (e : ClassEntry) : Json :=
  .obj (Json.optional "since" (e.since.map Version.toJson) ++
    Json.optional "deprecated" (e.deprecated.map Version.toJson) ++
    (if e.methods.isEmpty then [] else [("method", Lifespan.mapToJson e.methods)]))

def ofRaw? (r : RawJson) : Option ClassEntry := do
  let fs ← r.fields? ["since", "deprecated", "method"]
  let since ← fs.getD? "since" none (RawJson.nullable? Version.ofRaw?)
  let deprecated ← fs.getD? "deprecated" none (RawJson.nullable? Version.ofRaw?)
  let methods ← fs.getD? "method" .empty Lifespan.mapOfRaw?
  some { since, deprecated, methods }

end ClassEntry

namespace SymbolTable

def members (t : SymbolTable) : List (String × Json) :=
  [("constant", Lifespan.mapToJson t.constants),
   ("function", Lifespan.mapToJson t.functions),
   ("class", t.classes.toJson ClassEntry.toJson),
   ("hook", .obj [("do_action", Lifespan.mapToJson t.actions),
     ("apply_filters", Lifespan.mapToJson t.filters)])]

def toJson (t : SymbolTable) : Json := .obj t.members

/-- The hooks of a table: actions, then filters. -/
def hooksOfRaw? (r : RawJson) :
    Option (SortedMap String Lifespan × SortedMap String Lifespan) := do
  let fs ← r.fields? ["do_action", "apply_filters"]
  let actions ← fs.getD? "do_action" .empty Lifespan.mapOfRaw?
  let filters ← fs.getD? "apply_filters" .empty Lifespan.mapOfRaw?
  some (actions, filters)

def fieldNames : List String := ["constant", "function", "class", "hook"]

/-- The table of the parts of a record. -/
def ofFields? (fs : RawJson.Fields) : Option SymbolTable := do
  let constants ← fs.getD? "constant" .empty Lifespan.mapOfRaw?
  let functions ← fs.getD? "function" .empty Lifespan.mapOfRaw?
  let classes ← fs.getD? "class" .empty (RawJson.map? ClassEntry.ofRaw?)
  let hooks ← fs.getD? "hook" (.empty, .empty) hooksOfRaw?
  some { constants, functions, classes, actions := hooks.1, filters := hooks.2 }

def ofRaw? (r : RawJson) : Option SymbolTable := do
  let fs ← r.fields? fieldNames
  ofFields? fs

end SymbolTable

/-! ### Indexes -/

namespace Index

def releaseName : String := "@wp_version"

def toJson (i : Index) : Json :=
  .obj (Json.optional releaseName (i.release.map Version.toJson) ++ i.symbols.members)

/-- Reads an index.  It must be an object, and all of it must be readable, unknown members
included. -/
def ofRaw? (r : RawJson) : Option Index :=
  match r with
  | .obj members => do
    let _ ← r.value? RawJson.depthLimit
    let fs ← RawJson.objectFields? (releaseName :: SymbolTable.fieldNames) members
    let release ← fs.getD? releaseName none (RawJson.nullable? Version.ofRaw?)
    let symbols ← SymbolTable.ofFields? fs
    some { release, symbols }
  | _ => none

/-- The text of an index. -/
def document (i : Index) : String := i.toJson.pretty

/-- Reads the bytes of an index. -/
def decode? (bytes : ByteArray) : Option Index := (RawJson.ofBytes? bytes).bind ofRaw?

end Index

end RequiredVersion
