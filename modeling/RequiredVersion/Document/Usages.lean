import RequiredVersion.Document.Symbols
import RequiredVersion.Reference

/-! # Documents of usages

A usage is an object with the kind of its reference, the names that go with the kind, and the
line. -/

namespace RequiredVersion

namespace Reference

def members : Reference → List (String × Json)
  | .function name => [("type", .str "function"), ("name", .str name)]
  | .classType name => [("type", .str "class"), ("name", .str name)]
  | .method owner name =>
    ("type", .str "method") :: Json.optional "class" (owner.map .str) ++ [("method", .str name)]
  | .constant name => [("type", .str "constant"), ("name", .str name)]
  | .hook family name =>
    [("type", .str "hook"), ("kind", .str family.name), ("name", .str name)]

/-- The kinds of references, in the order of their numbers. -/
def kindNames : List String := ["function", "class", "method", "constant", "hook"]

/-- The kind that a tag stands for, by its name or its number. -/
def kindOfRaw? : RawJson → Option String
  | .str units => (RawJson.key? units).filter kindNames.contains
  | r => r.word?.bind (kindNames[·]?)

/-- The family that is named, by a text or as the only member of an object, with nothing in it. -/
def familyOfRaw? : RawJson → Option HookFamily
  | .str units => (RawJson.key? units).bind HookFamily.ofName?
  | .obj [(units, .null)] => (RawJson.key? units).bind HookFamily.ofName?
  | .obj [(units, .obj [])] => (RawJson.key? units).bind HookFamily.ofName?
  | _ => none

/-- The reference of a kind with the names that a record holds. -/
def ofRecord? (kind : String) (record : RawJson) : Option Reference := do
  if kind = "method" then
    let fs ← record.fields? ["class", "method"]
    let owner ← fs.getD? "class" none (RawJson.nullable? RawJson.text?)
    let name ← fs.required? "method" RawJson.text?
    some (.method owner name)
  else if kind = "hook" then
    let fs ← record.fields? ["kind", "name"]
    let family ← fs.required? "kind" familyOfRaw?
    let name ← fs.required? "name" RawJson.text?
    some (.hook family name)
  else
    let fs ← record.fields? ["name"]
    let name ← fs.required? "name" RawJson.text?
    some (if kind = "function" then .function name
      else if kind = "class" then .classType name else .constant name)

/-- Reads a reference: an object with its kind among the members, or an array that starts with its
kind. -/
def ofRaw? : RawJson → Option Reference
  | .obj members => do
    let tag ← RawJson.objectFields? ["type"] members
    let kind ← tag.required? "type" kindOfRaw?
    ofRecord? kind (.obj members)
  | .arr (tag :: names) => do
    let kind ← kindOfRaw? tag
    ofRecord? kind (.arr names)
  | _ => none

end Reference

namespace Usage

def toJson (u : Usage) : Json := .obj (u.reference.members ++ [("line", .nat u.line)])

/-- Reads a usage.  It must be an object, and all of it must be readable with the given room for
nesting, unknown members included. -/
def ofRaw? (room : Nat) (r : RawJson) : Option Usage :=
  match r with
  | .obj members => do
    let _ ← r.value? room
    let fs ← RawJson.objectFields? ["line"] members
    let line ← fs.required? "line" RawJson.word?
    let reference ← Reference.ofRaw? r
    some { reference, line }
  | _ => none

end Usage

end RequiredVersion
