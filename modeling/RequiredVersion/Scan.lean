import RequiredVersion.Cache.Store
import RequiredVersion.FileSystem.Walk
import RequiredVersion.Report
import RequiredVersion.Reference
import RequiredVersion.Text.Utf8

/-! # Scans

A scan goes through the PHP files below a directory and reports the indexed symbols that they use.
A file without a tree is passed over.

A reference is resolved to the indexed symbols that it stands for.  A method called on a class stands
for the class and the method.  One called on an unknown object is matched if exactly one class has it,
and is then reported for a placeholder in place of the class. -/

namespace RequiredVersion

/-! ### Resolution -/

namespace Index

/-- The owner that methods of unknown objects are reported for. -/
def unknownOwner : String := "$object"

/-- A symbol with its lifespan, if it is indexed. -/
def hit? (i : Index) (symbol : Symbol) : Option (Symbol × Lifespan) :=
  (i.get? symbol).map (fun a => (symbol, a))

/-- The match of a method of an unknown object. -/
def unknownHit? (i : Index) (method : String) : Option (Symbol × Lifespan) :=
  match i.owners.get? method with
  | some [owner] => (i.get? (.method owner method)).map (fun a => (.method unknownOwner method, a))
  | _ => none

/-- The symbols that a reference stands for, as they are reported. -/
def resolve (i : Index) (matchUnknown : Bool) : Reference → List (Symbol × Lifespan)
  | .function name => (i.hit? (.function name)).toList
  | .classType name => (i.hit? (.classType name)).toList
  | .constant name => (i.hit? (.constant name)).toList
  | .hook family name => (i.hit? (.hook family name)).toList
  | .method (some owner) name =>
    [Symbol.classType owner, .method owner name].filterMap i.hit?
  | .method none name => if matchUnknown then (i.unknownHit? name).toList else []

end Index

/-! ### Scanning -/

/-- A symbol as the log shows it. -/
def Symbol.described : Symbol → String
  | .constant name => "Constant(" ++ Text.quote name ++ ")"
  | .function name => "Function(" ++ Text.quote name ++ ")"
  | .classType name => "Class(" ++ Text.quote name ++ ")"
  | .method owner name =>
    "Method \x7b class: " ++ Text.quote owner ++ ", method: " ++ Text.quote name ++ " \x7d"
  | .hook family name =>
    let kind := match family with
      | .action => "DoAction"
      | .filter => "ApplyFilters"
    "Hook \x7b kind: " ++ kind ++ ", name: " ++ Text.quote name ++ " \x7d"

/-- What a scan goes by. -/
structure Scanner where
  grammar : Grammar
  index : Index
  floor : Version
  ignoredNames : List String
  matchUnknown : Bool

namespace Scanner

def area : Area := ["scan"]

/-- The usages in a source text. -/
def extract (grammar : Grammar) (text : String) : Action (Except ParseFailure (List Usage)) := do
  modify (fun s => { s with parses := s.parses + 1 })
  match grammar text with
  | .error e => return .error e
  | .ok root => return .ok (Usage.collect text.toList root)

/-- Records the symbols that one usage stands for. -/
def foldHits (file : String) (line : Nat) :
    List (Symbol × Lifespan) → Report → Action Report
  | [], r => return r
  | (symbol, a) :: rest, r => do
    Action.note area .debug
      (file ++ ":" ++ Text.decimalText line ++ " uses " ++ symbol.described)
    foldHits file line rest (r.record symbol a ⟨file, line⟩)

/-- Records the usages of one file. -/
def foldUsages (s : Scanner) (file : String) : List Usage → Report → Action Report
  | [], r => return r
  | u :: rest, r => do
    let r ← foldHits file u.line (s.index.resolve s.matchUnknown u.reference) r
    foldUsages s file rest r

/-- Records the usages of a list of files, up to one that cannot be read. -/
def foldFiles (s : Scanner) (root : Path) :
    List Path → Cache (List Usage) → Report →
      Action (Cache (List Usage) × Except ScanFailure Report)
  | [], cache, r => return (cache, .ok r)
  | file :: rest, cache, r => do
    match (← Action.files).readBytes file with
    | .error e => return (cache, .error ⟨file, e⟩)
    | .ok content =>
      let (cache, found) ← cache.getOrExtract file content
        (extract s.grammar (Text.lossyText content))
      match found with
      | .ok usages => do
        let r ← s.foldUsages (file.relativeTo root) usages r
        foldFiles s root rest cache r
      | .error e => do
        Action.note area .warn ("Skipping " ++ file.quoted ++ ": " ++ e.message)
        foldFiles s root rest cache r

/-- Reports the usages below a directory.  The cache changes also if that fails. -/
def scan (s : Scanner) (root : Path) (cache : Cache (List Usage)) :
    Action (Cache (List Usage) × Except ScanFailure Report) := do
  Action.note area .info ("Scanning " ++ root.quoted ++ " for WordPress API usage")
  match (← Action.files).phpFiles root s.ignoredNames with
  | .error e => return (cache, .error ⟨e.path, e.cause⟩)
  | .ok files =>
    let (cache, outcome) ← s.foldFiles root files cache (.start s.floor)
    match outcome with
    | .error e => return (cache, .error e)
    | .ok r =>
      Action.note area .info ("Matched " ++ Text.decimalText r.size ++
        " symbols in " ++ Text.decimalText files.length ++
        " files; minimum version " ++ r.minimum.text)
      return (cache, .ok r)

end Scanner

end RequiredVersion
