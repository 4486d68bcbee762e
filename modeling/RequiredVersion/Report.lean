import RequiredVersion.Document.Symbols
import RequiredVersion.Session.Basic
import RequiredVersion.Version.Order

/-! # Usage reports

The indexed symbols that a plugin uses, each with the places where it does, and the least version
that has them all: the join of a floor and the `since` versions. -/

namespace RequiredVersion

/-- A line of a file. -/
structure Location where
  file : String
  line : Nat
  deriving DecidableEq

namespace Location

/-- Locations are ordered by file, then by line. -/
instance : Ord Location := ⟨compareLex (compareOn file) (compareOn line)⟩

instance : Std.TransOrd Location :=
  inferInstanceAs (Std.TransCmp (compareLex (compareOn file) (compareOn line)))

instance : Std.LawfulEqOrd Location where
  eq_of_compare {a b} h := by
    have h : (compare a.file b.file).then (compare a.line b.line) = .eq := h
    obtain ⟨hf, hl⟩ := Ordering.then_eq_eq.mp h
    cases a; cases b
    simp only [Location.mk.injEq]
    exact ⟨Std.LawfulEqCmp.eq_of_compare hf, Std.LawfulEqCmp.eq_of_compare hl⟩

def text (l : Location) : String := l.file ++ ":" ++ Text.decimalText l.line

end Location

/-- A used symbol: its lifespan and where it is used. -/
structure Hit where
  lifespan : Lifespan
  locations : SortedMap Location Unit
  deriving DecidableEq

structure Report where
  minimum : Version
  hits : SortedMap Symbol Hit
  deriving DecidableEq

namespace Report

def start (floor : Version) : Report := ⟨floor, .empty⟩

/-- Adds a use of a symbol.  The first lifespan recorded for a symbol stays. -/
def record (r : Report) (symbol : Symbol) (a : Lifespan) (l : Location) : Report :=
  let hit := r.hits.getD symbol ⟨a, .empty⟩
  { minimum := r.minimum.join a.since
    hits := r.hits.insert symbol { hit with locations := hit.locations.insertNew l () } }

def get? (r : Report) (symbol : Symbol) : Option Hit := r.hits.get? symbol

def size (r : Report) : Nat := r.hits.size

def isEmpty (r : Report) : Bool := r.hits.isEmpty

end Report

/-! ### Documents

The layout is that of an index, with members in ascending order. -/

namespace Hit

def placesJson (h : Hit) : Json := Json.texts (h.locations.keys.map Location.text)

/-- What is written for a hit. -/
def fields (h : Hit) : SortedMap String Json :=
  let since := SortedMap.empty.insert "since" h.lifespan.since.toJson
  let dated := match h.lifespan.deprecated with
    | some v => since.insert "deprecated" v.toJson
    | none => since
  dated.insert "_where" h.placesJson

def toJson (h : Hit) : Json := .obj h.fields.entries

end Hit

namespace Report

/-- The sections of a document, while hits are put into them. -/
structure Sections where
  constants : SortedMap String Json
  functions : SortedMap String Json
  /-- A class has one slot for what is written for itself and for its methods. -/
  classes : SortedMap String (SortedMap String Json)
  actions : SortedMap String Json
  filters : SortedMap String Json

namespace Sections

def empty : Sections := ⟨.empty, .empty, .empty, .empty, .empty⟩

/-- Puts a method into the slot of its class. -/
def addMethod (slot : SortedMap String Json) (name : String) (entry : Json) : SortedMap String Json :=
  match slot.getD "method" (.obj []) with
  | .obj methods => slot.insert "method" (.obj (SortedMap.insertEntry name entry methods))
  | _ => slot

/-- Puts a hit into its section. -/
def add (d : Sections) (symbol : Symbol) (hit : Hit) : Sections :=
  match symbol with
  | .constant name => { d with constants := d.constants.insert name hit.toJson }
  | .function name => { d with functions := d.functions.insert name hit.toJson }
  | .classType name =>
    { d with classes := d.classes.insert name ((d.classes.getD name .empty).union hit.fields) }
  | .method owner name =>
    { d with
      classes := d.classes.insert owner (addMethod (d.classes.getD owner .empty) name hit.toJson) }
  | .hook .action name => { d with actions := d.actions.insert name hit.toJson }
  | .hook .filter name => { d with filters := d.filters.insert name hit.toJson }

end Sections

/-- All hits in their sections. -/
def sections (r : Report) : Sections :=
  r.hits.entries.foldl (fun d e => d.add e.1 e.2) .empty

def toJson (r : Report) : Json :=
  let d := r.sections
  .obj [("@wp_min", r.minimum.toJson),
    ("class", d.classes.toJson (fun slot => .obj slot.entries)),
    ("constant", .obj d.constants.entries),
    ("function", .obj d.functions.entries),
    ("hook", .obj [("apply_filters", .obj d.filters.entries), ("do_action", .obj d.actions.entries)])]

def area : Area := ["scan", "report"]

/-- Where the report of a directory is written. -/
def path (dir : Path) : Path := dir.joinText "wpvc_usage_data.json"

/-- Writes the report into a directory and gives its path. -/
def save (r : Report) (dir : Path) : Run ScanFailure Path := do
  let p := path dir
  Run.change (fun e => ⟨p, e⟩) (fun fs => fs.writeText p r.toJson.pretty)
  Run.note area .info ("Saved usage report to " ++ p.quoted)
  return p

end Report

end RequiredVersion
