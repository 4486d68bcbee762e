import RequiredVersion.Lifespan
import RequiredVersion.SortedMap
import RequiredVersion.Symbol

/-! # Symbol tables

The annotated symbols of one or more files.  A class and its methods share an entry, in which the
class itself may lack a lifespan.

`SymbolTable.get?` is the view of a table; `insert` and `merge` change it symbol by symbol. -/

namespace RequiredVersion

/-- A class and its annotated methods. -/
structure ClassEntry where
  since : Option Version
  deprecated : Option Version
  methods : SortedMap String Lifespan
  deriving DecidableEq, Inhabited

namespace ClassEntry

def empty : ClassEntry := ⟨none, none, .empty⟩

/-- The lifespan of the class itself: there is none without a `since` version. -/
def lifespan? (e : ClassEntry) : Option Lifespan :=
  e.since.map (fun since => { since, deprecated := e.deprecated })

/-- The entry with the lifespan of the class replaced. -/
def annotate (e : ClassEntry) (a : Lifespan) : ClassEntry :=
  { e with since := some a.since, deprecated := a.deprecated }

/-- The newer entry counts where it says something: it replaces the lifespan of the class only
if it has one, and the methods one by one. -/
def merge (e newer : ClassEntry) : ClassEntry :=
  let methods := e.methods.union newer.methods
  match newer.since with
  | some since => { since := some since, deprecated := newer.deprecated, methods }
  | none => { e with methods }

end ClassEntry

structure SymbolTable where
  constants : SortedMap String Lifespan
  functions : SortedMap String Lifespan
  classes : SortedMap String ClassEntry
  actions : SortedMap String Lifespan
  filters : SortedMap String Lifespan
  deriving DecidableEq, Inhabited

namespace SymbolTable

def empty : SymbolTable := ⟨.empty, .empty, .empty, .empty, .empty⟩

/-- The hooks of a family. -/
def hooks (t : SymbolTable) : HookFamily → SortedMap String Lifespan
  | .action => t.actions
  | .filter => t.filters

def classEntry (t : SymbolTable) (name : String) : ClassEntry := t.classes.getD name .empty

/-- The lifespan of a symbol. -/
def get? (t : SymbolTable) : Symbol → Option Lifespan
  | .constant name => t.constants.get? name
  | .function name => t.functions.get? name
  | .classType name => (t.classEntry name).lifespan?
  | .method owner name => (t.classEntry owner).methods.get? name
  | .hook family name => (t.hooks family).get? name

/-- The table with the lifespan of a symbol replaced. -/
def insert (t : SymbolTable) (symbol : Symbol) (a : Lifespan) : SymbolTable :=
  match symbol with
  | .constant name => { t with constants := t.constants.insert name a }
  | .function name => { t with functions := t.functions.insert name a }
  | .classType name => { t with classes := t.classes.insert name ((t.classEntry name).annotate a) }
  | .method owner name =>
    let e := t.classEntry owner
    { t with classes := t.classes.insert owner { e with methods := e.methods.insert name a } }
  | .hook .action name => { t with actions := t.actions.insert name a }
  | .hook .filter name => { t with filters := t.filters.insert name a }

/-- Both tables in one; where both have an entry the newer one counts. -/
def merge (t newer : SymbolTable) : SymbolTable :=
  { constants := t.constants.union newer.constants
    functions := t.functions.union newer.functions
    classes := newer.classes.entries.foldl
      (fun classes e => classes.insert e.1 ((classes.getD e.1 .empty).merge e.2)) t.classes
    actions := t.actions.union newer.actions
    filters := t.filters.union newer.filters }

/-- The number of annotated symbols. -/
def size (t : SymbolTable) : Nat :=
  t.constants.size + t.functions.size +
    (t.classes.values.map (fun e => (if e.since.isSome then 1 else 0) + e.methods.size)).foldr
      (· + ·) 0 +
    t.actions.size + t.filters.size

def isEmpty (t : SymbolTable) : Bool := t.size == 0

end SymbolTable

/-- The symbols of a release, with its version if that is known. -/
structure Index where
  release : Option Version
  symbols : SymbolTable
  deriving DecidableEq, Inhabited

namespace Index

def get? (i : Index) (symbol : Symbol) : Option Lifespan := i.symbols.get? symbol

/-- Adds a class to the owners of a method, behind those it has. -/
def addOwner (name : String) (owners : SortedMap String (List String)) (method : String) :
    SortedMap String (List String) :=
  owners.insert method (owners.getD method [] ++ [name])

/-- Adds a class to the owners of each of its methods. -/
def addClass (owners : SortedMap String (List String)) (e : String × ClassEntry) :
    SortedMap String (List String) :=
  e.2.methods.keys.foldl (addOwner e.1) owners

/-- The classes that annotate a method, by the name of the method: they are gone through in order, and
a method without an owner has no entry. -/
def owners (i : Index) : SortedMap String (List String) :=
  i.symbols.classes.entries.foldl addClass .empty

end Index

end RequiredVersion
