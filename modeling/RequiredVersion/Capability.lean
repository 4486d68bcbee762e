import RequiredVersion.SortedMap
import RequiredVersion.Text.Blank

/-! # Capabilities of a PHP runtime

A guard such as `if ( ! function_exists( 'x' ) )` asks whether the runtime has a function, a class
or a constant.  An inventory answers such questions. -/

namespace RequiredVersion

/-- What a guard can ask for. -/
inductive Capability where
  | function
  | classType
  | constant
  deriving DecidableEq

/-- The capability that a guard function tests. -/
def Capability.checkedBy? (function : String) : Option Capability :=
  if function = "function_exists" then some .function
  else if function = "class_exists" ∨ function = "interface_exists" then some .classType
  else if function = "defined" then some .constant
  else none

/-- The functions, classes and constants of a runtime.  Names of functions and classes are kept in
lower case. -/
structure Inventory where
  functions : SortedMap String Unit
  classes : SortedMap String Unit
  constants : SortedMap String Unit
  deriving DecidableEq

namespace Inventory

def lower (name : String) : String := String.ofList (Text.lowerAscii name.toList)

/-- A list of names as a set. -/
def nameSet (names : List String) : SortedMap String Unit :=
  SortedMap.ofList (names.map (fun n => (n, ())))

def ofNames (functions classes constants : List String) : Inventory :=
  { functions := nameSet (functions.map lower)
    classes := nameSet (classes.map lower)
    constants := nameSet constants }

def empty : Inventory := ofNames [] [] []

/-- Does the runtime have it?  Leading namespace separators do not count, nor does case for
functions and classes. -/
def confirms (inv : Inventory) (capability : Capability) (name : String) : Bool :=
  let name := String.ofList (name.toList.dropWhile (· == '\\'))
  match capability with
  | .function => inv.functions.contains (lower name)
  | .classType => inv.classes.contains (lower name)
  | .constant => inv.constants.contains name

def size (inv : Inventory) : Nat := inv.functions.size + inv.classes.size + inv.constants.size

end Inventory

end RequiredVersion
