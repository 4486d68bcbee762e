/-! # JSON values

A value keeps the members of an object in order.  Numbers are whole numbers or decimal fractions
with a power of ten; a fraction stands for the binary number of 64 bits nearest to it. -/

namespace RequiredVersion

/-- A JSON number. -/
inductive Number where
  /-- A whole number. -/
  | int (value : Int)
  /-- The number `digits * 10 ^ exponent`, negated if `negative`; `digits` has no more digits than
  it takes to tell the number from its neighbours of 64 bits. -/
  | float (negative : Bool) (digits : Nat) (exponent : Int)
  deriving DecidableEq, Inhabited

/-- A JSON value. -/
inductive Json where
  | null
  | bool (b : Bool)
  | num (n : Number)
  | str (s : String)
  | arr (items : List Json)
  | obj (members : List (String × Json))
  deriving Inhabited

namespace Json

/-- A whole number that is not negative. -/
def nat (n : Nat) : Json := .num (.int n)

/-- The text, or `null` where there is none. -/
def text? : Option String → Json
  | some s => .str s
  | none => .null

/-- An array of texts. -/
def texts (xs : List String) : Json := .arr (xs.map .str)

/-- The first member of an object with the given name. -/
def get? (name : String) : Json → Option Json
  | .obj members => (members.find? (fun m => m.1 == name)).map (·.2)
  | _ => none

end Json

end RequiredVersion
