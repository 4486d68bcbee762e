import RequiredVersion.Declaration
import RequiredVersion.Json.Basic

/-! # Documents of trees

A tree is written as the list of its nodes in pre-order, each an array of its depth, its kind,
whether it is named (1 or 0), its field in its parent, and where it starts and stops.  A document
of trees has one for each source text. -/

namespace RequiredVersion

/-- Reads a number that is not negative. -/
def Json.nat? : Json → Option Nat
  | .num (.int (.ofNat n)) => some n
  | _ => none

def Json.str? : Json → Option String
  | .str s => some s
  | _ => none

namespace Node

def Row.ofJson? : Json → Option Row
  | .arr [depth, kind, named, field, start, stop] => do
    let depth ← depth.nat?
    let kind ← kind.str?
    let named ← named.nat?
    let field ← field.str?
    let start ← start.nat?
    let stop ← stop.nat?
    some ⟨depth, kind, named == 1, field, start, stop⟩
  | _ => none

def ofJson? : Json → Option Node
  | .arr rows => (rows.mapM Row.ofJson?).bind ofPreorder?
  | _ => none

end Node

/-- The grammar that a document of trees stands for; other sources have no tree. -/
def Grammar.ofTrees (trees : Json) : Grammar := fun source =>
  match (trees.get? source).bind Node.ofJson? with
  | some root => .ok root
  | none => .error ⟨"no tree"⟩

end RequiredVersion
