import RequiredVersion.Symbol
import RequiredVersion.Tree.Context
import RequiredVersion.Tree.Parents

/-! # References

What a source file refers to by names that are known without running it.  A method called on an
object, or on `self`, does not say which class it belongs to. -/

namespace RequiredVersion

/-- What a source file refers to. -/
inductive Reference where
  | function (name : String)
  | classType (name : String)
  | method (owner : Option String) (name : String)
  | constant (name : String)
  | hook (family : HookFamily) (name : String)
  deriving DecidableEq, Inhabited

/-- A reference and its line. -/
structure Usage where
  reference : Reference
  line : Nat
  deriving DecidableEq, Inhabited

namespace Reference

/-- A call refers to its function, and one that registers a callback first to the hook. -/
def ofCall (source : List Char) (n : Node) : List Reference :=
  match n.callee? source with
  | none => []
  | some name =>
    match HookFamily.registeredBy? name, n.firstString? source with
    | some family, some label => [.hook family label, .function name]
    | _, _ => [.function name]

/-- The name of the method that a call names. -/
def methodName? (source : List Char) (n : Node) : Option String :=
  match n.childByField? "name" with
  | some name => if name.construct = .name then some (name.text source) else none
  | none => none

/-- A constant of a class; `Foo::class` is none. -/
def ofClassConstant (source : List Char) (n : Node) : List Reference :=
  match n.firstNamed?.bind (·.staticName? source), n.lastNamed? with
  | some owner, some last =>
    let name := last.chars source
    if Text.lowerAscii name = ['c', 'l', 'a', 's', 's'] then []
    else [.constant (owner ++ "::" ++ String.ofList name)]
  | _, _ => []

/-- The references that a node makes by itself. -/
def ofNode (source : List Char) (c : Cursor) (parent : Option Cursor := c.parent?) :
    List Reference :=
  match c.node.construct with
  | .functionCall => ofCall source c.node
  | .objectCreation =>
    ((c.node.firstNamed?.bind (·.staticName? source)).map Reference.classType).toList
  | .memberCall => ((methodName? source c.node).map (Reference.method none)).toList
  | .scopedCall =>
    let owner := (c.node.childByField? "scope").bind (·.staticName? source)
    ((methodName? source c.node).map (Reference.method owner)).toList
  | .classConstantAccess => ofClassConstant source c.node
  | .name | .qualifiedName =>
    if c.isConstantFetch parent then [.constant ((c.node.staticName? source).getD "")] else []
  | _ => []

end Reference

namespace Usage

/-- The usages that a node makes by itself. -/
def ofNode (source : List Char) (c : Cursor) (parent : Option Cursor := c.parent?) : List Usage :=
  (Reference.ofNode source c parent).map (fun r => ⟨r, c.node.line source⟩)

/-- The usages of a tree, in the order of its source.  The parent of a node is found by the parent map
of the tree. -/
def collect (source : List Char) (root : Node) : List Usage :=
  let parents := ParentMap.ofTree root
  Cursor.walk ⟨fun c usages => usages ++ ofNode source c (parents.parent? c), fun _ usages => usages⟩
    root []

end Usage

end RequiredVersion
