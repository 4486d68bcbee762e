import RequiredVersion.Capability
import RequiredVersion.SymbolTable
import RequiredVersion.Tree.Context
import RequiredVersion.Tree.Parents

/-! # Declarations

The annotated declarations of a source file: functions, classes, methods, constants, and the hooks
that it emits.

Two things act on all declarations in a stretch of the source.  A comment that starts with
`/**#@+` gives its lifespan to all that follows, up to one that starts with `/**#@-`.  And inside
an `if` statement that stands in for something the runtime already has, no declaration
counts. -/

namespace RequiredVersion

/-- A source text that no tree could be made of. -/
structure ParseFailure where
  reason : String
  deriving DecidableEq

def ParseFailure.message (e : ParseFailure) : String := "Failed to parse file: " ++ e.reason

/-- What makes trees of source texts. -/
abbrev Grammar := String → Except ParseFailure Node

namespace Declaration

/-! ### Guards -/

/-- What an `if` statement of the form `if ( ! function_exists( 'x' ) )` asks for. -/
def guarded? (source : List Char) (n : Node) : Option (Capability × String) := do
  let condition ← n.childByField? "condition"
  let negation ← if condition.kind = "parenthesized_expression" then condition.firstNamed?
    else some condition
  if negation.kind = "unary_op_expression" ∧ (negation.chars source).head? = some '!' then
    let call ← negation.lastNamed?
    if call.construct = .functionCall then
      let callee ← call.callee? source
      let capability ← Capability.checkedBy? callee
      let name ← call.firstString? source
      some (capability, name)
    else none
  else none

/-! ### Symbols -/

/-- The constant that an element of a `const` declaration declares.  One in a class without a name
cannot be fetched by name. -/
def constant? (source : List Char) (c : Cursor) (up : List Cursor := c.ancestors) :
    Option Symbol := do
  let name ← c.node.firstNamed?.map (·.text source)
  match c.enclosingType? source up with
  | some owner => some (.constant (owner ++ "::" ++ name))
  | none => if c.isMemberConstant up then none else some (.constant name)

/-- The symbol that a call declares: a defined constant or an emitted hook. -/
def called? (source : List Char) (n : Node) : Option Symbol := do
  let callee ← n.callee? source
  if callee = "define" then
    if 2 ≤ n.callArguments.length then (n.firstString? source).map .constant else none
  else
    let family ← HookFamily.emittedBy? callee
    let name ← n.firstString? source
    some (.hook family name)

/-- The symbol that a node declares. -/
def symbol? (source : List Char) (c : Cursor) (up : List Cursor := c.ancestors) : Option Symbol :=
  match c.node.construct with
  | .functionDefinition => (c.node.declaredName? source).map .function
  | .classDeclaration => (c.node.declaredName? source).map .classType
  | .methodDeclaration => do
    let owner ← c.enclosingType? source up
    let name ← c.node.declaredName? source
    some (.method owner name)
  | .constElement => constant? source c up
  | .functionCall => called? source c.node
  | _ => none

/-! ### The walk -/

/-- What happened on a walk besides declarations. -/
inductive Note where
  /-- A guard asked what the runtime has. -/
  | asked
  /-- A guard on the given line was passed over. -/
  | passedOver (line : Nat)
  deriving DecidableEq

/-- The state of a walk. -/
structure State where
  /-- The comment of the group that is open. -/
  group : Option String
  /-- The depths of the guards that are open, the innermost first. -/
  guards : List Nat
  symbols : SymbolTable
  notes : List Note

def State.start : State := ⟨none, [], .empty, []⟩

/-- The group that is open after a comment. -/
def groupAfter (group : Option String) (comment : String) : Option String :=
  if (Text.dropStart? "/**#@+".toList comment.toList).isSome then some comment
  else if (Text.dropStart? "/**#@-".toList comment.toList).isSome then none
  else group

/-- The lifespan of a node: that of its group if it has one, else that of its doc comment. -/
def lifespan? (source : List Char) (group : Option String) (c : Cursor)
    (up : List Cursor := c.ancestors) : Option Lifespan :=
  match group.bind Lifespan.ofDoc? with
  | some a => some a
  | none => (c.nearestDoc? source up).bind Lifespan.ofDoc?

variable (confirms : Capability → String → Bool) (source : List Char)

/-- Opens a group or a guard. -/
def openScopes (c : Cursor) (s : State) : State :=
  match c.node.construct with
  | .comment => { s with group := groupAfter s.group (c.node.text source) }
  | .ifStatement =>
    match guarded? source c.node with
    | none => s
    | some (capability, name) =>
      if confirms capability name then
        { s with
          guards := c.depth :: s.guards
          notes := s.notes ++ [.asked, .passedOver (c.node.line source)] }
      else { s with notes := s.notes ++ [.asked] }
  | _ => s

/-- Records the symbol of a node outside all guards. -/
def record (c : Cursor) (s : State) (up : List Cursor := c.ancestors) : State :=
  if s.guards.isEmpty then
    match symbol? source c up with
    | none => s
    | some symbol =>
      match lifespan? source s.group c up with
      | none => s
      | some a => { s with symbols := s.symbols.insert symbol a }
  else s

def enter (c : Cursor) (s : State) (up : List Cursor := c.ancestors) : State :=
  record source c (openScopes confirms source c s) up

/-- Closes the guard that a node has opened. -/
def leave (c : Cursor) (s : State) : State :=
  if c.node.construct = .ifStatement ∧ s.guards.head? = some c.depth then
    { s with guards := s.guards.tail }
  else s

/-- The declarations of a tree, and the notes of the walk through it.  The places above a node are
found by the parent map of the tree. -/
def collect (root : Node) : State :=
  let parents := ParentMap.ofTree root
  Cursor.walk ⟨fun c s => enter confirms source c s (parents.ancestors c), leave⟩ root .start

end Declaration

end RequiredVersion
