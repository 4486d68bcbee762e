import RequiredVersion.Tree.Construct
import RequiredVersion.Tree.Cursor

/-! # Constructs in context

What a node's surroundings say about it: the doc comment that belongs to it, the type that a
member is declared in, and whether a name is read as a constant.

The places above a node may be given.  A cursor that carries its way up needs none. -/

namespace RequiredVersion.Cursor

/-! ### Doc comments -/

/-- Statements and declarations, which carry doc comments. -/
def isStatementKind (kind : String) : Bool :=
  kind.endsWith "_statement" || kind.endsWith "_declaration" || kind == "function_definition"

/-- Does a comment document what follows it? -/
def isDocComment (comment : List Char) : Bool := (Text.dropStart? ['/', '*', '*'] comment).isSome

/-- The nearest doc comment in a run of comments, read backwards. -/
def docAmong (source : List Char) : List Node → Option String
  | [] => none
  | n :: rest =>
    if n.kind = "comment" then
      if isDocComment (n.chars source) then some (n.text source) else docAmong source rest
    else none

/-- The doc comment right before a node; other comments may stand between. -/
def ownDoc? (source : List Char) (c : Cursor) : Option String := docAmong source c.before

/-- The first doc comment on the way up, as far as the nearest statement. -/
def docAbove (source : List Char) : List Cursor → Option String
  | [] => none
  | c :: up =>
    match c.ownDoc? source with
    | some doc => some doc
    | none => if isStatementKind c.node.kind then none else docAbove source up

/-- The doc comment of a node, or that of the statement it is part of. -/
def nearestDoc? (source : List Char) (c : Cursor) (up : List Cursor := c.ancestors) :
    Option String :=
  docAbove source (c :: up)

/-! ### Types -/

/-- Declarations of named types. -/
def isTypeDeclaration (kind : String) : Bool :=
  kind == "class_declaration" || kind == "interface_declaration" || kind == "trait_declaration" ||
    kind == "enum_declaration"

/-- The kinds that bound the search for the type of a member. -/
def isScope (kind : String) : Bool :=
  isTypeDeclaration kind || kind == "anonymous_class" || kind == "object_creation_expression" ||
    kind == "function_definition" || kind == "method_declaration"

/-- The name of the type that a member is declared in, if the innermost scope around it is a named
type. -/
def enclosingType? (source : List Char) (c : Cursor) (up : List Cursor := c.ancestors) :
    Option String :=
  match up.find? (fun a => isScope a.node.kind) with
  | some a => if isTypeDeclaration a.node.kind then a.node.declaredName? source else none
  | none => none

/-- Is a constant declared in the body of a type? -/
def isMemberConstant (c : Cursor) (up : List Cursor := c.ancestors) : Bool :=
  match up with
  | _ :: body :: _ =>
    body.node.kind == "declaration_list" || body.node.kind == "enum_declaration_list"
  | _ => false

/-! ### Constants -/

/-- The kinds of parents in which a bare name is the value of a constant. -/
def valueContexts : List String :=
  ["argument", "array_element_initializer", "assignment_expression",
   "augmented_assignment_expression", "binary_expression", "case_statement", "cast_expression",
   "conditional_expression", "echo_statement", "expression_statement", "match_condition_list",
   "parenthesized_expression", "print_intrinsic", "return_statement", "sequence_expression",
   "subscript_expression", "unary_op_expression"]

/-- Is a name read as a constant?  The label of an argument and the declared name of a constant
are not; a parameter or property reads only its default value. -/
def isConstantFetch (c : Cursor) (parent : Option Cursor := c.parent?) : Bool :=
  match parent with
  | none => false
  | some p =>
    let kind := p.node.kind
    if kind = "argument" then !c.fills "name"
    else if valueContexts.contains kind then true
    else if kind = "const_element" then !c.isFirstNamed
    else if kind = "simple_parameter" ∨ kind = "property_element" then c.fills "default_value"
    else false

end RequiredVersion.Cursor
