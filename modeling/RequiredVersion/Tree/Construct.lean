import RequiredVersion.Text.Blank
import RequiredVersion.Tree.Node

/-! # PHP constructs

The kinds of nodes that matter here, and what can be read off one node: names, string literals
without interpolation, arguments of calls, names of declarations. -/

namespace RequiredVersion

/-- The constructs that this library looks at. -/
inductive Construct where
  | comment
  | functionDefinition
  | classDeclaration
  | methodDeclaration
  | constElement
  | ifStatement
  | functionCall
  | objectCreation
  | memberCall
  | scopedCall
  | classConstantAccess
  | name
  | qualifiedName
  | other
  deriving DecidableEq

def Construct.ofKind (kind : String) : Construct :=
  if kind = "comment" then .comment
  else if kind = "function_definition" then .functionDefinition
  else if kind = "class_declaration" then .classDeclaration
  else if kind = "method_declaration" then .methodDeclaration
  else if kind = "const_element" then .constElement
  else if kind = "if_statement" then .ifStatement
  else if kind = "function_call_expression" then .functionCall
  else if kind = "object_creation_expression" then .objectCreation
  else if kind = "member_call_expression" ∨ kind = "nullsafe_member_call_expression" then
    .memberCall
  else if kind = "scoped_call_expression" then .scopedCall
  else if kind = "class_constant_access_expression" then .classConstantAccess
  else if kind = "name" then .name
  else if kind = "qualified_name" then .qualifiedName
  else .other

namespace Node

def construct (n : Node) : Construct := Construct.ofKind n.kind

/-! ### Names -/

/-- A name that is known without running the program: a plain or qualified name, without leading
namespace separators. -/
def staticName? (source : List Char) (n : Node) : Option String :=
  match n.construct with
  | .name | .qualifiedName => some (String.ofList ((n.chars source).dropWhile (· == '\\')))
  | _ => none

/-- The name that a declaration introduces. -/
def declaredName? (source : List Char) (n : Node) : Option String :=
  (n.childByField? "name").map (·.text source)

/-! ### String literals -/

/-- Replaces every occurrence of `a` followed by `b`, from left to right. -/
def replacePair (a b by_ : Char) : List Char → List Char
  | [] => []
  | [x] => [x]
  | x :: y :: rest =>
    if x = a ∧ y = b then by_ :: replacePair a b by_ rest
    else x :: replacePair a b by_ (y :: rest)

/-- What stands between two quotes. -/
def between? (quote : Char) : List Char → Option (List Char)
  | [] => none
  | q :: rest =>
    if q = quote ∧ rest.getLast? = some quote then some rest.dropLast else none

/-- Takes the backslash off a quote, then off a backslash. -/
def unescape (quote : Char) (inner : List Char) : List Char :=
  replacePair '\\' '\\' '\\' (replacePair '\\' quote quote inner)

/-- The text of a node without the mark of a binary string. -/
def dropBinaryMark : List Char → List Char
  | 'b' :: rest => rest
  | cs => cs

/-- The kinds of children that a double-quoted literal without interpolation has. -/
def isLiteralPart (kind : String) : Bool :=
  kind == "string_content" || kind == "string_value" || kind == "escape_sequence"

/-- The value of a string literal without interpolation. -/
def stringLiteral? (source : List Char) (n : Node) : Option String :=
  if n.kind = "string" then
    (between? '\'' (dropBinaryMark (n.chars source))).map
      (fun inner => String.ofList (unescape '\'' inner))
  else if n.kind = "encapsed_string" then
    if n.namedChildren.all (fun c => isLiteralPart c.kind) then
      (between? '"' (n.chars source)).map (fun inner => String.ofList (unescape '"' inner))
    else none
  else none

/-! ### Calls -/

/-- The argument expressions of a call.  The expression comes last in an argument, after a label
if it has one. -/
def callArguments (call : Node) : List Node :=
  match call.childByField? "arguments" with
  | none => []
  | some list =>
    (list.namedChildren.filter (fun a => a.kind == "argument")).filterMap Node.lastNamed?

/-- The first argument of a call, if it is a string literal. -/
def firstString? (source : List Char) (call : Node) : Option String :=
  call.callArguments.head?.bind (·.stringLiteral? source)

/-- The name of the function that a call names. -/
def callee? (source : List Char) (call : Node) : Option String :=
  (call.childByField? "function").bind (·.staticName? source)

end Node

end RequiredVersion
