/-! # Syntax trees

A node of a concrete syntax tree: its kind, whether it is named (tokens such as `;` are not), the
field it fills in its parent, its span in the source in bytes of UTF-8, and its children in
order.

`Node.ofPreorder?` builds a tree from the listing of its nodes in pre-order.  As spans count bytes, the
text of a node is cut out of the source by the sizes of the characters. -/

namespace RequiredVersion

namespace Text

/-- The characters that start within the first `n` bytes. -/
def takeBytes : Nat → List Char → List Char
  | _, [] => []
  | n, c :: cs => if n = 0 then [] else c :: takeBytes (n - c.utf8Size) cs

/-- The characters that start after the first `n` bytes. -/
def dropBytes : Nat → List Char → List Char
  | _, [] => []
  | n, c :: cs => if n = 0 then c :: cs else dropBytes (n - c.utf8Size) cs

end Text

/-- A node of a syntax tree. -/
structure Node where
  kind : String
  named : Bool
  /-- The field that the node fills in its parent, empty for none. -/
  field : String
  start : Nat
  stop : Nat
  children : List Node
  deriving Inhabited

namespace Node

mutual
/-- The number of nodes of a tree. -/
def size : Node → Nat
  | ⟨_, _, _, _, _, children⟩ => 1 + sizes children

def sizes : List Node → Nat
  | [] => 0
  | n :: ns => n.size + sizes ns
end

/-! ### Children -/

/-- The first child that fills a field. -/
def childByField? (n : Node) (field : String) : Option Node :=
  n.children.find? (fun c => c.field == field)

def namedChildren (n : Node) : List Node := n.children.filter (·.named)

def firstNamed? (n : Node) : Option Node := n.namedChildren.head?

def lastNamed? (n : Node) : Option Node := n.namedChildren.getLast?

/-! ### Pre-order listings -/

/-- A node of a listing: its depth, and the node without its children. -/
structure Row where
  depth : Nat
  kind : String
  named : Bool
  field : String
  start : Nat
  stop : Nat

/-- Puts a row before the trees listed after it: the deeper ones right behind it are its
children. -/
def addRow (row : Row) (trees : List (Nat × Node)) : List (Nat × Node) :=
  let deeper := trees.takeWhile (fun t => row.depth < t.1)
  let node : Node := ⟨row.kind, row.named, row.field, row.start, row.stop, deeper.map (·.2)⟩
  (row.depth, node) :: trees.dropWhile (fun t => row.depth < t.1)

/-- The tree that a listing in pre-order describes, if it describes exactly one. -/
def ofPreorder? (rows : List Row) : Option Node :=
  match rows.foldr addRow [] with
  | [(_, root)] => some root
  | _ => none

/-! ### Texts -/

/-- The characters of a node. -/
def chars (source : List Char) (n : Node) : List Char :=
  Text.takeBytes (n.stop - n.start) (Text.dropBytes n.start source)

def text (source : List Char) (n : Node) : String := String.ofList (n.chars source)

/-- The line of a node's first byte, counted from one. -/
def line (source : List Char) (n : Node) : Nat :=
  1 + (Text.takeBytes n.start source).count '\n'

end Node

end RequiredVersion
