import RequiredVersion.SortedMap
import RequiredVersion.Tree.Cursor

/-! # Parent maps

A cursor carries its way up; an id of a node does not.  A parent map has the place of the parent under
the id of every node below the root, and so the way up from a node is found by following its links.

The map of a tree is made with a stack of places whose children are not linked yet: it starts with the
root, and the children of a place go on the stack when they are linked. -/

namespace RequiredVersion

namespace Node

theorem sizes_append : ∀ ms ns : List Node, sizes (ms ++ ns) = sizes ms + sizes ns
  | [], ns => by rw [List.nil_append, sizes, Nat.zero_add]
  | m :: ms, ns => by rw [List.cons_append, sizes, sizes, sizes_append ms ns, Nat.add_assoc]

theorem sizes_reverse : ∀ ns : List Node, sizes ns.reverse = sizes ns
  | [] => rfl
  | n :: ns => by
      rw [List.reverse_cons, sizes_append, sizes_reverse ns, sizes, sizes, sizes, Nat.add_zero,
        Nat.add_comm]

end Node

namespace Cursor

/-! ### Children -/

/-- The places of some siblings. -/
def childrenAmong (parent : Node) (up : List Frame) : List Node → List Node → List Cursor
  | _, [] => []
  | before, n :: rest =>
    ⟨n, ⟨parent, before, rest⟩ :: up⟩ :: childrenAmong parent up (n :: before) rest

/-- The places of the children, in order. -/
def children (c : Cursor) : List Cursor := childrenAmong c.node c.above [] c.node.children

theorem map_node_childrenAmong (parent : Node) (up : List Frame) : ∀ before ns : List Node,
    (childrenAmong parent up before ns).map (·.node) = ns
  | _, [] => rfl
  | before, n :: rest => by
      rw [childrenAmong, List.map_cons, map_node_childrenAmong parent up (n :: before) rest]

theorem map_node_children (c : Cursor) : c.children.map (·.node) = c.node.children :=
  map_node_childrenAmong c.node c.above [] c.node.children

/-! ### Numbers -/

/-- The number of nodes before those below some frames, in pre-order. -/
def numberOf : List Frame → Nat
  | [] => 0
  | f :: up => numberOf up + 1 + Node.sizes f.before

/-- The number of a node in pre-order, from zero on. -/
def number (c : Cursor) : Nat := numberOf c.above

end Cursor

/-- The places of parents, under the ids of their children. -/
structure ParentMap where
  idOf : Cursor → Nat
  links : SortedMap Nat Cursor

namespace ParentMap

/-! ### Making a map -/

variable (idOf : Cursor → Nat)

/-- Links the children of a place to it. -/
def linkChildren (c : Cursor) (links : SortedMap Nat Cursor) : SortedMap Nat Cursor :=
  c.children.foldl (fun m child => m.insert (idOf child) c) links

theorem sizes_stack_lt (c : Cursor) (stack : List Cursor) :
    Node.sizes ((c.children.reverse ++ stack).map (·.node)) <
      Node.sizes ((c :: stack).map (·.node)) := by
  have hsize : c.node.size = 1 + Node.sizes c.node.children := by
    cases c.node
    rw [Node.size]
  rw [List.map_append, List.map_reverse, Cursor.map_node_children, Node.sizes_append,
    Node.sizes_reverse, List.map_cons, Node.sizes, hsize]
  omega

/-- Links all that is below the places of a stack, the top of which comes first. -/
def linkBelow (links : SortedMap Nat Cursor) : List Cursor → SortedMap Nat Cursor
  | [] => links
  | c :: stack => linkBelow (linkChildren idOf c links) (c.children.reverse ++ stack)
termination_by stack => Node.sizes (stack.map (·.node))
decreasing_by exact sizes_stack_lt c stack

/-- The parent map of a tree whose nodes have the given ids. -/
def build (root : Node) : ParentMap := ⟨idOf, linkBelow idOf .empty [.ofRoot root]⟩

/-- The parent map of a tree by the numbers of its nodes. -/
def ofTree (root : Node) : ParentMap := build Cursor.number root

/-! ### Following links -/

/-- The place of the parent. -/
def parent? (m : ParentMap) (c : Cursor) : Option Cursor := m.links.get? (m.idOf c)

/-- Follows links upwards from a place, at most as many as given. -/
def climb (m : ParentMap) : Nat → Cursor → List Cursor
  | 0, _ => []
  | steps + 1, c =>
    match m.parent? c with
    | none => []
    | some p => p :: climb m steps p

/-- The places from the parent up to the root.  A way up takes each link at most once. -/
def ancestors (m : ParentMap) (c : Cursor) : List Cursor := m.climb m.links.size c

end ParentMap

end RequiredVersion
