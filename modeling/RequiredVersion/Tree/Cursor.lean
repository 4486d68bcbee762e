import RequiredVersion.Tree.Node

/-! # Cursors

A cursor is a place in a tree: the node there and, level by level up to the root, its parent with
the siblings before and after.  It moves to the first child, the next sibling and the parent.

`Cursor.walk` visits a whole tree by these three moves: it enters each node before its children
and leaves it after them. -/

namespace RequiredVersion

/-- One level above a node: its parent, the siblings before it from the nearest on, and the
siblings after it. -/
structure Frame where
  parent : Node
  before : List Node
  after : List Node

/-- A place in a tree. -/
structure Cursor where
  node : Node
  above : List Frame

namespace Cursor

def ofRoot (root : Node) : Cursor := ⟨root, []⟩

/-! ### Moves -/

def firstChild? (c : Cursor) : Option Cursor :=
  match c.node.children with
  | [] => none
  | n :: rest => some ⟨n, ⟨c.node, [], rest⟩ :: c.above⟩

def nextSibling? (c : Cursor) : Option Cursor :=
  match c.above with
  | ⟨parent, before, n :: rest⟩ :: up => some ⟨n, ⟨parent, c.node :: before, rest⟩ :: up⟩
  | _ => none

def parent? (c : Cursor) : Option Cursor :=
  match c.above with
  | [] => none
  | f :: up => some ⟨f.parent, up⟩

/-! ### Surroundings -/

/-- The places above a list of frames. -/
def ancestorsOf : List Frame → List Cursor
  | [] => []
  | f :: up => ⟨f.parent, up⟩ :: ancestorsOf up

/-- The places from the parent up to the root. -/
def ancestors (c : Cursor) : List Cursor := ancestorsOf c.above

/-- The siblings before the node, from the nearest on. -/
def before (c : Cursor) : List Node :=
  match c.above with
  | [] => []
  | f :: _ => f.before

/-- Is the node the one that its parent has in a field?  Of two children with the field the first
one is. -/
def fills (c : Cursor) (field : String) : Bool :=
  !c.above.isEmpty && c.node.field == field && c.before.all (fun n => n.field != field)

/-- Is the node the first named child of its parent? -/
def isFirstNamed (c : Cursor) : Bool :=
  !c.above.isEmpty && c.node.named && c.before.all (fun n => !n.named)

def depth (c : Cursor) : Nat := c.above.length

/-! ### Walks -/

/-- What a walk does to a state on entering and on leaving a node. -/
structure Visitor (σ : Type) where
  enter : Cursor → σ → σ
  leave : Cursor → σ → σ

/-- Is a node about to be entered, or to be left? -/
inductive Phase where
  | entering
  | leaving

/-- Walks on from a place for a number of visits. -/
def walkFrom {σ : Type} (v : Visitor σ) : Nat → Phase → Cursor → σ → σ
  | 0, _, _, s => s
  | fuel + 1, .entering, c, s =>
    let s := v.enter c s
    match c.firstChild? with
    | some child => walkFrom v fuel .entering child s
    | none => walkFrom v fuel .leaving c s
  | fuel + 1, .leaving, c, s =>
    let s := v.leave c s
    match c.nextSibling? with
    | some sibling => walkFrom v fuel .entering sibling s
    | none =>
      match c.parent? with
      | some parent => walkFrom v fuel .leaving parent s
      | none => s

/-- Walks through a whole tree.  Every node is entered once and left once, so there are twice as
many visits as nodes. -/
def walk {σ : Type} (v : Visitor σ) (root : Node) (s : σ) : σ :=
  walkFrom v (2 * root.size) .entering (ofRoot root) s

end Cursor

end RequiredVersion
