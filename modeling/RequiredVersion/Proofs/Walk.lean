import RequiredVersion.Tree.Cursor

/-! # Walks and the shape of trees

`Cursor.visits` lists what a walk should do, by recursion on the tree: a node is entered, its
children are visited in order, and it is left.  The walk by cursor moves does exactly that
(`Cursor.walk_eq_foldl_visits`), with fuel to spare for none of it.

The places that are entered are those of the tree in pre-order, `Cursor.places`.  A walk whose
visitor is `traced` keeps for each of them the state that it had right after entering it. -/

namespace RequiredVersion

/-- Induction on trees: what holds of a node if it holds of its children holds of every node. -/
theorem Node.induction {P : Node → Prop} (step : ∀ n, (∀ c ∈ n.children, P c) → P n) :
    ∀ n, P n
  | ⟨kind, named, field, start, stop, children⟩ =>
    step ⟨kind, named, field, start, stop, children⟩ (fun c _ => Node.induction step c)

namespace Cursor

/-! ### Traversal by recursion -/

mutual
/-- What happens to the nodes of a tree below the given frames. -/
def visits : Node → List Frame → List (Phase × Cursor)
  | ⟨kind, named, field, start, stop, children⟩, above =>
    (.entering, ⟨⟨kind, named, field, start, stop, children⟩, above⟩) ::
      (visitsAmong ⟨kind, named, field, start, stop, children⟩ [] children above ++
        [(.leaving, ⟨⟨kind, named, field, start, stop, children⟩, above⟩)])

/-- What happens to some siblings and the nodes below them. -/
def visitsAmong (parent : Node) : List Node → List Node → List Frame → List (Phase × Cursor)
  | _, [], _ => []
  | before, n :: rest, up =>
    visits n (⟨parent, before, rest⟩ :: up) ++ visitsAmong parent (n :: before) rest up
end

mutual
/-- The places of a tree below the given frames, in pre-order. -/
def placesFrom : Node → List Frame → List Cursor
  | ⟨kind, named, field, start, stop, children⟩, above =>
    ⟨⟨kind, named, field, start, stop, children⟩, above⟩ ::
      placesAmong ⟨kind, named, field, start, stop, children⟩ [] children above

def placesAmong (parent : Node) : List Node → List Node → List Frame → List Cursor
  | _, [], _ => []
  | before, n :: rest, up =>
    placesFrom n (⟨parent, before, rest⟩ :: up) ++ placesAmong parent (n :: before) rest up
end

/-- The places of a tree in pre-order. -/
def places (root : Node) : List Cursor := placesFrom root []

theorem visits_eq (n : Node) (above : List Frame) :
    visits n above = (.entering, ⟨n, above⟩) ::
      (visitsAmong n [] n.children above ++ [(.leaving, ⟨n, above⟩)]) := by
  cases n
  rw [visits]

theorem placesFrom_eq (n : Node) (above : List Frame) :
    placesFrom n above = ⟨n, above⟩ :: placesAmong n [] n.children above := by
  cases n
  rw [placesFrom]

theorem length_ancestors (c : Cursor) : c.ancestors.length = c.depth := by
  have h : ∀ fs : List Frame, (ancestorsOf fs).length = fs.length := by
    intro fs
    induction fs with
    | nil => rfl
    | cons f up ih => rw [ancestorsOf, List.length_cons, List.length_cons, ih]
  exact h c.above

/-! ### The walk by moves -/

variable {σ : Type}

/-- What a visitor does on one visit. -/
def Visitor.visit (v : Visitor σ) (s : σ) : Phase × Cursor → σ
  | (.entering, c) => v.enter c s
  | (.leaving, c) => v.leave c s

theorem size_eq (n : Node) : n.size = 1 + Node.sizes n.children := by
  cases n
  rw [Node.size]

/-- From entering `n`, the walk gets to leaving it, with the visits before that done. -/
def Reaches (v : Visitor σ) (n : Node) : Prop :=
  ∀ (above : List Frame) (fuel : Nat) (s : σ),
    walkFrom v (1 + 2 * Node.sizes n.children + fuel) .entering ⟨n, above⟩ s =
      walkFrom v fuel .leaving ⟨n, above⟩
        (((.entering, ⟨n, above⟩) :: visitsAmong n [] n.children above).foldl v.visit s)

/-- From entering the first of some siblings, the walk gets to leaving their parent. -/
theorem walkFrom_among (v : Visitor σ) (parent : Node) (up : List Frame) (fuel : Nat) :
    ∀ (rest : List Node) (n : Node) (before : List Node) (s : σ), (∀ m ∈ n :: rest, Reaches v m) →
      walkFrom v (2 * Node.sizes (n :: rest) + fuel) .entering ⟨n, ⟨parent, before, rest⟩ :: up⟩ s =
        walkFrom v fuel .leaving ⟨parent, up⟩
          ((visitsAmong parent before (n :: rest) up).foldl v.visit s)
  | [], n, before, s, h => by
      have hn := h n List.mem_cons_self (⟨parent, before, []⟩ :: up) (fuel + 1) s
      rw [Node.sizes, Node.sizes, size_eq, show 2 * (1 + Node.sizes n.children + 0) + fuel =
        1 + 2 * Node.sizes n.children + (fuel + 1) by omega, hn, walkFrom, visitsAmong, visits_eq,
        visitsAmong, List.append_nil, ← List.cons_append, List.foldl_append]
      rfl
  | m :: rest, n, before, s, h => by
      have hn := h n List.mem_cons_self (⟨parent, before, m :: rest⟩ :: up)
        (2 * Node.sizes (m :: rest) + fuel + 1) s
      have ih := walkFrom_among v parent up fuel rest m (n :: before)
        ((visits n (⟨parent, before, m :: rest⟩ :: up)).foldl v.visit s)
        (fun c hc => h c (List.mem_cons_of_mem _ hc))
      rw [Node.sizes, size_eq, show 2 * (1 + Node.sizes n.children + Node.sizes (m :: rest)) + fuel =
        1 + 2 * Node.sizes n.children + (2 * Node.sizes (m :: rest) + fuel + 1) by omega, hn, walkFrom,
        visitsAmong, List.foldl_append, ← ih, visits_eq, ← List.cons_append, List.foldl_append]
      rfl

theorem reaches (v : Visitor σ) (n : Node) : Reaches v n := by
  induction n using Node.induction with
  | step n ih =>
      intro above fuel s
      cases hc : n.children with
      | nil =>
          rw [Node.sizes, show 1 + 2 * 0 + fuel = fuel + 1 by omega, walkFrom, firstChild?, hc]
          rfl
      | cons child rest =>
          have hamong := walkFrom_among v n above fuel rest child [] (v.enter ⟨n, above⟩ s)
            (fun m hm => ih m (hc ▸ hm))
          rw [show 1 + 2 * Node.sizes (child :: rest) + fuel =
            2 * Node.sizes (child :: rest) + fuel + 1 by omega, walkFrom, firstChild?, hc]
          exact hamong

/-- The walk by moves is the traversal by recursion. -/
theorem walk_eq_foldl_visits (v : Visitor σ) (root : Node) (s : σ) :
    walk v root s = (visits root []).foldl v.visit s := by
  have h := reaches v root [] 1 s
  rw [walk, ofRoot, size_eq, show 2 * (1 + Node.sizes root.children) =
    1 + 2 * Node.sizes root.children + 1 by omega, h, walkFrom, visits_eq, ← List.cons_append,
    List.foldl_append]
  rfl

/-- What every visit keeps, the walk keeps. -/
theorem walk_induction {P : σ → Prop} {v : Visitor σ} (henter : ∀ c s, P s → P (v.enter c s))
    (hleave : ∀ c s, P s → P (v.leave c s)) (root : Node) {s : σ} (hs : P s) :
    P (walk v root s) := by
  rw [walk_eq_foldl_visits]
  generalize visits root [] = xs
  induction xs generalizing s with
  | nil => exact hs
  | cons x xs ih =>
      refine ih ?_
      obtain ⟨_ | _, c⟩ := x
      · exact henter c s hs
      · exact hleave c s hs

/-! ### Traces -/

/-- The visitor that also keeps, for every place it enters, the state right after that. -/
def Visitor.traced (v : Visitor σ) : Visitor (σ × List (Cursor × σ)) where
  enter c t := (v.enter c t.1, t.2 ++ [(c, v.enter c t.1)])
  leave c t := (v.leave c t.1, t.2)

theorem foldl_traced_fst (v : Visitor σ) : ∀ (xs : List (Phase × Cursor))
    (t : σ × List (Cursor × σ)), (xs.foldl v.traced.visit t).1 = xs.foldl v.visit t.1
  | [], _ => rfl
  | (.entering, _) :: xs, _ => foldl_traced_fst v xs _
  | (.leaving, _) :: xs, _ => foldl_traced_fst v xs _

/-- The places that are entered on some visits. -/
def entered (xs : List (Phase × Cursor)) : List Cursor :=
  xs.filterMap (fun
    | (.entering, c) => some c
    | (.leaving, _) => none)

theorem entered_append (xs ys : List (Phase × Cursor)) :
    entered (xs ++ ys) = entered xs ++ entered ys := List.filterMap_append

theorem entered_visitsAmong (parent : Node) (up : List Frame) :
    ∀ (ns before : List Node),
      (∀ n ∈ ns, ∀ above, entered (visits n above) = placesFrom n above) →
        entered (visitsAmong parent before ns up) = placesAmong parent before ns up
  | [], before, _ => by rw [visitsAmong, placesAmong]; rfl
  | n :: rest, before, h => by
      rw [visitsAmong, placesAmong, entered_append, h n List.mem_cons_self,
        entered_visitsAmong parent up rest (n :: before)
          (fun m hm => h m (List.mem_cons_of_mem _ hm))]

theorem entered_visits (n : Node) : ∀ above, entered (visits n above) = placesFrom n above := by
  induction n using Node.induction with
  | step n ih =>
      intro above
      rw [visits_eq, placesFrom_eq, ← entered_visitsAmong n above n.children [] ih, ← List.cons_append,
        entered_append]
      simp [entered]

theorem walk_traced_fst (v : Visitor σ) (root : Node) (s : σ) :
    (walk v.traced root (s, [])).1 = walk v root s := by
  rw [walk_eq_foldl_visits, walk_eq_foldl_visits, foldl_traced_fst]

end Cursor

end RequiredVersion
