import Mathlib.Data.List.Basic
import RequiredVersion.Proofs.Walk

/-! # The walk visits every node twice, in order

A walk is a loop: after each visit it tries the moves of the cursor in turn and ends where none is
left (`Cursor.next?`).  Every move leaves one visit less to do (`Cursor.remaining_of_next?`), so the
loop ends from every place of every tree, and the fuel of `Cursor.walkFrom` only cuts its visits off
(`Cursor.Loops.walkFrom_eq`).

Two nodes of a tree may be equal, so a node is told by its address: the numbers of the children on the
way down to it.  Each address of a tree is entered once and left once (`Cursor.visitCount_visits`), and
what lies between the two visits is the traversal of the nodes below it
(`Cursor.eq_visitsAmong_of_between`). -/

namespace RequiredVersion

/-! ### Addresses -/

/-- The node below `n` at an address: from each node to the child with the next number. -/
def Node.at? (n : Node) : List Nat → Option Node
  | [] => some n
  | i :: path => n.children[i]?.bind (fun child => child.at? path)

theorem Node.at?_append (n : Node) : ∀ (path more : List Nat),
    n.at? (path ++ more) = (n.at? path).bind (fun m => m.at? more)
  | [], more => rfl
  | i :: path, more => by
      rw [List.cons_append, at?, at?, Option.bind_assoc]
      congr 1
      funext child
      exact at?_append child path more

namespace Cursor

/-- The numbers of the children on the way down through some frames. -/
def addressOf : List Frame → List Nat
  | [] => []
  | f :: up => addressOf up ++ [f.before.length]

/-- The address of a place. -/
def address (c : Cursor) : List Nat := addressOf c.above

/-! ### The loop -/

/-- The visit that comes after another one: to the first child or else back to the node itself, from
there to the next sibling or else to the parent.  There is none after leaving the root. -/
def next? : Phase × Cursor → Option (Phase × Cursor)
  | (.entering, c) =>
    match c.firstChild? with
    | some child => some (.entering, child)
    | none => some (.leaving, c)
  | (.leaving, c) =>
    match c.nextSibling? with
    | some sibling => some (.entering, sibling)
    | none => c.parent?.map (fun parent => (.leaving, parent))

/-- The loop from a visit on: it goes through the given visits and ends. -/
inductive Loops : Phase × Cursor → List (Phase × Cursor) → Prop where
  | stop {x : Phase × Cursor} (hx : next? x = none) : Loops x [x]
  | go {x y : Phase × Cursor} {ys : List (Phase × Cursor)} (hx : next? x = some y) (hys : Loops y ys) :
      Loops x (x :: ys)

/-- The visits that are left when a node below some frames has been left. -/
def pending : List Frame → Nat
  | [] => 0
  | f :: up => 2 * Node.sizes f.after + 1 + pending up

/-- The visits that are left, with the one that is due. -/
def remaining : Phase × Cursor → Nat
  | (.entering, c) => 2 * c.node.size + pending c.above
  | (.leaving, c) => 1 + pending c.above

/-- Each move leaves one visit less. -/
theorem remaining_of_next? {x y : Phase × Cursor} (h : next? x = some y) :
    remaining x = remaining y + 1 := by
  obtain ⟨phase, n, above⟩ := x
  cases phase with
  | entering =>
      unfold next? firstChild? at h
      cases hchildren : n.children with
      | nil =>
          simp only [hchildren] at h
          cases h
          simp only [remaining, size_eq, hchildren, Node.sizes]
          omega
      | cons child rest =>
          simp only [hchildren] at h
          cases h
          simp only [remaining, size_eq n, hchildren, Node.sizes, pending]
          omega
  | leaving =>
      unfold next? nextSibling? parent? at h
      rcases above with _ | ⟨⟨parent, before, _ | ⟨sibling, rest⟩⟩, up⟩
      · cases h
      · cases h
        simp only [remaining, pending, Node.sizes]
        omega
      · cases h
        simp only [remaining, pending, Node.sizes]
        omega

theorem remaining_of_last {x : Phase × Cursor} (h : next? x = none) : remaining x = 1 := by
  obtain ⟨phase, n, above⟩ := x
  cases phase with
  | entering =>
      unfold next? firstChild? at h
      cases hchildren : n.children <;> simp [hchildren] at h
  | leaving =>
      unfold next? nextSibling? parent? at h
      rcases above with _ | ⟨⟨parent, before, _ | ⟨sibling, rest⟩⟩, up⟩
      · rfl
      · cases h
      · cases h

/-- The loop ends from every place. -/
theorem exists_loops (x : Phase × Cursor) : ∃ ys, Loops x ys := by
  generalize hn : remaining x = n
  induction n using Nat.strongRecOn generalizing x with
  | ind n ih =>
      cases hnext : next? x with
      | none => exact ⟨[x], .stop hnext⟩
      | some y =>
          have hy := remaining_of_next? hnext
          obtain ⟨ys, hys⟩ := ih (remaining y) (by omega) y rfl
          exact ⟨x :: ys, .go hnext hys⟩

variable {σ : Type}

theorem walkFrom_succ (v : Visitor σ) (fuel : Nat) (x : Phase × Cursor) (s : σ) :
    walkFrom v (fuel + 1) x.1 x.2 s =
      match next? x with
      | some y => walkFrom v fuel y.1 y.2 (v.visit s x)
      | none => v.visit s x := by
  obtain ⟨_ | _, c⟩ := x
  · simp only [walkFrom, next?]
    cases c.firstChild? <;> rfl
  · simp only [walkFrom, next?]
    cases c.nextSibling? with
    | some sibling => rfl
    | none => cases c.parent? <;> rfl

/-- Fuel bounds the visits of the loop and changes nothing else. -/
theorem Loops.walkFrom_eq {x : Phase × Cursor} {ys : List (Phase × Cursor)} (h : Loops x ys)
    (v : Visitor σ) (fuel : Nat) (s : σ) :
    walkFrom v fuel x.1 x.2 s = (ys.take fuel).foldl v.visit s := by
  induction h generalizing fuel s with
  | stop hx =>
      cases fuel with
      | zero => rfl
      | succ fuel => rw [walkFrom_succ, hx, List.take_succ_cons, List.take_nil]; rfl
  | go hx _ ih =>
      cases fuel with
      | zero => rfl
      | succ fuel => rw [walkFrom_succ, hx, List.take_succ_cons, List.foldl_cons, ← ih]

theorem Loops.length_eq {x : Phase × Cursor} {ys : List (Phase × Cursor)} (h : Loops x ys) :
    ys.length = remaining x := by
  induction h with
  | stop hx => rw [remaining_of_last hx, List.length_singleton]
  | go hx _ ih => rw [remaining_of_next? hx, List.length_cons, ih]

/-- The visitor that keeps the visits. -/
def recorder : Visitor (List (Phase × Cursor)) where
  enter c xs := xs ++ [(.entering, c)]
  leave c xs := xs ++ [(.leaving, c)]

theorem foldl_recorder : ∀ ys acc : List (Phase × Cursor), ys.foldl recorder.visit acc = acc ++ ys
  | [], acc => (List.append_nil acc).symm
  | y :: ys, acc => by
      have hvisit : recorder.visit acc y = acc ++ [y] := by
        obtain ⟨_ | _, c⟩ := y <;> rfl
      rw [List.foldl_cons, foldl_recorder ys, hvisit, List.append_assoc, List.singleton_append]

/-- **The loop ends, and its visits are those of the traversal by recursion.** -/
theorem loops_visits (root : Node) : Loops (.entering, ofRoot root) (visits root []) := by
  obtain ⟨ys, hys⟩ := exists_loops (.entering, ofRoot root)
  have hlength : ys.length = 2 * root.size := hys.length_eq
  have hwalk : walk recorder root [] = ys := by
    have htake := hys.walkFrom_eq recorder (2 * root.size) []
    rw [List.take_of_length_le (Nat.le_of_eq hlength), foldl_recorder] at htake
    exact htake
  rw [walk_eq_foldl_visits, foldl_recorder, List.nil_append] at hwalk
  rw [hwalk]
  exact hys

/-! ### Nesting -/

/-- Every node that is entered is left, and what is entered in between is left before. -/
inductive Balanced : List (Phase × Cursor) → Prop where
  | nil : Balanced []
  | around {c : Cursor} {xs ys : List (Phase × Cursor)} (hxs : Balanced xs) (hys : Balanced ys) :
      Balanced ((.entering, c) :: (xs ++ (.leaving, c) :: ys))

theorem Balanced.append {xs ys : List (Phase × Cursor)} (hxs : Balanced xs) (hys : Balanced ys) :
    Balanced (xs ++ ys) := by
  induction hxs with
  | nil => exact hys
  | around hinner _ _ ih =>
      rw [List.cons_append, List.append_assoc, List.cons_append]
      exact .around hinner ih

theorem balanced_visitsAmong (parent : Node) (up : List Frame) : ∀ ns before : List Node,
    (∀ n ∈ ns, ∀ above, Balanced (visits n above)) → Balanced (visitsAmong parent before ns up)
  | [], before, _ => by
      rw [visitsAmong]
      exact .nil
  | n :: rest, before, h => by
      obtain ⟨hn, hrest⟩ := List.forall_mem_cons.mp h
      rw [visitsAmong]
      exact (hn _).append (balanced_visitsAmong parent up rest (n :: before) hrest)

theorem balanced_visits (n : Node) : ∀ above, Balanced (visits n above) := by
  induction n using Node.induction with
  | step n ih =>
      intro above
      rw [visits_eq]
      exact .around (balanced_visitsAmong n above n.children [] ih) .nil

/-! ### Visits by address -/

deriving instance DecidableEq for Phase

/-- How often an address is entered, or left. -/
def visitCount (phase : Phase) (path : List Nat) (xs : List (Phase × Cursor)) : Nat :=
  xs.countP (fun x => decide (x.1 = phase ∧ x.2.address = path))

theorem visitCount_append (phase : Phase) (path : List Nat) (xs ys : List (Phase × Cursor)) :
    visitCount phase path (xs ++ ys) = visitCount phase path xs + visitCount phase path ys :=
  List.countP_append

theorem visitCount_cons (phase : Phase) (path : List Nat) (x : Phase × Cursor)
    (xs : List (Phase × Cursor)) : visitCount phase path (x :: xs) =
      visitCount phase path xs + if x.1 = phase ∧ x.2.address = path then 1 else 0 := by
  rw [visitCount, List.countP_cons]
  simp only [decide_eq_true_eq]
  rfl

theorem visitCount_eq_zero {phase : Phase} {path : List Nat} {xs : List (Phase × Cursor)}
    (h : ∀ x ∈ xs, x.2.address ≠ path) : visitCount phase path xs = 0 := by
  refine List.countP_eq_zero.mpr (fun x hx => ?_)
  simpa using fun _ => h x hx

/-- In balanced visits a node is left as often as it is entered. -/
theorem Balanced.visitCount_leaving {xs : List (Phase × Cursor)} (h : Balanced xs) (path : List Nat) :
    visitCount .leaving path xs = visitCount .entering path xs := by
  induction h with
  | nil => rfl
  | around _ _ ihx ihy =>
      simp only [visitCount_cons, visitCount_append, ihx, ihy, reduceCtorEq, false_and, if_false,
        true_and]
      omega

/-- A place stands below `n`, and has the node that is at its address. -/
def LiesBelow (n : Node) (above : List Frame) (c : Cursor) : Prop :=
  ∃ path, c.address = addressOf above ++ path ∧ n.at? path = some c.node

theorem liesBelow_among (parent : Node) (up : List Frame) : ∀ ns before : List Node,
    (∀ n ∈ ns, ∀ above, ∀ x ∈ visits n above, LiesBelow n above x.2) →
      ∀ x ∈ visitsAmong parent before ns up, ∃ j n path, ns[j]? = some n ∧
        x.2.address = addressOf up ++ (before.length + j) :: path ∧ n.at? path = some x.2.node
  | [], before, _, x, hx => by
      rw [visitsAmong] at hx
      cases hx
  | n :: rest, before, h, x, hx => by
      obtain ⟨hn, hrest⟩ := List.forall_mem_cons.mp h
      rw [visitsAmong, List.mem_append] at hx
      rcases hx with hx | hx
      · obtain ⟨path, haddress, hat⟩ := hn _ x hx
        rw [addressOf, List.append_assoc, List.singleton_append] at haddress
        exact ⟨0, n, path, rfl, haddress, hat⟩
      · obtain ⟨j, m, path, hm, haddress, hat⟩ :=
          liesBelow_among parent up rest (n :: before) hrest x hx
        rw [List.length_cons, Nat.add_assoc, Nat.add_comm 1 j] at haddress
        exact ⟨j + 1, m, path, hm, haddress, hat⟩

theorem liesBelow_of_mem_visits (n : Node) :
    ∀ above, ∀ x ∈ visits n above, LiesBelow n above x.2 := by
  induction n using Node.induction with
  | step n ih =>
      intro above x hx
      rw [visits_eq, List.mem_cons, List.mem_append, List.mem_singleton] at hx
      have hself : LiesBelow n above ⟨n, above⟩ := ⟨[], (List.append_nil _).symm, rfl⟩
      rcases hx with rfl | hx | rfl
      · exact hself
      · obtain ⟨j, m, path, hm, haddress, hat⟩ := liesBelow_among n above n.children [] ih x hx
        rw [List.length_nil, Nat.zero_add] at haddress
        refine ⟨j :: path, haddress, ?_⟩
        rw [Node.at?, hm, Option.bind_some, hat]
      · exact hself

/-- Below `n`, exactly the addresses that have a node are entered, each once. -/
def EntersOnce (n : Node) : Prop :=
  ∀ (above : List Frame) (path : List Nat),
    visitCount .entering (addressOf above ++ path) (visits n above) =
      if (n.at? path).isSome then 1 else 0

theorem visitCount_visitsAmong (parent : Node) (up : List Frame) (path : List Nat) :
    ∀ (ns before : List Node) (j : Nat), (∀ n ∈ ns, EntersOnce n) →
      visitCount .entering (addressOf up ++ (before.length + j) :: path)
          (visitsAmong parent before ns up) =
        if (ns[j]?.bind (fun n => n.at? path)).isSome then 1 else 0
  | [], before, j, _ => by
      rw [visitsAmong]
      rfl
  | n :: rest, before, 0, h => by
      -- the siblings behind the first have greater numbers
      have hothers : visitCount .entering (addressOf up ++ (before.length + 0) :: path)
          (visitsAmong parent (n :: before) rest up) = 0 := by
        refine visitCount_eq_zero (fun x hx haddress => ?_)
        obtain ⟨j, m, more, _, hx, _⟩ := liesBelow_among parent up rest (n :: before)
          (fun m _ => liesBelow_of_mem_visits m) x hx
        rw [hx] at haddress
        have hnumber := (List.cons.inj (List.append_cancel_left haddress)).1
        rw [List.length_cons] at hnumber
        omega
      have hfirst := h n List.mem_cons_self (⟨parent, before, rest⟩ :: up) path
      rw [addressOf, List.append_assoc, List.singleton_append] at hfirst
      rw [visitsAmong, visitCount_append, hothers, Nat.add_zero, Nat.add_zero, hfirst]
      rfl
  | n :: rest, before, j + 1, h => by
      have hfirst : visitCount .entering (addressOf up ++ (before.length + (j + 1)) :: path)
          (visits n (⟨parent, before, rest⟩ :: up)) = 0 := by
        refine visitCount_eq_zero (fun x hx haddress => ?_)
        obtain ⟨more, hx, _⟩ := liesBelow_of_mem_visits n _ x hx
        rw [hx, addressOf, List.append_assoc, List.singleton_append] at haddress
        have hnumber : before.length = before.length + (j + 1) :=
          (List.cons.inj (List.append_cancel_left haddress)).1
        omega
      have ih := visitCount_visitsAmong parent up path rest (n :: before) j
        (fun m hm => h m (List.mem_cons_of_mem _ hm))
      rw [List.length_cons, Nat.add_assoc, Nat.add_comm 1 j] at ih
      rw [visitsAmong, visitCount_append, hfirst, Nat.zero_add, ih]
      rfl

/-- The visits of the children of `n` are those of the nodes properly below it. -/
theorem visitCount_children {n : Node} (h : ∀ child ∈ n.children, EntersOnce child)
    (above : List Frame) (path : List Nat) :
    visitCount .entering (addressOf above ++ path) (visitsAmong n [] n.children above) =
      if path ≠ [] ∧ (n.at? path).isSome then 1 else 0 := by
  cases path with
  | nil =>
      refine visitCount_eq_zero (fun x hx haddress => ?_)
      obtain ⟨j, m, more, _, hx, _⟩ := liesBelow_among n above n.children []
        (fun m _ => liesBelow_of_mem_visits m) x hx
      rw [hx] at haddress
      cases List.append_cancel_left haddress
  | cons j path =>
      have hbelow := visitCount_visitsAmong n above path n.children [] j h
      rw [List.length_nil, Nat.zero_add] at hbelow
      rw [hbelow]
      simp [Node.at?]

theorem entersOnce (n : Node) : EntersOnce n := by
  induction n using Node.induction with
  | step n ih =>
      intro above path
      have hself : addressOf above = addressOf above ++ path ↔ path = [] := by simp
      rw [visits_eq, visitCount_cons, visitCount_append, visitCount_cons, visitCount_children ih]
      simp only [address, hself, reduceCtorEq, false_and, if_false, true_and]
      cases path with
      | nil => rfl
      | cons j path => simp [visitCount]

/-- Every node is entered once and left once. -/
theorem visitCount_visits (root : Node) (phase : Phase) (path : List Nat) :
    visitCount phase path (visits root []) = if (root.at? path).isSome then 1 else 0 := by
  have hentering : visitCount .entering path (visits root []) =
      if (root.at? path).isSome then 1 else 0 := entersOnce root [] path
  cases phase with
  | entering => exact hentering
  | leaving => rw [(balanced_visits root []).visitCount_leaving, hentering]

/-! ### Between entering and leaving -/

theorem exists_split_among (parent : Node) (up : List Frame) {c : Cursor} : ∀ ns before : List Node,
    (∀ n ∈ ns, ∀ above, (.entering, c) ∈ visits n above →
      ∃ pre post, visits n above = pre ++ (visits c.node c.above ++ post)) →
    (.entering, c) ∈ visitsAmong parent before ns up →
      ∃ pre post, visitsAmong parent before ns up = pre ++ (visits c.node c.above ++ post)
  | [], before, _, hc => by
      rw [visitsAmong] at hc
      cases hc
  | n :: rest, before, h, hc => by
      obtain ⟨hn, hrest⟩ := List.forall_mem_cons.mp h
      rw [visitsAmong, List.mem_append] at hc
      rw [visitsAmong]
      rcases hc with hc | hc
      · obtain ⟨pre, post, hsplit⟩ := hn _ hc
        exact ⟨pre, post ++ visitsAmong parent (n :: before) rest up, by
          rw [hsplit, List.append_assoc, List.append_assoc]⟩
      · obtain ⟨pre, post, hsplit⟩ := exists_split_among parent up rest (n :: before) hrest hc
        exact ⟨visits n (⟨parent, before, rest⟩ :: up) ++ pre, post, by
          rw [hsplit, List.append_assoc]⟩

/-- The visits of a node and of what is below it stand together. -/
theorem exists_split_visits {c : Cursor} (n : Node) : ∀ above, (.entering, c) ∈ visits n above →
    ∃ pre post, visits n above = pre ++ (visits c.node c.above ++ post) := by
  induction n using Node.induction with
  | step n ih =>
      intro above hc
      rw [visits_eq, List.mem_cons, List.mem_append, List.mem_singleton] at hc
      rcases hc with hc | hc | hc
      · cases hc
        exact ⟨[], [], by simp⟩
      · obtain ⟨pre, post, hsplit⟩ := exists_split_among n above n.children [] ih hc
        exact ⟨(.entering, ⟨n, above⟩) :: pre, post ++ [(.leaving, ⟨n, above⟩)], by
          rw [visits_eq, hsplit]; simp⟩
      · cases hc

theorem not_mem_of_visitCount_le {phase : Phase} {c : Cursor} {xs ys : List (Phase × Cursor)}
    (h : visitCount phase c.address (xs ++ (phase, c) :: ys) ≤ 1) :
    (phase, c) ∉ xs ∧ (phase, c) ∉ ys := by
  have hmem : ∀ zs : List (Phase × Cursor), (phase, c) ∈ zs → 0 < visitCount phase c.address zs :=
    fun zs hzs => List.countP_pos_iff.mpr ⟨_, hzs, by simp⟩
  rw [visitCount_append, visitCount_cons, if_pos ⟨rfl, rfl⟩] at h
  constructor
  · intro hxs
    have := hmem xs hxs
    omega
  · intro hys
    have := hmem ys hys
    omega

theorem visitCount_visits_le (root : Node) (phase : Phase) (path : List Nat) :
    visitCount phase path (visits root []) ≤ 1 := by
  rw [visitCount_visits]
  split <;> omega

/-- Between entering and leaving a node come the visits of its children, and no others. -/
theorem eq_visitsAmong_of_between {root : Node} {c : Cursor} {before between after}
    (h : visits root [] = before ++ (.entering, c) :: (between ++ (.leaving, c) :: after)) :
    between = visitsAmong c.node [] c.node.children c.above := by
  have hc : (.entering, c) ∈ visits root [] := by
    rw [h]
    simp
  obtain ⟨pre, post, hsplit⟩ := exists_split_visits root [] hc
  rw [visits_eq c.node, List.cons_append, List.append_assoc, List.singleton_append] at hsplit
  have hentered := not_mem_of_visitCount_le (h ▸ visitCount_visits_le root .entering c.address)
  have hinner : between ++ (.leaving, c) :: after =
      visitsAmong c.node [] c.node.children c.above ++ (.leaving, c) :: post :=
    ((List.append_cons_inj_of_notMem hentered.1 hentered.2).mp (h.symm.trans hsplit)).2.2
  have hleft : visitCount .leaving c.address (between ++ (.leaving, c) :: after) ≤ 1 := by
    have hle := visitCount_visits_le root .leaving c.address
    rw [h, visitCount_append, visitCount_cons] at hle
    omega
  have hleft := not_mem_of_visitCount_le hleft
  exact ((List.append_cons_inj_of_notMem hleft.1 hleft.2).mp hinner).1

theorem visitCount_between {root : Node} {c : Cursor} (hc : root.at? c.address = some c.node)
    (phase : Phase) (path : List Nat) :
    visitCount phase path (visitsAmong c.node [] c.node.children c.above) =
      if c.address <+: path ∧ path ≠ c.address ∧ (root.at? path).isSome then 1 else 0 := by
  have hphase : visitCount phase path (visitsAmong c.node [] c.node.children c.above) =
      visitCount .entering path (visitsAmong c.node [] c.node.children c.above) := by
    cases phase with
    | entering => rfl
    | leaving =>
        exact (balanced_visitsAmong c.node c.above c.node.children []
          (fun n _ => balanced_visits n)).visitCount_leaving path
  rw [hphase]
  by_cases hbelow : c.address <+: path
  · obtain ⟨rest, rfl⟩ := hbelow
    have hat : root.at? (c.address ++ rest) = c.node.at? rest := by
      rw [Node.at?_append, hc, Option.bind_some]
    rw [address, visitCount_children (fun n _ => entersOnce n), ← address, hat]
    simp
  · rw [if_neg (fun h => hbelow h.1)]
    refine visitCount_eq_zero (fun x hx haddress => hbelow ?_)
    obtain ⟨j, m, more, _, hx, _⟩ := liesBelow_among c.node c.above c.node.children []
      (fun m _ => liesBelow_of_mem_visits m) x hx
    rw [← haddress, hx]
    exact List.prefix_append _ _

theorem at?_address {root : Node} {x : Phase × Cursor} (h : x ∈ visits root []) :
    root.at? x.2.address = some x.2.node := by
  obtain ⟨path, haddress, hat⟩ := liesBelow_of_mem_visits root [] x h
  rw [haddress]
  exact hat

theorem exists_between {root n : Node} {path : List Nat} (h : root.at? path = some n) :
    ∃ c before between after, c.address = path ∧ c.node = n ∧
      visits root [] = before ++ (.entering, c) :: (between ++ (.leaving, c) :: after) := by
  have hcount := visitCount_visits root .entering path
  rw [h, Option.isSome_some, if_pos rfl] at hcount
  have hpos : 0 < visitCount .entering path (visits root []) := by omega
  obtain ⟨⟨phase, c⟩, hc, hvisit⟩ := List.countP_pos_iff.mp hpos
  obtain ⟨rfl, haddress⟩ := of_decide_eq_true hvisit
  have hnode : some c.node = some n := by rw [← at?_address hc, haddress, h]
  obtain ⟨before, after, hsplit⟩ := exists_split_visits root [] hc
  refine ⟨c, before, visitsAmong c.node [] c.node.children c.above, after, haddress,
    Option.some.inj hnode, ?_⟩
  rw [hsplit, visits_eq c.node]
  simp

/-! ### The walk -/

/-- **A walk is the traversal by recursion.**  For every tree the loop of the moves ends, and its visits
are those of the recursion that enters a node, goes through its children in order and leaves it, from
the root on.  Whatever the visitor is, the walk makes these visits in this order, and more fuel changes
nothing.  At each visit the cursor is at the node that the address leads to.  So every node is entered
once and left once, and nothing else is; the visits are balanced; each node is left some time after it
is entered, and in between exactly the nodes properly below it are entered and left, once each. -/
theorem walk_traverses (root : Node) :
    Loops (.entering, ofRoot root) (visits root []) ∧
    (∀ (σ : Type) (v : Visitor σ) (s : σ), walk v root s = (visits root []).foldl v.visit s ∧
      ∀ fuel, 2 * root.size ≤ fuel → walkFrom v fuel .entering (ofRoot root) s = walk v root s) ∧
    (∀ x ∈ visits root [], root.at? x.2.address = some x.2.node) ∧
    (∀ phase path, visitCount phase path (visits root []) =
      if (root.at? path).isSome then 1 else 0) ∧
    Balanced (visits root []) ∧
    (∀ path n, root.at? path = some n → ∃ c before between after, c.address = path ∧ c.node = n ∧
      visits root [] = before ++ (.entering, c) :: (between ++ (.leaving, c) :: after)) ∧
    ∀ c before between after,
      visits root [] = before ++ (.entering, c) :: (between ++ (.leaving, c) :: after) →
        ∀ phase path, visitCount phase path between =
          if c.address <+: path ∧ path ≠ c.address ∧ (root.at? path).isSome then 1 else 0 := by
  have hloops := loops_visits root
  refine ⟨hloops, fun σ v s => ⟨walk_eq_foldl_visits v root s, fun fuel hfuel => ?_⟩,
    fun x => at?_address, visitCount_visits root, balanced_visits root [],
    fun path n => exists_between, fun c before between after h phase path => ?_⟩
  · have hlength : (visits root []).length = 2 * root.size := hloops.length_eq
    rw [walk_eq_foldl_visits, hloops.walkFrom_eq v fuel s, List.take_of_length_le (by omega)]
  · have hc : (.entering, c) ∈ visits root [] := by
      rw [h]
      simp
    rw [eq_visitsAmong_of_between h]
    exact visitCount_between (at?_address hc) phase path

/-- Two equal leaves below one node, and a third one behind it. -/
theorem walk_traverses_equal_leaves :
    let leaf : Node := ⟨";", false, "", 0, 0, []⟩
    let block : Node := ⟨"block", true, "", 0, 0, [leaf, leaf]⟩
    let root : Node := ⟨"program", true, "", 0, 0, [block, leaf]⟩
    let c : Cursor := ⟨block, [⟨root, [], [leaf]⟩]⟩
    let first : Cursor := ⟨leaf, [⟨block, [], [leaf]⟩, ⟨root, [], [leaf]⟩]⟩
    let second : Cursor := ⟨leaf, [⟨block, [leaf], []⟩, ⟨root, [], [leaf]⟩]⟩
    let last : Cursor := ⟨leaf, [⟨root, [block], []⟩]⟩
    let between : List (Phase × Cursor) :=
      [(.entering, first), (.leaving, first), (.entering, second), (.leaving, second)]
    visits root [] = [(.entering, ofRoot root)] ++ (.entering, c) :: (between ++ (.leaving, c) ::
        [(.entering, last), (.leaving, last), (.leaving, ofRoot root)]) ∧
      visitCount .leaving [0, 1] between = 1 ∧ visitCount .leaving [1] between = 0 ∧
      root.at? [0, 1] = some leaf ∧
      (∃ d before inner after, d.address = [0, 1] ∧ d.node = leaf ∧
        visits root [] = before ++ (.entering, d) :: (inner ++ (.leaving, d) :: after)) ∧
      walkFrom recorder 100 .entering (ofRoot root) [] = walk recorder root [] := by
  intro leaf block root c first second last between
  have hvisits : visits root [] = [(.entering, ofRoot root)] ++ (.entering, c) ::
      (between ++ (.leaving, c) ::
        [(.entering, last), (.leaving, last), (.leaving, ofRoot root)]) := rfl
  have hat : root.at? [0, 1] = some leaf := rfl
  obtain ⟨_, hwalk, _, _, _, hexists, hbetween⟩ := walk_traverses root
  exact ⟨hvisits, hbetween c _ between _ hvisits .leaving [0, 1],
    hbetween c _ between _ hvisits .leaving [1], hat, hexists [0, 1] leaf hat,
    (hwalk _ recorder []).2 100 (by decide)⟩

end Cursor

end RequiredVersion
