import Mathlib.Data.List.Infix
import Mathlib.Data.List.Nodup
import Mathlib.Data.List.Perm.Subperm
import RequiredVersion.Proofs.SortedMap
import RequiredVersion.Proofs.Traversal
import RequiredVersion.Tree.Parents

/-! # The links of a parent map

The stack of `ParentMap.linkBelow` goes through a tree in an order of its own: of some siblings the last
one comes first, and its whole subtree before the others.  What is linked at each turn is told by
`ParentMap.Linking`: every link leads from a node to its parent, and a node that is not linked yet is
properly below a place on the stack.  A turn keeps this (`Linking.step`), so the loop does
(`Linking.linkBelow`), and with the stack empty all nodes have their links.

That needs the ids of the nodes to be distinct, as their numbers in pre-order are
(`Cursor.nodup_map_number`).  Following links from a node is then going up in the tree
(`ParentMap.climb_eq_take`), and there are links enough for the longest way up
(`ParentMap.size_le_size_links`). -/

namespace RequiredVersion

namespace Cursor

/-! ### Subtrees -/

/-- A place and all that are below it, in pre-order. -/
def subtree (c : Cursor) : List Cursor := placesFrom c.node c.above

theorem placesAmong_eq_flatMap (parent : Node) (up : List Frame) : ∀ before ns : List Node,
    placesAmong parent before ns up = (childrenAmong parent up before ns).flatMap subtree
  | before, [] => by
      rw [placesAmong]
      rfl
  | before, n :: rest => by
      rw [placesAmong, childrenAmong, List.flatMap_cons, placesAmong_eq_flatMap parent up]
      rfl

theorem subtree_eq (c : Cursor) : c.subtree = c :: c.children.flatMap subtree := by
  rw [subtree, placesFrom_eq, placesAmong_eq_flatMap]
  rfl

theorem mem_subtree_iff {c d : Cursor} : d ∈ c.subtree ↔ d = c ∨ ∃ e ∈ c.children, d ∈ e.subtree := by
  rw [subtree_eq, List.mem_cons, List.mem_flatMap]

theorem mem_subtree_self (c : Cursor) : c ∈ c.subtree := mem_subtree_iff.mpr (.inl rfl)

/-- Induction on places: what holds of a place if it holds of its children holds of every place. -/
theorem induction {P : Cursor → Prop} (step : ∀ c, (∀ d ∈ c.children, P d) → P c) (c : Cursor) :
    P c := by
  obtain ⟨n, above⟩ := c
  induction n using Node.induction generalizing above with
  | step n ih =>
      refine step ⟨n, above⟩ (fun d hd => ih d.node ?_ d.above)
      have hnode := List.mem_map_of_mem (f := (·.node)) hd
      rwa [map_node_children] at hnode

theorem mem_subtree_trans {c d e : Cursor} (hd : d ∈ c.subtree) (he : e ∈ d.subtree) :
    e ∈ c.subtree := by
  induction c using Cursor.induction with
  | step c ih =>
      rcases mem_subtree_iff.mp hd with rfl | ⟨child, hchild, hd⟩
      · exact he
      · exact mem_subtree_iff.mpr (.inr ⟨child, hchild, ih child hchild hd⟩)

theorem mem_subtree_of_mem_children {c d : Cursor} (h : d ∈ c.children) : d ∈ c.subtree :=
  mem_subtree_iff.mpr (.inr ⟨d, h, mem_subtree_self d⟩)

theorem mem_places_iff {root : Node} {c : Cursor} : c ∈ places root ↔ c ∈ (ofRoot root).subtree :=
  Iff.rfl

theorem mem_places_of_mem_children {root : Node} {c d : Cursor} (hc : c ∈ places root)
    (hd : d ∈ c.children) : d ∈ places root :=
  mem_places_iff.mpr (mem_subtree_trans (mem_places_iff.mp hc) (mem_subtree_of_mem_children hd))

/-! ### Parents -/

theorem parent?_of_mem_childrenAmong {parent : Node} {up : List Frame} {d : Cursor} :
    ∀ {before ns : List Node}, d ∈ childrenAmong parent up before ns → d.parent? = some ⟨parent, up⟩
  | before, [], h => by cases h
  | before, n :: rest, h => by
      rw [childrenAmong, List.mem_cons] at h
      rcases h with rfl | h
      · rfl
      · exact parent?_of_mem_childrenAmong h

theorem parent?_of_mem_children {c d : Cursor} (h : d ∈ c.children) : d.parent? = some c :=
  parent?_of_mem_childrenAmong h

theorem exists_mem_children {c d : Cursor} (h : d ∈ c.subtree) :
    d = c ∨ ∃ p ∈ c.subtree, d ∈ p.children := by
  induction c using Cursor.induction with
  | step c ih =>
      rcases mem_subtree_iff.mp h with rfl | ⟨e, he, h⟩
      · exact .inl rfl
      · rcases ih e he h with rfl | ⟨p, hp, hd⟩
        · exact .inr ⟨c, mem_subtree_self c, he⟩
        · exact .inr ⟨p, mem_subtree_trans (mem_subtree_of_mem_children he) hp, hd⟩

theorem exists_parent?_of_below {c d e : Cursor} (he : e ∈ c.children) (hd : d ∈ e.subtree) :
    ∃ p, d.parent? = some p := by
  rcases exists_mem_children hd with rfl | ⟨p, _, hp⟩
  · exact ⟨c, parent?_of_mem_children he⟩
  · exact ⟨p, parent?_of_mem_children hp⟩

theorem mem_places_of_parent? {root : Node} {c p : Cursor} (hc : c ∈ places root)
    (hp : c.parent? = some p) : p ∈ places root := by
  rcases exists_mem_children (mem_places_iff.mp hc) with rfl | ⟨q, hq, hchild⟩
  · cases hp
  · rw [parent?_of_mem_children hchild] at hp
    exact Option.some.inj hp ▸ hq

theorem ancestors_eq (c : Cursor) : c.ancestors =
    match c.parent? with
    | none => []
    | some p => p :: p.ancestors := by
  obtain ⟨n, _ | ⟨f, up⟩⟩ := c <;> rfl

theorem mem_places_of_mem_ancestorsOf {root : Node} {a : Cursor} : ∀ {n : Node} {above : List Frame},
    ⟨n, above⟩ ∈ places root → a ∈ ancestorsOf above → a ∈ places root ∧ a.depth < above.length
  | _, [], _, ha => by cases ha
  | n, f :: up, hc, ha => by
      have hparent : ⟨f.parent, up⟩ ∈ places root := mem_places_of_parent? hc rfl
      rw [ancestorsOf, List.mem_cons] at ha
      rcases ha with rfl | ha
      · exact ⟨hparent, Nat.lt_succ_self up.length⟩
      · obtain ⟨hplace, hlt⟩ := mem_places_of_mem_ancestorsOf hparent ha
        exact ⟨hplace, Nat.lt_succ_of_lt hlt⟩

theorem getElem?_ancestorsOf_succ : ∀ (above : List Frame) (k : Nat),
    (ancestorsOf above)[k + 1]? = (ancestorsOf above)[k]?.bind parent?
  | [], _ => rfl
  | [_], 0 => rfl
  | _ :: _ :: _, 0 => rfl
  | _ :: up, k + 1 => getElem?_ancestorsOf_succ up k

/-! ### Places and visits -/

theorem mem_places_iff_mem_visits {root : Node} {c : Cursor} :
    c ∈ places root ↔ (.entering, c) ∈ visits root [] := by
  rw [places, ← entered_visits, entered, List.mem_filterMap]
  constructor
  · rintro ⟨⟨_ | _, d⟩, hd, heq⟩
    · cases heq
      exact hd
    · cases heq
  · intro hc
    exact ⟨_, hc, rfl⟩

/-- A walk asks a visitor only about the places of the tree. -/
theorem walk_congr {σ : Type} {enter enter' leave : Cursor → σ → σ} {root : Node}
    (h : ∀ c ∈ places root, ∀ s, enter c s = enter' c s) (s : σ) :
    walk ⟨enter, leave⟩ root s = walk ⟨enter', leave⟩ root s := by
  rw [walk_eq_foldl_visits, walk_eq_foldl_visits]
  refine List.foldl_ext _ _ _ (fun s x hx => ?_)
  obtain ⟨_ | _, c⟩ := x
  · exact h c (mem_places_iff_mem_visits.mpr hx) s
  · rfl

/-! ### Addresses of parents -/

/-- From a place up to the root, the addresses are the initial segments of its own, the longest one
first. -/
theorem addressOf_cons_map_ancestorsOf : ∀ above : List Frame,
    addressOf above :: (ancestorsOf above).map address = (addressOf above).inits.reverse
  | [] => rfl
  | f :: up => by
      have hup := addressOf_cons_map_ancestorsOf up
      rw [ancestorsOf, List.map_cons, addressOf, List.inits_append, List.reverse_append, ← hup]
      rfl

/-- The addresses that have a node are those of the places, which have that node. -/
theorem at?_eq_some_iff {root n : Node} {path : List Nat} :
    root.at? path = some n ↔ ∃ c ∈ places root, c.address = path ∧ c.node = n := by
  constructor
  · intro h
    obtain ⟨c, before, between, after, haddress, hnode, hvisits⟩ := exists_between h
    refine ⟨c, mem_places_iff_mem_visits.mpr ?_, haddress, hnode⟩
    rw [hvisits]
    exact List.mem_append_right _ List.mem_cons_self
  · rintro ⟨c, hc, rfl, rfl⟩
    exact at?_address (mem_places_iff_mem_visits.mp hc)

theorem eq_of_address_eq {root : Node} {c d : Cursor} (hc : c ∈ places root) (hd : d ∈ places root)
    (h : c.address = d.address) : c = d := by
  have hcount := visitCount_visits_le root .entering d.address
  rw [visitCount, List.countP_eq_length_filter] at hcount
  have hfilter : ∀ {e : Cursor}, e ∈ places root → e.address = d.address → (.entering, e) ∈
      (visits root []).filter (fun x => decide (x.1 = .entering ∧ x.2.address = d.address)) :=
    fun he haddress => List.mem_filter.mpr ⟨mem_places_iff_mem_visits.mp he, by simp [haddress]⟩
  have hc := hfilter hc h
  have hd := hfilter hd rfl
  generalize (visits root []).filter _ = entries at hcount hc hd
  rcases entries with _ | ⟨x, _ | ⟨y, entries⟩⟩
  · cases hc
  · exact (Prod.mk.inj ((List.mem_singleton.mp hc).trans (List.mem_singleton.mp hd).symm)).2
  · rw [List.length_cons, List.length_cons] at hcount
    omega

/-- Among the places of a tree, the parent is the one whose address is shorter by the last number. -/
theorem parent?_eq_some_iff {root : Node} {c p : Cursor} (hc : c ∈ places root) :
    c.parent? = some p ↔ p ∈ places root ∧ ∃ i, c.address = p.address ++ [i] := by
  constructor
  · intro hp
    refine ⟨mem_places_of_parent? hc hp, ?_⟩
    obtain ⟨n, _ | ⟨f, up⟩⟩ := c <;> cases hp
    exact ⟨f.before.length, rfl⟩
  · rintro ⟨hp, i, hi⟩
    obtain ⟨n, _ | ⟨f, up⟩⟩ := c
    · exact absurd hi.symm (List.concat_ne_nil i p.address)
    · have haddress : addressOf up = p.address := (List.append_inj' hi rfl).1
      have hparent : ⟨f.parent, up⟩ ∈ places root := mem_places_of_parent? hc rfl
      exact congrArg some (eq_of_address_eq hparent hp haddress)

/-! ### Numbers -/

theorem map_number_placesAmong (parent : Node) (up : List Frame) : ∀ ns before : List Node,
    (∀ n ∈ ns, ∀ above, (placesFrom n above).map number = List.range' (numberOf above) n.size) →
      (placesAmong parent before ns up).map number =
        List.range' (numberOf up + 1 + Node.sizes before) (Node.sizes ns)
  | [], before, _ => by
      rw [placesAmong]
      rfl
  | n :: rest, before, h => by
      obtain ⟨hn, hrest⟩ := List.forall_mem_cons.mp h
      rw [placesAmong, List.map_append, hn, map_number_placesAmong parent up rest (n :: before) hrest,
        numberOf, Node.sizes, Node.sizes, ← List.range'_append_1]
      congr 2
      omega

theorem map_number_placesFrom (n : Node) : ∀ above,
    (placesFrom n above).map number = List.range' (numberOf above) n.size := by
  induction n using Node.induction with
  | step n ih =>
      intro above
      rw [placesFrom_eq, List.map_cons, map_number_placesAmong n above n.children [] ih, size_eq,
        Nat.add_comm 1, List.range'_succ]
      rfl

/-- The nodes of a tree are numbered in pre-order. -/
theorem map_number_places (root : Node) : (places root).map number = List.range root.size := by
  rw [places, map_number_placesFrom, List.range_eq_range']
  rfl

theorem nodup_map_number (root : Node) : ((places root).map number).Nodup := by
  rw [map_number_places]
  exact List.nodup_range

theorem length_places (root : Node) : (places root).length = root.size := by
  have h := congrArg List.length (map_number_places root)
  rwa [List.length_map, List.length_range] at h

theorem length_le_numberOf : ∀ above : List Frame, above.length ≤ numberOf above
  | [] => Nat.le_refl 0
  | f :: up => by
      have hup := length_le_numberOf up
      rw [List.length_cons, numberOf]
      omega

theorem depth_lt_size {root : Node} {c : Cursor} (hc : c ∈ places root) : c.depth < root.size := by
  have hnumber : c.number ∈ List.range root.size := by
    rw [← map_number_places]
    exact List.mem_map_of_mem hc
  exact Nat.lt_of_le_of_lt (length_le_numberOf c.above) (List.mem_range.mp hnumber)

end Cursor

namespace ParentMap

open Cursor

/-! ### The loop -/

theorem get?_foldl_insert_id (idOf : Cursor → Nat) (p : Cursor) (k : Nat) :
    ∀ (ds : List Cursor) (links : SortedMap Nat Cursor),
      (ds.foldl (fun m d => m.insert (idOf d) p) links).get? k =
        if k ∈ ds.map idOf then some p else links.get? k
  | [], links => by simp
  | d :: ds, links => by
      rw [List.foldl_cons, get?_foldl_insert_id idOf p k ds, List.map_cons, SortedMap.get?_insert]
      by_cases hds : k ∈ ds.map idOf
      · rw [if_pos hds, if_pos (List.mem_cons_of_mem _ hds)]
      · simp [hds]

theorem get?_linkChildren (idOf : Cursor → Nat) (c : Cursor) (links : SortedMap Nat Cursor) (k : Nat) :
    (linkChildren idOf c links).get? k =
      if k ∈ c.children.map idOf then some c else links.get? k :=
  get?_foldl_insert_id idOf c k c.children links

/-- What is linked while some places are on the stack: the links lead to parents, and a node without
its link is properly below a place on the stack. -/
structure Linking (idOf : Cursor → Nat) (root : Node) (links : SortedMap Nat Cursor)
    (stack : List Cursor) : Prop where
  stack_mem : ∀ c ∈ stack, c ∈ places root
  leads : ∀ k p, links.get? k = some p → ∃ c ∈ places root, idOf c = k ∧ c.parent? = some p
  linked : ∀ d ∈ places root, links.get? (idOf d) = d.parent? ∨
    ∃ c ∈ stack, ∃ e ∈ c.children, d ∈ e.subtree

namespace Linking

variable {idOf : Cursor → Nat} {root : Node} {links : SortedMap Nat Cursor} {stack : List Cursor}

theorem start : Linking idOf root .empty [ofRoot root] where
  stack_mem := by
    intro c hc
    rw [List.mem_singleton.mp hc]
    exact mem_places_iff.mpr (mem_subtree_self _)
  leads := by
    intro k p h
    cases h
  linked := by
    intro d hd
    rcases mem_subtree_iff.mp (mem_places_iff.mp hd) with rfl | hbelow
    · exact .inl rfl
    · exact .inr ⟨ofRoot root, List.mem_singleton_self _, hbelow⟩

/-- One turn of the loop: the children of the place on top get their links, and what is below them is
now below a place on the stack.  No link changes, as no two nodes have one id. -/
theorem step (hids : ∀ c ∈ places root, ∀ d ∈ places root, idOf c = idOf d → c = d) {c : Cursor}
    (h : Linking idOf root links (c :: stack)) :
    Linking idOf root (linkChildren idOf c links) (c.children.reverse ++ stack) := by
  have hc : c ∈ places root := h.stack_mem c List.mem_cons_self
  refine ⟨?_, ?_, ?_⟩
  · intro d hd
    rw [List.mem_append, List.mem_reverse] at hd
    rcases hd with hd | hd
    · exact mem_places_of_mem_children hc hd
    · exact h.stack_mem d (List.mem_cons_of_mem _ hd)
  · intro k p hk
    rw [get?_linkChildren] at hk
    split at hk
    · next hmem =>
        obtain ⟨d, hd, rfl⟩ := List.mem_map.mp hmem
        exact ⟨d, mem_places_of_mem_children hc hd, rfl, (parent?_of_mem_children hd).trans hk⟩
    · exact h.leads k p hk
  · intro d hd
    rw [get?_linkChildren]
    by_cases hmem : idOf d ∈ c.children.map idOf
    · obtain ⟨e, he, heq⟩ := List.mem_map.mp hmem
      obtain rfl : e = d := hids e (mem_places_of_mem_children hc he) d hd heq
      rw [if_pos hmem]
      exact .inl (parent?_of_mem_children he).symm
    · rw [if_neg hmem]
      rcases h.linked d hd with hlinked | ⟨b, hb, e, he, hde⟩
      · exact .inl hlinked
      · refine .inr ?_
        rcases List.mem_cons.mp hb with rfl | hb
        · -- the place on top is gone; the node is not its child, so it is properly below one
          rcases mem_subtree_iff.mp hde with rfl | hbelow
          · exact absurd (List.mem_map_of_mem he) hmem
          · exact ⟨e, List.mem_append_left _ (List.mem_reverse.mpr he), hbelow⟩
        · exact ⟨b, List.mem_append_right _ hb, e, he, hde⟩

/-- When the loop ends, every node has its link. -/
theorem linkBelow (hids : ∀ c ∈ places root, ∀ d ∈ places root, idOf c = idOf d → c = d)
    (h : Linking idOf root links stack) :
    Linking idOf root (ParentMap.linkBelow idOf links stack) [] := by
  induction links, stack using ParentMap.linkBelow.induct idOf with
  | case1 links =>
      rw [ParentMap.linkBelow]
      exact h
  | case2 links c stack ih =>
      rw [ParentMap.linkBelow]
      exact ih (h.step hids)

end Linking

/-! ### The way up -/

/-- The links of a map lead to the parents in a tree. -/
def Follows (m : ParentMap) (root : Node) : Prop := ∀ c ∈ places root, m.parent? c = c.parent?

/-- The place that a number of links leads to from the parent on, if there are so many. -/
def ancestor? (m : ParentMap) (c : Cursor) : Nat → Option Cursor
  | 0 => m.parent? c
  | k + 1 => (m.ancestor? c k).bind m.parent?

section follows

variable {m : ParentMap} {root : Node} (hm : m.Follows root)
include hm

theorem climb_eq_take : ∀ (steps : Nat) {c : Cursor}, c ∈ places root →
    m.climb steps c = c.ancestors.take steps
  | 0, c, _ => rfl
  | steps + 1, c, hc => by
      rw [climb, hm c hc, ancestors_eq]
      cases hp : c.parent? with
      | none => rfl
      | some p =>
          have ih := climb_eq_take steps (mem_places_of_parent? hc hp)
          simp only [List.take_succ_cons, ih]

theorem ancestor?_eq {c : Cursor} (hc : c ∈ places root) (k : Nat) :
    m.ancestor? c k = c.ancestors[k]? := by
  induction k with
  | zero =>
      rw [ancestor?, hm c hc, ancestors_eq]
      cases c.parent? <;> rfl
  | succ k ih =>
      rw [ancestor?, ih, Cursor.ancestors, getElem?_ancestorsOf_succ]
      cases ha : (ancestorsOf c.above)[k]? with
      | none => rfl
      | some a =>
          exact hm a (mem_places_of_mem_ancestorsOf hc (List.mem_of_getElem? ha)).1

theorem size_le_size_links (hids : ((places root).map m.idOf).Nodup) :
    root.size ≤ m.links.size + 1 := by
  have hplaces : places root = ofRoot root :: (ofRoot root).children.flatMap subtree :=
    subtree_eq (ofRoot root)
  have hlinked : ((ofRoot root).children.flatMap subtree).map m.idOf ⊆ m.links.keys := by
    intro k hk
    obtain ⟨d, hd, rfl⟩ := List.mem_map.mp hk
    obtain ⟨e, he, hde⟩ := List.mem_flatMap.mp hd
    obtain ⟨p, hp⟩ := exists_parent?_of_below he hde
    have hplace : d ∈ places root := hplaces ▸ List.mem_cons_of_mem _ hd
    exact SortedMap.mem_keys_iff.mpr ⟨p, (hm d hplace).trans hp⟩
  have hlength := length_places root
  rw [hplaces, List.map_cons, List.nodup_cons] at hids
  rw [hplaces, List.length_cons] at hlength
  have hle := (List.subperm_of_subset hids.2 hlinked).length_le
  rw [List.length_map, SortedMap.keys, List.length_map] at hle
  rw [← hlength]
  exact Nat.succ_le_succ hle

/-- Following links from a node goes through its ancestors, and ends behind the last one. -/
theorem ancestors_eq_of_follows (hids : ((places root).map m.idOf).Nodup) {c : Cursor}
    (hc : c ∈ places root) : m.ancestors c = c.ancestors := by
  have hdepth := depth_lt_size hc
  have hlinks := size_le_size_links hm hids
  rw [ancestors, climb_eq_take hm _ hc, List.take_of_length_le]
  rw [length_ancestors]
  omega

end follows

variable {idOf : Cursor → Nat} {root : Node}

theorem linking_build (hids : ((places root).map idOf).Nodup) :
    Linking idOf root (build idOf root).links [] :=
  Linking.start.linkBelow (fun _ hc _ hd => List.inj_on_of_nodup_map hids hc hd)

theorem follows_build (hids : ((places root).map idOf).Nodup) : (build idOf root).Follows root := by
  intro c hc
  rcases (linking_build hids).linked c hc with h | ⟨b, hb, _⟩
  · exact h
  · cases hb

theorem get?_build_iff (hids : ((places root).map idOf).Nodup) {k : Nat} {p : Cursor} :
    (build idOf root).links.get? k = some p ↔ ∃ c ∈ places root, idOf c = k ∧ c.parent? = some p := by
  constructor
  · exact (linking_build hids).leads k p
  · rintro ⟨c, hc, rfl, hp⟩
    exact (follows_build hids c hc).trans hp

/-! ### The map by numbers -/

theorem parent?_ofTree {c : Cursor} (hc : c ∈ places root) : (ofTree root).parent? c = c.parent? :=
  follows_build (nodup_map_number root) c hc

/-- The map that goes by numbers has the way up that a cursor carries. -/
theorem ancestors_ofTree {c : Cursor} (hc : c ∈ places root) :
    (ofTree root).ancestors c = c.ancestors :=
  ancestors_eq_of_follows (follows_build (nodup_map_number root)) (nodup_map_number root) hc

/-! ### The map by any ids -/

/-- **A parent map has the parent of every node below the root, and nothing else.**  The nodes of a tree
are its places, each told by its address.  If they have distinct ids, then the entries of the map are
one for each node but the root, from its id to the place whose address is shorter by the last number;
that is where a cursor gets when it moves to the parent.  Links that are followed from a node on come to
an end: the places that they lead to are the ancestors of the node, as many as it is deep, and none of
them has its id.  They are those on the way from the parent up to the root: their addresses are the
shorter and shorter initial segments of the address of the node. -/
theorem build_links_parents (root : Node) (idOf : Cursor → Nat)
    (hids : ((places root).map idOf).Nodup) :
    (∀ path n, root.at? path = some n ↔ ∃ c ∈ places root, c.address = path ∧ c.node = n) ∧
    (∀ k p, (build idOf root).links.get? k = some p ↔
      p ∈ places root ∧ ∃ c ∈ places root, idOf c = k ∧ ∃ i, c.address = p.address ++ [i]) ∧
    ∀ c ∈ places root,
      (build idOf root).parent? c = c.parent? ∧
      (∀ k, (build idOf root).ancestor? c k = ((build idOf root).ancestors c)[k]?) ∧
      (build idOf root).ancestors c = c.ancestors ∧
      ((build idOf root).ancestors c).length = c.depth ∧
      (∀ a ∈ (build idOf root).ancestors c, a ∈ places root ∧ idOf a ≠ idOf c) ∧
      c.address :: ((build idOf root).ancestors c).map address = c.address.inits.reverse := by
  have hfollows := follows_build hids
  refine ⟨fun path n => at?_eq_some_iff, fun k p => ?_, fun c hc => ?_⟩
  · rw [get?_build_iff hids]
    constructor
    · rintro ⟨c, hc, hk, hp⟩
      obtain ⟨hplace, haddress⟩ := (parent?_eq_some_iff hc).mp hp
      exact ⟨hplace, c, hc, hk, haddress⟩
    · rintro ⟨hplace, c, hc, hk, haddress⟩
      exact ⟨c, hc, hk, (parent?_eq_some_iff hc).mpr ⟨hplace, haddress⟩⟩
  · have hancestors : (build idOf root).ancestors c = c.ancestors :=
      ancestors_eq_of_follows hfollows hids hc
    rw [hancestors]
    refine ⟨hfollows c hc, ancestor?_eq hfollows hc, rfl, length_ancestors c, ?_,
      addressOf_cons_map_ancestorsOf c.above⟩
    intro a ha
    obtain ⟨hplace, hlt⟩ := mem_places_of_mem_ancestorsOf hc ha
    refine ⟨hplace, fun hid => ?_⟩
    have hself : a = c := List.inj_on_of_nodup_map hids hplace hc hid
    exact absurd (hself ▸ hlt) (Nat.lt_irrefl _)

/-- Equal leaves are told apart by ids, which need not follow the order of the tree. -/
theorem build_links_parents_equal_leaves :
    let leaf : Node := ⟨";", false, "", 0, 0, []⟩
    let block : Node := ⟨"block", true, "", 0, 0, [leaf, leaf]⟩
    let root : Node := ⟨"program", true, "", 0, 0, [block, leaf]⟩
    let inner : Cursor := ⟨block, [⟨root, [], [leaf]⟩]⟩
    let second : Cursor := ⟨leaf, [⟨block, [leaf], []⟩, ⟨root, [], [leaf]⟩]⟩
    let last : Cursor := ⟨leaf, [⟨root, [block], []⟩]⟩
    let idOf : Cursor → Nat := fun c => 3 * (c.number + 2) % 7
    (places root).map idOf = [6, 2, 5, 1, 4] ∧ ((places root).map idOf).Nodup ∧
      (build idOf root).links.get? 1 = some inner ∧
      (build idOf root).links.get? 4 = some (ofRoot root) ∧
      (build idOf root).links.get? 6 = none ∧
      (build idOf root).ancestors second = [inner, ofRoot root] ∧
      (build idOf root).ancestor? second 1 = some (ofRoot root) ∧
      (build idOf root).ancestor? second 2 = none ∧
      (build idOf root).ancestors last = [ofRoot root] := by
  intro leaf block root inner second last idOf
  have hmap : (places root).map idOf = [6, 2, 5, 1, 4] := by decide
  have hnodup : ((places root).map idOf).Nodup := by
    rw [hmap]
    decide
  have hsecond : second ∈ places root := List.mem_of_getElem? (i := 3) rfl
  have hlast : last ∈ places root := List.mem_of_getElem? (i := 4) rfl
  have hroot : ofRoot root ∈ places root := List.mem_of_getElem? (i := 0) rfl
  obtain ⟨_, _, hplaces⟩ := build_links_parents root idOf hnodup
  obtain ⟨_, hitems, hancestors, _⟩ := hplaces second hsecond
  have hup : (build idOf root).ancestors second = [inner, ofRoot root] := hancestors
  rw [hup] at hitems
  have hget : ∀ {c : Cursor} {k : Nat}, c ∈ places root → idOf c = k →
      (build idOf root).links.get? k = c.parent? := by
    rintro c _ hc rfl
    exact (hplaces c hc).1
  exact ⟨hmap, hnodup, hget hsecond (by decide), hget hlast (by decide), hget hroot (by decide), hup,
    hitems 1, hitems 2, (hplaces last hlast).2.2.1⟩

end ParentMap

end RequiredVersion
