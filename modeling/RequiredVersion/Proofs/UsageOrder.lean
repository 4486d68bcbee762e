import RequiredVersion.Proofs.ParentLinks
import RequiredVersion.Scan

/-! # Usages in the order of the source

The walk that collects usages is a concatenation: each place of a tree makes its usages by itself, and
they follow one another in pre-order (`Usage.collect_eq_flatMap`).  What a place makes can be read off
its node and the frame right above it (`Usage.ofNode_congr`).

In a tree whose spans are nested (`Node.Nested`) pre-order is the order of the source, so that the lines
of the usages never decrease (`Usage.pairwise_line_collect`).  `InOrder` carries the bounds between which
the places of a subtree start, from each subtree to the one around it. -/

namespace RequiredVersion

/-! ### Usages place by place -/

namespace Cursor

variable {α : Type}

/-- A visitor that appends what each place gives gathers what the places entered give. -/
theorem foldl_visit_append (f : Cursor → List α) : ∀ (xs : List (Phase × Cursor)) (acc : List α),
    xs.foldl (Visitor.visit ⟨fun c out => out ++ f c, fun _ out => out⟩) acc =
      acc ++ (entered xs).flatMap f
  | [], acc => by simp [entered]
  | (.entering, c) :: xs, acc => by
      rw [List.foldl_cons, foldl_visit_append f xs]
      simp [Visitor.visit, entered]
  | (.leaving, c) :: xs, acc => by
      rw [List.foldl_cons, foldl_visit_append f xs]
      simp [Visitor.visit, entered]

theorem walk_append (f : Cursor → List α) (root : Node) :
    walk ⟨fun c out => out ++ f c, fun _ out => out⟩ root [] = (places root).flatMap f := by
  rw [walk_eq_foldl_visits, foldl_visit_append, entered_visits, List.nil_append, places]

end Cursor

theorem Usage.collect_eq_flatMap (source : List Char) (root : Node) :
    collect source root = (Cursor.places root).flatMap (ofNode source) := by
  rw [← Cursor.walk_append]
  refine Cursor.walk_congr (fun c hc usages => ?_) []
  rw [ParentMap.parent?_ofTree hc]

theorem Cursor.isConstantFetch_congr {c c' : Cursor} (hnode : c.node = c'.node)
    (habove : c.above.head? = c'.above.head?) : c.isConstantFetch = c'.isConstantFetch := by
  obtain ⟨n, above⟩ := c
  obtain ⟨n', above'⟩ := c'
  obtain rfl : n = n' := hnode
  rcases above with _ | ⟨f, up⟩ <;> rcases above' with _ | ⟨f', up'⟩
  · rfl
  · cases habove
  · cases habove
  · obtain rfl : f = f' := Option.some.inj habove
    rfl

/-- What a place makes depends on its node, with all below it, and on its parent and siblings. -/
theorem Usage.ofNode_congr (source : List Char) {c c' : Cursor} (hnode : c.node = c'.node)
    (habove : c.above.head? = c'.above.head?) : ofNode source c = ofNode source c' := by
  rw [ofNode, ofNode, Reference.ofNode, Reference.ofNode, hnode,
    Cursor.isConstantFetch_congr hnode habove]

/-- A call that registers a callback makes a usage of the hook, and then one of the function. -/
theorem Usage.ofNode_registration {source : List Char} {c : Cursor} {name label : String}
    {family : HookFamily} (hcall : c.node.construct = .functionCall)
    (hname : c.node.callee? source = some name) (hfamily : HookFamily.registeredBy? name = some family)
    (hlabel : c.node.firstString? source = some label) :
    ofNode source c =
      [⟨.hook family label, c.node.line source⟩, ⟨.function name, c.node.line source⟩] := by
  simp only [ofNode, Reference.ofNode, hcall, Reference.ofCall, hname, hfamily, hlabel, List.map_cons,
    List.map_nil]

/-! ### Lines -/

namespace Text

theorem takeBytes_mono : ∀ {m n : Nat} (cs : List Char), m ≤ n → takeBytes m cs <+: takeBytes n cs
  | _, _, [], _ => List.prefix_rfl
  | m, n, c :: cs, h => by
      unfold takeBytes
      by_cases hm : m = 0
      · rw [if_pos hm]
        exact List.nil_prefix
      · rw [if_neg hm, if_neg (by omega), List.cons_prefix_cons]
        exact ⟨rfl, takeBytes_mono cs (by omega)⟩

end Text

theorem Node.line_le (source : List Char) {n m : Node} (h : n.start ≤ m.start) :
    n.line source ≤ m.line source := by
  have hcount := ((Text.takeBytes_mono source h).sublist).count_le '\n'
  unfold line
  omega

/-! ### Nested spans -/

namespace Node

/-- The spans of a node's children lie inside its own, one behind the other. -/
def SpansChildren (n : Node) : Prop :=
  (∀ c ∈ n.children, n.start ≤ c.start ∧ c.start ≤ c.stop ∧ c.stop ≤ n.stop) ∧
    n.children.Pairwise (fun a b => a.stop ≤ b.start)

instance (n : Node) : Decidable n.SpansChildren := inferInstanceAs (Decidable (_ ∧ _))

/-- A tree whose spans are nested. -/
def Nested (root : Node) : Prop := ∀ c ∈ Cursor.places root, c.node.SpansChildren

instance (root : Node) : Decidable root.Nested :=
  inferInstanceAs (Decidable (∀ c ∈ Cursor.places root, c.node.SpansChildren))

end Node

namespace Cursor

/-- Places that start in this order, all between two bounds. -/
structure InOrder (cs : List Cursor) (low high : Nat) : Prop where
  pairwise : cs.Pairwise (fun a b => a.node.start ≤ b.node.start)
  bounds : ∀ c ∈ cs, low ≤ c.node.start ∧ c.node.start ≤ high

namespace InOrder

variable {cs ds : List Cursor} {low mid high : Nat}

theorem nil (low high : Nat) : InOrder [] low high :=
  ⟨.nil, fun _ hc => absurd hc List.not_mem_nil⟩

theorem append (hcs : InOrder cs low mid) (hds : InOrder ds mid high) (hlow : low ≤ mid)
    (hhigh : mid ≤ high) : InOrder (cs ++ ds) low high := by
  constructor
  · refine List.pairwise_append.mpr ⟨hcs.pairwise, hds.pairwise, fun c hc d hd => ?_⟩
    exact Nat.le_trans (hcs.bounds c hc).2 (hds.bounds d hd).1
  · intro c hc
    rcases List.mem_append.mp hc with hc | hc
    · have := hcs.bounds c hc
      omega
    · have := hds.bounds c hc
      omega

theorem weaken (hcs : InOrder cs mid high) (h : low ≤ mid) : InOrder cs low high :=
  ⟨hcs.pairwise, fun c hc => ⟨Nat.le_trans h (hcs.bounds c hc).1, (hcs.bounds c hc).2⟩⟩

theorem cons {c : Cursor} (hcs : InOrder cs low high) (hc : c.node.start = low) (h : low ≤ high) :
    InOrder (c :: cs) low high := by
  constructor
  · refine List.pairwise_cons.mpr ⟨fun d hd => ?_, hcs.pairwise⟩
    rw [hc]
    exact (hcs.bounds d hd).1
  · refine List.forall_mem_cons.mpr ⟨?_, hcs.bounds⟩
    omega

end InOrder

/-- The places of a subtree start in pre-order, between the bounds of its span. -/
def StartsInOrder (n : Node) : Prop :=
  ∀ above, (∀ c ∈ placesFrom n above, c.node.SpansChildren) → n.start ≤ n.stop →
    InOrder (placesFrom n above) n.start n.stop

theorem inOrder_among (parent : Node) (up : List Frame) (high : Nat) :
    ∀ (ns before : List Node) (low : Nat), (∀ n ∈ ns, StartsInOrder n) →
      (∀ c ∈ placesAmong parent before ns up, c.node.SpansChildren) →
      (∀ n ∈ ns, low ≤ n.start ∧ n.start ≤ n.stop ∧ n.stop ≤ high) →
      ns.Pairwise (fun a b => a.stop ≤ b.start) →
        InOrder (placesAmong parent before ns up) low high
  | [], before, low, _, _, _, _ => by
      rw [placesAmong]
      exact .nil low high
  | n :: rest, before, low, hns, hspans, hinside, hordered => by
      rw [placesAmong] at hspans ⊢
      obtain ⟨hn, hrest⟩ := List.forall_mem_cons.mp hns
      obtain ⟨⟨hlow, hspan, hhigh⟩, hinside⟩ := List.forall_mem_cons.mp hinside
      obtain ⟨hbehind, hordered⟩ := List.pairwise_cons.mp hordered
      have hfirst := hn _ (fun c hc => hspans c (List.mem_append_left _ hc)) hspan
      have hothers := inOrder_among parent up high rest (n :: before) n.stop hrest
        (fun c hc => hspans c (List.mem_append_right _ hc))
        (fun m hm => ⟨hbehind m hm, (hinside m hm).2⟩) hordered
      exact (hfirst.weaken hlow).append hothers (Nat.le_trans hlow hspan) hhigh

theorem startsInOrder (n : Node) : StartsInOrder n := by
  induction n using Node.induction with
  | step n ih =>
      intro above hspans hspan
      rw [placesFrom_eq] at hspans ⊢
      obtain ⟨⟨hinside, hordered⟩, hbelow⟩ := List.forall_mem_cons.mp hspans
      exact (inOrder_among n above n.stop n.children [] n.start ih hbelow hinside hordered).cons rfl
        hspan

/-- The places of a tree with nested spans start in the order of the source. -/
theorem pairwise_start_places {root : Node} (h : root.Nested) :
    (places root).Pairwise (fun a b => a.node.start ≤ b.node.start) := by
  by_cases hspan : root.start ≤ root.stop
  · exact (startsInOrder root [] h hspan).pairwise
  · -- the span of a root is needed only if something lies inside it
    have hroot : root.SpansChildren := h ⟨root, []⟩ (by rw [places, placesFrom_eq]; exact List.mem_cons_self)
    have hleaf : root.children = [] := by
      refine List.eq_nil_iff_forall_not_mem.mpr (fun c hc => ?_)
      have := hroot.1 c hc
      omega
    rw [places, placesFrom_eq, hleaf, placesAmong]
    exact List.pairwise_singleton _ _

end Cursor

theorem Usage.line_of_mem_ofNode {source : List Char} {c : Cursor} {u : Usage}
    (h : u ∈ ofNode source c) : u.line = c.node.line source := by
  obtain ⟨r, _, rfl⟩ := List.mem_map.mp h
  rfl

theorem Usage.pairwise_line_collect (source : List Char) {root : Node} (h : root.Nested) :
    (collect source root).Pairwise (fun u v => u.line ≤ v.line) := by
  rw [collect_eq_flatMap, List.pairwise_flatMap]
  constructor
  · intro c _
    rw [ofNode, List.pairwise_map]
    exact List.pairwise_of_forall (fun _ _ => Nat.le_refl _)
  · refine (Cursor.pairwise_start_places h).imp (fun hstart u hu v hv => ?_)
    rw [line_of_mem_ofNode hu, line_of_mem_ofNode hv]
    exact Node.line_le source hstart

/-! ### Names that are no constants -/

namespace Cursor

/-- Nodes whose children are the parts of one name. -/
def isNameOfParts (kind : String) : Bool :=
  kind == "qualified_name" || kind == "relative_name" || kind == "namespace_name"

/-- A name at the place `c`, below `p`, says something else than the constant to read. -/
inductive NamesOther (c p : Cursor) : Prop where
  /-- The function of a call. -/
  | callee (hparent : p.node.kind = "function_call_expression") (h : c.fills "function" = true)
  /-- The class of a new object. -/
  | created (hparent : p.node.kind = "object_creation_expression")
  /-- Either side of the colons in a call of a class, or in a constant of one. -/
  | member (hparent : p.node.kind = "scoped_call_expression" ∨
      p.node.kind = "class_constant_access_expression")
  /-- A part of a longer name. -/
  | part (hparent : isNameOfParts p.node.kind = true)
  /-- The name that an element of a `const` declaration declares. -/
  | declared (hparent : p.node.kind = "const_element") (h : c.isFirstNamed = true)
  /-- The label of an argument. -/
  | label (hparent : p.node.kind = "argument") (h : c.fills "name" = true)

theorem isConstantFetch_eq_false {c p : Cursor} (hp : c.parent? = some p) (h : NamesOther c p) :
    c.isConstantFetch = false := by
  unfold isConstantFetch
  rw [hp]
  cases h with
  | callee hparent _ => simp [hparent, valueContexts]
  | created hparent => simp [hparent, valueContexts]
  | member hparent => rcases hparent with hparent | hparent <;> simp [hparent, valueContexts]
  | part hparent =>
      simp only [isNameOfParts, Bool.or_eq_true, beq_iff_eq] at hparent
      rcases hparent with (hparent | hparent) | hparent <;> simp [hparent, valueContexts]
  | declared hparent h => simp [hparent, valueContexts, h]
  | label hparent h => simp [hparent, h]

end Cursor

theorem Usage.ofNode_eq_nil {source : List Char} {c p : Cursor}
    (hname : c.node.construct = .name ∨ c.node.construct = .qualifiedName) (hp : c.parent? = some p)
    (h : Cursor.NamesOther c p) : ofNode source c = [] := by
  have hfetch := Cursor.isConstantFetch_eq_false hp h
  rcases hname with hname | hname <;> simp [ofNode, Reference.ofNode, hname, hfetch]

/-! ### Extraction -/

namespace Scanner

theorem run_extract {grammar : Grammar} {text : String} {root : Node} (h : grammar text = .ok root)
    (σ : Session) : ((extract grammar text).run σ).1 = .ok (Usage.collect text.toList root) := by
  simp only [extract, h]
  rfl

/-- **Usages stand in the order of the source.**  The usages of a text are, for every tree that it may
have, those of the tree's places one after the other in pre-order.  What a place makes depends on its
node and on its parent and siblings, and a call that registers a callback makes the usage of the hook
before that of the function.  If the spans of the tree are nested, the lines never decrease.  No name is
taken for a constant that is the function of a call, the class of a new object, part of a call or
constant of a class, part of a longer name, the name of a constant that is declared, or the label of an
argument. -/
theorem extract_in_source_order (grammar : Grammar) (text : String) {root : Node}
    (hroot : grammar text = .ok root) (σ : Session) :
    ∃ usages, ((extract grammar text).run σ).1 = .ok usages ∧
      usages = (Cursor.places root).flatMap (Usage.ofNode text.toList) ∧
      (∀ c c' : Cursor, c.node = c'.node → c.above.head? = c'.above.head? →
        Usage.ofNode text.toList c = Usage.ofNode text.toList c') ∧
      (∀ c ∈ Cursor.places root, ∀ name family label, c.node.construct = .functionCall →
        c.node.callee? text.toList = some name → HookFamily.registeredBy? name = some family →
        c.node.firstString? text.toList = some label →
          Usage.ofNode text.toList c = [⟨.hook family label, c.node.line text.toList⟩,
            ⟨.function name, c.node.line text.toList⟩]) ∧
      (root.Nested → usages.Pairwise (fun u v => u.line ≤ v.line)) ∧
      (∀ c ∈ Cursor.places root, ∀ p, c.parent? = some p →
        (c.node.construct = .name ∨ c.node.construct = .qualifiedName) → Cursor.NamesOther c p →
          Usage.ofNode text.toList c = []) := by
  refine ⟨_, run_extract hroot σ, Usage.collect_eq_flatMap _ root, ?_, ?_, ?_, ?_⟩
  · exact fun _ _ hnode habove => Usage.ofNode_congr _ hnode habove
  · exact fun _ _ _ _ _ hcall hname hfamily hlabel =>
      Usage.ofNode_registration hcall hname hfamily hlabel
  · exact fun hnested => Usage.pairwise_line_collect _ hnested
  · exact fun _ _ _ hp hname hother => Usage.ofNode_eq_nil hname hp hother

/-- A registration and, on the next line, a new object with a labelled argument. -/
def registrationTree : Node :=
  ⟨"program", true, "", 0, 29,
    [⟨"function_call_expression", true, "", 0, 17,
      [⟨"name", true, "function", 0, 10, []⟩,
        ⟨"arguments", true, "arguments", 10, 17,
          [⟨"argument", true, "", 11, 14, [⟨"string", true, "", 11, 14, []⟩]⟩,
            ⟨"argument", true, "", 15, 16, [⟨"name", true, "", 15, 16, []⟩]⟩]⟩]⟩,
      ⟨"object_creation_expression", true, "", 19, 29,
        [⟨"new", false, "", 19, 22, []⟩, ⟨"name", true, "", 23, 24, []⟩,
          ⟨"arguments", true, "", 24, 29,
            [⟨"argument", true, "", 25, 28,
              [⟨"name", true, "name", 25, 26, []⟩, ⟨"name", true, "", 27, 28, []⟩]⟩]⟩]⟩]⟩

theorem extract_in_source_order_registration :
    registrationTree.Nested ∧
      ∃ usages, ((extract (fun _ => .ok registrationTree) "add_action('i',A);\nnew B(c:D)").run
          (Session.start ⟨.empty, []⟩)).1 = .ok usages ∧
        usages = [⟨.hook .action "i", 1⟩, ⟨.function "add_action", 1⟩, ⟨.constant "A", 1⟩,
          ⟨.classType "B", 2⟩, ⟨.constant "D", 2⟩] ∧
        usages.Pairwise (fun u v => u.line ≤ v.line) := by
  have hnested : registrationTree.Nested := by decide +kernel
  obtain ⟨usages, hrun, husages, _, _, hlines, _⟩ := extract_in_source_order
    (fun _ => .ok registrationTree) "add_action('i',A);\nnew B(c:D)" rfl (Session.start ⟨.empty, []⟩)
  refine ⟨hnested, usages, hrun, ?_, hlines hnested⟩
  rw [husages]
  decide +kernel

end Scanner

end RequiredVersion
