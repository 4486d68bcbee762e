import RequiredVersion.Proofs.CommentedTrees
import RequiredVersion.Proofs.UsageOrder

/-! # References in a tree with comments

A tree with comments put in makes the references of the tree without them, as long as the parts that are
found by their position keep it (`Reference.sameReferences`).  What a node makes by itself is the same
(`Reference.ofNode_commented`), given that a name is read as a constant in both trees or in none.  That
depends on the siblings before it, so two lists of siblings are gone through side by side: `Cursor.Abreast`
says what they have in common so far.

A comment that comes before the class of a new object hides the class
(`Reference.ofNode_objectCreation_eq_iff`). -/

namespace RequiredVersion

/-! ### Names among siblings -/

namespace Cursor

open Node

/-- Two nodes with some of their children gone through, `before` backwards, and the others still to
come.  Comments put in between are not looked at by fields, and what they push back is the first named
child only. -/
structure Abreast (n n' : Node) (before before' ns ns' : List Node) : Prop where
  children : n.children = before.reverse ++ ns
  children' : n'.children = before'.reverse ++ ns'
  fields : ∀ field, field ≠ "" →
    before'.all (fun b => b.field != field) = before.all (fun b => b.field != field)
  unnamed : before'.all (fun b => !b.named) = true → before.all (fun b => !b.named) = true
  pushed : before.all (fun b => !b.named) = true → before'.all (fun b => !b.named) = false →
    n'.StartsWithComment

theorem firstNamed?_of_unnamed {n m : Node} {before ns : List Node}
    (hchildren : n.children = before.reverse ++ m :: ns)
    (hbefore : before.all (fun b => !b.named) = true) (hm : m.named = true) :
    n.firstNamed? = some m := by
  have hnone : before.reverse.filter (·.named) = [] := by
    rw [List.filter_eq_nil_iff]
    intro b hb
    simpa using List.all_eq_true.mp hbefore b (List.mem_reverse.mp hb)
  rw [firstNamed?, namedChildren, hchildren, List.filter_append, hnone, List.nil_append,
    List.filter_cons_of_pos hm]
  rfl

namespace Abreast

variable {n n' m m' k : Node} {before before' ns ns' : List Node}

theorem start (n n' : Node) : Abreast n n' [] [] n.children n'.children where
  children := rfl
  children' := rfl
  fields _ _ := rfl
  unnamed _ := rfl
  pushed _ h := by cases h

theorem cons (h : Abreast n n' before before' (m :: ns) (m' :: ns')) (hm : Alike m m') :
    Abreast n n' (m :: before) (m' :: before') ns ns' where
  children := by rw [h.children, List.reverse_cons, List.append_assoc]; rfl
  children' := by rw [h.children', List.reverse_cons, List.append_assoc]; rfl
  fields field hfield := by
    rw [List.all_cons, List.all_cons, h.fields field hfield, hm.field]
  unnamed := by
    simp only [List.all_cons, Bool.and_eq_true, hm.named]
    exact fun hall => ⟨hall.1, h.unnamed hall.2⟩
  pushed := by
    simp only [List.all_cons, Bool.and_eq_true, Bool.and_eq_false_iff, hm.named]
    rintro ⟨hunnamed, hall⟩ (hnamed | hall')
    · rw [hunnamed] at hnamed
      cases hnamed
    · exact h.pushed hall hall'

theorem comment (h : Abreast n n' before before' ns (k :: ns')) (hk : k.IsComment) :
    Abreast n n' before (k :: before') ns ns' where
  children := h.children
  children' := by rw [h.children', List.reverse_cons, List.append_assoc]; rfl
  fields field hfield := by
    have hother : (k.field != field) = true := by
      rw [hk.field]
      exact bne_iff_ne.mpr hfield.symm
    rw [List.all_cons, hother, Bool.true_and, h.fields field hfield]
  unnamed := by
    rw [List.all_cons, hk.named]
    intro hall
    cases hall
  pushed hall _ := by
    cases hall' : before'.all (fun b => !b.named) with
    | true =>
        exact startsWithComment_iff.mpr
          ⟨k, firstNamed?_of_unnamed h.children' hall' hk.named, hk.kind⟩
    | false => exact h.pushed hall hall'

theorem isFirstNamed_eq (h : Abreast n n' before before' (m :: ns) (m' :: ns')) (hm : Alike m m')
    (hname : m.kind ≠ "comment") (hfirst : n'.StartsWithComment → n.StartsWithComment) :
    (m'.named && before'.all (fun b => !b.named)) = (m.named && before.all (fun b => !b.named)) := by
  rw [hm.named]
  cases hnamed : m.named with
  | false => rfl
  | true =>
      rw [Bool.true_and, Bool.true_and, Bool.eq_iff_iff]
      refine ⟨h.unnamed, fun hall => ?_⟩
      by_contra hall'
      obtain ⟨k, hk, hkind⟩ :=
        startsWithComment_iff.mp (hfirst (h.pushed hall (Bool.eq_false_iff.mpr hall')))
      rw [firstNamed?_of_unnamed h.children hall hnamed] at hk
      exact hname (Option.some.inj hk ▸ hkind)

/-- A name is read as a constant behind comments exactly if it is without them. -/
theorem isConstantFetch_eq (h : Abreast n n' before before' (m :: ns) (m' :: ns')) (hm : Alike m m')
    (hname : m.kind ≠ "comment") (hkind : n'.kind = n.kind)
    (hfirst : readsFirst n.construct = true → n'.StartsWithComment → n.StartsWithComment)
    (up up' : List Frame) :
    isConstantFetch ⟨m', ⟨n', before', ns'⟩ :: up'⟩ = isConstantFetch ⟨m, ⟨n, before, ns⟩ :: up⟩ := by
  have hfills : ∀ field, field ≠ "" → fills ⟨m', ⟨n', before', ns'⟩ :: up'⟩ field =
      fills ⟨m, ⟨n, before, ns⟩ :: up⟩ field := by
    intro field hfield
    simp only [fills, Cursor.before, hm.field, h.fields field hfield, List.isEmpty_cons]
  unfold isConstantFetch
  simp only [parent?, hkind, hfills "name" (by decide), hfills "default_value" (by decide)]
  by_cases hconst : n.kind = "const_element"
  · have hreads : readsFirst n.construct = true := by
      rw [Node.construct, hconst]
      rfl
    have hnamed := h.isFirstNamed_eq hm hname (hfirst hreads)
    simp only [isFirstNamed, Cursor.before, List.isEmpty_cons, Bool.not_false, Bool.true_and, hnamed]
  · simp only [if_neg hconst]

end Abreast

end Cursor

/-! ### References behind comments -/

namespace Reference

open Node Cursor

variable {source source' : List Char} {n n' : Node}

theorem methodName?_eq {keeps : Node → Node → Prop} (h : Commented source source' keeps n n') :
    methodName? source' n' = methodName? source n := by
  have hrel := h.childByField? (show "name" ≠ "" by decide)
  rw [methodName?, methodName?]
  generalize n.childByField? "name" = name at hrel ⊢
  generalize n'.childByField? "name" = name' at hrel ⊢
  cases hrel with
  | none => rfl
  | some hname =>
      dsimp only
      rw [hname.construct_eq]
      split
      · next hconstruct =>
          rw [Node.text, Node.text, hname.chars_eq (isWord_of_construct (.inl hconstruct))]
      · rfl

theorem ofCall_eq (h : Commented source source' (KeepsEnds source source') n n') :
    ofCall source' n' = ofCall source n := by
  rw [ofCall, ofCall, h.callee?_eq, h.firstString?_eq]

theorem ofClassConstant_eq (h : Commented source source' (KeepsEnds source source') n n')
    (hconstruct : n.construct = .classConstantAccess) :
    ofClassConstant source' n' = ofClassConstant source n := by
  have hfirst := h.bind_staticName?_firstNamed? (h.kept.first (by rw [hconstruct]; rfl))
  have hlast := h.kept.constant hconstruct
  rw [ofClassConstant, ofClassConstant, hfirst]
  cases n.firstNamed?.bind (·.staticName? source) with
  | none => rfl
  | some owner =>
      generalize n.lastNamed? = last at hlast ⊢
      generalize n'.lastNamed? = last' at hlast ⊢
      cases last <;> cases last'
      · rfl
      · cases hlast
      · cases hlast
      · rw [Option.map_some, Option.map_some, Option.some.injEq] at hlast
        simp only [hlast]

/-- A node with comments put in makes the references that it made, if it is read as a constant in the
same way. -/
theorem ofNode_commented (h : Commented source source' (KeepsEnds source source') n n')
    {above above' : List Frame}
    (hfetch : n.construct = .name ∨ n.construct = .qualifiedName →
      isConstantFetch ⟨n', above'⟩ = isConstantFetch ⟨n, above⟩) :
    ofNode source' ⟨n', above'⟩ = ofNode source ⟨n, above⟩ := by
  have hstatic := h.staticName?_eq n n'
  rw [ofNode, ofNode]
  dsimp only
  rw [h.construct_eq]
  cases hconstruct : n.construct with
  | functionCall => exact ofCall_eq h
  | objectCreation =>
      dsimp only
      rw [h.bind_staticName?_firstNamed? (h.kept.first (by rw [hconstruct]; rfl))]
  | memberCall =>
      dsimp only
      rw [methodName?_eq h]
  | scopedCall =>
      dsimp only
      rw [methodName?_eq h, bind_eq_of_rel Commented.staticName?_eq (h.childByField? (by decide))]
  | classConstantAccess => exact ofClassConstant_eq h hconstruct
  | name =>
      dsimp only
      rw [hfetch (.inl hconstruct), hstatic]
  | qualifiedName =>
      dsimp only
      rw [hfetch (.inr hconstruct), hstatic]
  | _ => rfl

theorem flatMap_ofNode_comment {k : Node} (hk : k.IsComment) (above : List Frame) :
    (placesFrom k above).flatMap (ofNode source) = [] := by
  have hconstruct : k.construct = .comment := by
    rw [Node.construct, hk.kind]
    rfl
  rw [placesFrom_eq, hk.children, placesAmong, List.flatMap_cons, List.flatMap_nil, List.append_nil,
    ofNode]
  dsimp only
  rw [hconstruct]

/-- The subtree at a node refers to the same with comments put in, wherever it stands. -/
def SameReferences (source source' : List Char) (n : Node) : Prop :=
  ∀ n', Commented source source' (KeepsEnds source source') n n' → ∀ above above',
    (n.construct = .name ∨ n.construct = .qualifiedName →
      isConstantFetch ⟨n', above'⟩ = isConstantFetch ⟨n, above⟩) →
    (placesFrom n' above').flatMap (ofNode source') = (placesFrom n above).flatMap (ofNode source)

theorem flatMap_ofNode_among (hkept : KeepsEnds source source' n n') (hkind : n'.kind = n.kind)
    (up up' : List Frame) {allowed : Bool} {ns ns' : List Node}
    (h : Interspersed (Commented source source' (KeepsEnds source source')) allowed ns ns')
    (hns : ∀ m ∈ ns, SameReferences source source' m) : ∀ {before before' : List Node},
      Abreast n n' before before' ns ns' →
        (placesAmong n' before' ns' up').flatMap (ofNode source') =
          (placesAmong n before ns up).flatMap (ofNode source) := by
  induction h with
  | nil =>
      intro before before' _
      rw [placesAmong, placesAmong, List.flatMap_nil, List.flatMap_nil]
  | @cons _ m m' ns ns' hm _ ih =>
      intro before before' habreast
      obtain ⟨hfirst, hrest⟩ := List.forall_mem_cons.mp hns
      have hfetch : m.construct = .name ∨ m.construct = .qualifiedName →
          isConstantFetch ⟨m', ⟨n', before', ns'⟩ :: up'⟩ =
            isConstantFetch ⟨m, ⟨n, before, ns⟩ :: up⟩ := by
        intro hname
        refine habreast.isConstantFetch_eq hm.alike (fun hcomment => ?_) hkind hkept.first up up'
        rw [Node.construct, hcomment] at hname
        rcases hname with hname | hname <;> cases hname
      rw [placesAmong, placesAmong, List.flatMap_append, List.flatMap_append, hfirst m' hm _ _ hfetch,
        ih hrest (habreast.cons hm.alike)]
  | comment hk _ ih =>
      intro before before' habreast
      rw [placesAmong, List.flatMap_append, flatMap_ofNode_comment hk, List.nil_append,
        ih hns (habreast.comment hk)]

theorem sameReferences (n : Node) : SameReferences source source' n := by
  induction n using Node.induction with
  | step n ih =>
      intro n' h above above' hfetch
      rw [placesFrom_eq, placesFrom_eq, List.flatMap_cons, List.flatMap_cons, ofNode_commented h hfetch,
        flatMap_ofNode_among h.kept h.alike.kind above above' h.interspersed ih (Abreast.start n n')]

theorem ofNode_objectCreation {source : List Char} {n : Node} (h : n.construct = .objectCreation)
    (above : List Frame) : ofNode source ⟨n, above⟩ =
      ((n.firstNamed?.bind (·.staticName? source)).map Reference.classType).toList := by
  rw [ofNode]
  dsimp only
  rw [h]

/-- The class of a new object is found behind comments exactly if none of them has come before it. -/
theorem ofNode_objectCreation_eq_iff {keeps : Node → Node → Prop}
    (h : Commented source source' keeps n n') (hconstruct : n.construct = .objectCreation)
    {name : String} (hname : n.firstNamed?.bind (·.staticName? source) = some name)
    (above above' : List Frame) :
    ofNode source' ⟨n', above'⟩ = ofNode source ⟨n, above⟩ ↔ ¬n'.StartsWithComment := by
  have hconstruct' : n'.construct = .objectCreation := h.construct_eq.trans hconstruct
  rw [ofNode_objectCreation hconstruct, ofNode_objectCreation hconstruct']
  constructor
  · intro heq hstarts
    obtain ⟨k, hk, hkind⟩ := startsWithComment_iff.mp hstarts
    rw [hk, Option.bind_some, staticName?_of_comment source' hkind, hname] at heq
    cases heq
  · intro hstarts
    rw [h.bind_staticName?_firstNamed? (fun hk => absurd hk hstarts)]

end Reference

/-! ### Extraction -/

theorem Usage.map_reference_collect (source : List Char) (root : Node) :
    (collect source root).map (·.reference) =
      (Cursor.placesFrom root []).flatMap (Reference.ofNode source) := by
  rw [collect_eq_flatMap, List.map_flatMap, Cursor.places]
  congr 1
  funext c
  rw [ofNode, List.map_map]
  exact List.map_id _

namespace Scanner

open Node

/-- **Comments that leave the ends of constructs alone hide nothing and add nothing.**  A text whose tree
is that of another text with comments put in makes the same references, if no comment comes before the
first named child or behind the last one where these are looked for.  At the class of a new object this
condition cannot be left out: with comments put in, a node that creates an object of a named class makes
the reference to the class exactly if no comment comes before it. -/
theorem extract_commented (grammar : Grammar) {text text' : String} {root root' : Node}
    (hroot : grammar text = .ok root) (hroot' : grammar text' = .ok root') (σ σ' : Session) :
    ∃ usages usages', ((extract grammar text).run σ).1 = .ok usages ∧
      ((extract grammar text').run σ').1 = .ok usages' ∧
      (Commented text.toList text'.toList (KeepsEnds text.toList text'.toList) root root' →
        usages'.map (·.reference) = usages.map (·.reference)) ∧
      (∀ n n' name above above', Commented text.toList text'.toList (fun _ _ => True) n n' →
        n.construct = .objectCreation → n.firstNamed?.bind (·.staticName? text.toList) = some name →
          (Reference.ofNode text'.toList ⟨n', above'⟩ = Reference.ofNode text.toList ⟨n, above⟩ ↔
            ¬n'.StartsWithComment)) := by
  refine ⟨_, _, run_extract hroot σ, run_extract hroot' σ', fun h => ?_, ?_⟩
  · rw [Usage.map_reference_collect, Usage.map_reference_collect]
    exact Reference.sameReferences root root' h [] [] (fun _ => rfl)
  · intro n n' name above above' h hconstruct hname
    exact Reference.ofNode_objectCreation_eq_iff h hconstruct hname above above'

/-- A new object, written with a comment behind its class and with one before it. -/
def newObject : Node :=
  ⟨"object_creation_expression", true, "", 0, 7,
    [⟨"new", false, "", 0, 3, []⟩, ⟨"name", true, "", 4, 5, []⟩, ⟨"arguments", true, "", 5, 7, []⟩]⟩

def newObjectCommented : Node :=
  ⟨"object_creation_expression", true, "", 0, 11,
    [⟨"new", false, "", 0, 3, []⟩, ⟨"name", true, "", 4, 5, []⟩, ⟨"comment", true, "", 5, 9, []⟩,
      ⟨"arguments", true, "", 9, 11, []⟩]⟩

def newObjectHidden : Node :=
  ⟨"object_creation_expression", true, "", 0, 11,
    [⟨"new", false, "", 0, 3, []⟩, ⟨"comment", true, "", 3, 7, []⟩, ⟨"name", true, "", 8, 9, []⟩,
      ⟨"arguments", true, "", 9, 11, []⟩]⟩

def newObjectGrammar : Grammar := fun text =>
  if text = "new F()" then .ok newObject
  else if text = "new F/**/()" then .ok newObjectCommented
  else .ok newObjectHidden

/-- A comment behind the class of a new object changes nothing, and one before it hides the class. -/
theorem extract_commented_new :
    Commented "new F()".toList "new F/**/()".toList
        (KeepsEnds "new F()".toList "new F/**/()".toList) newObject newObjectCommented ∧
      Commented "new F()".toList "new/**/ F()".toList (fun _ _ => True) newObject newObjectHidden ∧
      ∃ usages usages',
        ((extract newObjectGrammar "new F()").run (Session.start ⟨.empty, []⟩)).1 = .ok usages ∧
        ((extract newObjectGrammar "new F/**/()").run (Session.start ⟨.empty, []⟩)).1 = .ok usages' ∧
        usages'.map (·.reference) = usages.map (·.reference) ∧
        usages = [⟨.classType "F", 1⟩] ∧
        ((extract newObjectGrammar "new/**/ F()").run (Session.start ⟨.empty, []⟩)).1 = .ok [] := by
  have hopen : (!newObject.isWord) = true := by decide +kernel
  have hcommented : Commented "new F()".toList "new F/**/()".toList
      (KeepsEnds "new F()".toList "new F/**/()".toList) newObject newObjectCommented := by
    refine .intro rfl rfl rfl (by decide +kernel) (by decide +kernel) ?_
    rw [hopen]
    exact .cons (.intro rfl rfl rfl (by decide +kernel) (by decide +kernel) .nil)
      (.cons (.intro rfl rfl rfl (by decide +kernel) (by decide +kernel) .nil)
        (.comment ⟨rfl, rfl, rfl, rfl⟩
          (.cons (.intro rfl rfl rfl (by decide +kernel) (by decide +kernel) .nil) .nil)))
  have hhidden : Commented "new F()".toList "new/**/ F()".toList (fun _ _ => True) newObject
      newObjectHidden := by
    refine .intro rfl rfl rfl (by decide +kernel) trivial ?_
    rw [hopen]
    exact .cons (.intro rfl rfl rfl (by decide +kernel) trivial .nil)
      (.comment ⟨rfl, rfl, rfl, rfl⟩
        (.cons (.intro rfl rfl rfl (by decide +kernel) trivial .nil)
          (.cons (.intro rfl rfl rfl (by decide +kernel) trivial .nil) .nil)))
  have hparse : newObjectGrammar "new F()" = .ok newObject := rfl
  have hparse' : newObjectGrammar "new F/**/()" = .ok newObjectCommented := rfl
  have hparse'' : newObjectGrammar "new/**/ F()" = .ok newObjectHidden := rfl
  obtain ⟨usages, usages', hrun, hrun', hsame, _⟩ := extract_commented newObjectGrammar hparse hparse'
    (Session.start ⟨.empty, []⟩) (Session.start ⟨.empty, []⟩)
  have husages : usages = Usage.collect "new F()".toList newObject :=
    Except.ok.inj (hrun.symm.trans (run_extract hparse _))
  refine ⟨hcommented, hhidden, usages, usages', hrun, hrun', hsame hcommented, ?_, ?_⟩
  · rw [husages]
    decide +kernel
  · rw [run_extract hparse'']
    have hnone : Usage.collect "new/**/ F()".toList newObjectHidden = [] := by decide +kernel
    rw [hnone]

end Scanner

end RequiredVersion
