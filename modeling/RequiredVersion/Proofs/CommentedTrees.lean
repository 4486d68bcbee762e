import Mathlib.Data.List.Forall2
import RequiredVersion.Tree.Construct

/-! # Comments in a tree

A comment may stand between any two tokens, and it is a named node like any other.  `Node.Commented` says
that one tree is another one with comments put in among the children of its nodes; names and string
literals are left alone, and their texts stay the same while their spans may move.

The parts of a construct that are found by a field are found behind any comments
(`Commented.childByField?`).  Those that are found by their position, as the first or the last named
child, are so only if no comment takes their place: `Node.KeepsEnds` says that none does. -/

namespace RequiredVersion

namespace Node

/-! ### Trees with comments put in -/

/-- The nodes whose text is read: names and string literals. -/
def isWord (n : Node) : Bool :=
  match n.construct with
  | .name | .qualifiedName => true
  | _ => n.kind == "string" || n.kind == "encapsed_string"

/-- A comment: a named leaf that fills no field. -/
structure IsComment (n : Node) : Prop where
  kind : n.kind = "comment"
  named : n.named = true
  field : n.field = ""
  children : n.children = []

/-- Nodes related one by one, with comments put in among them if that is allowed. -/
inductive Interspersed (R : Node → Node → Prop) : (allowed : Bool) → List Node → List Node → Prop where
  | nil {allowed : Bool} : Interspersed R allowed [] []
  | cons {allowed : Bool} {n n' : Node} {ns ns' : List Node} (h : R n n')
      (hs : Interspersed R allowed ns ns') : Interspersed R allowed (n :: ns) (n' :: ns')
  | comment {k : Node} {ns ns' : List Node} (hk : k.IsComment) (hs : Interspersed R true ns ns') :
      Interspersed R true ns (k :: ns')

/-- The node `n'`, read from `source'`, is the node `n`, read from `source`, with comments put in
anywhere below it but among the children of names and string literals.  The texts of these stay the
same.  Every node and what it has become satisfy `keeps`. -/
inductive Commented (source source' : List Char) (keeps : Node → Node → Prop) : Node → Node → Prop where
  | intro {n n' : Node} (kind : n'.kind = n.kind) (named : n'.named = n.named)
      (field : n'.field = n.field)
      (text : n.isWord = true → n'.chars source' = n.chars source) (kept : keeps n n')
      (children : Interspersed (Commented source source' keeps) (!n.isWord) n.children
        n'.children) :
      Commented source source' keeps n n'

/-- Nodes that differ in their spans and in what is below them alone. -/
structure Alike (n n' : Node) : Prop where
  kind : n'.kind = n.kind
  named : n'.named = n.named
  field : n'.field = n.field

theorem Commented.alike {source source' : List Char} {keeps : Node → Node → Prop} (n n' : Node)
    (h : Commented source source' keeps n n') : Alike n n' := by
  cases h with
  | intro kind named field => exact ⟨kind, named, field⟩

/-- The first named child of a node is a comment. -/
def StartsWithComment (n : Node) : Prop := n.firstNamed?.map (·.kind) = some "comment"

/-- The last named child of a node is a comment. -/
def EndsWithComment (n : Node) : Prop := n.lastNamed?.map (·.kind) = some "comment"

instance (n : Node) : Decidable n.StartsWithComment := inferInstanceAs (Decidable (_ = _))

instance (n : Node) : Decidable n.EndsWithComment := inferInstanceAs (Decidable (_ = _))

theorem startsWithComment_iff {n : Node} :
    n.StartsWithComment ↔ ∃ k, n.firstNamed? = some k ∧ k.kind = "comment" := Option.map_eq_some_iff

theorem endsWithComment_iff {n : Node} :
    n.EndsWithComment ↔ ∃ k, n.lastNamed? = some k ∧ k.kind = "comment" := Option.map_eq_some_iff

/-- The constructs of which a part is found as the first named child. -/
def readsFirst : Construct → Bool
  | .objectCreation | .classConstantAccess | .constElement => true
  | _ => false

/-- The parts of a node that are found by their position keep it: no comment comes before the first
named child or behind the last one where these are looked for, and the constant of a class keeps its
text. -/
structure KeepsEnds (source source' : List Char) (n n' : Node) : Prop where
  first : readsFirst n.construct = true → n'.StartsWithComment → n.StartsWithComment
  last : n.kind = "argument" → n'.EndsWithComment → n.EndsWithComment
  constant : n.construct = .classConstantAccess →
    n'.lastNamed?.map (·.chars source') = n.lastNamed?.map (·.chars source)

instance (source source' : List Char) (n n' : Node) : Decidable (KeepsEnds source source' n n') :=
  decidable_of_iff
    ((readsFirst n.construct = true → n'.StartsWithComment → n.StartsWithComment) ∧
      (n.kind = "argument" → n'.EndsWithComment → n.EndsWithComment) ∧
      (n.construct = .classConstantAccess →
        n'.lastNamed?.map (·.chars source') = n.lastNamed?.map (·.chars source)))
    ⟨fun h => ⟨h.1, h.2.1, h.2.2⟩, fun h => ⟨h.first, h.last, h.constant⟩⟩

/-! ### Children behind comments -/

namespace Interspersed

variable {R : Node → Node → Prop} {allowed : Bool} {ns ns' : List Node}

theorem find?_field (hR : ∀ n n', R n n' → Alike n n') {field : String} (hfield : field ≠ "")
    (h : Interspersed R allowed ns ns') :
    Option.Rel R (ns.find? (fun c => c.field == field)) (ns'.find? (fun c => c.field == field)) := by
  induction h with
  | nil => exact .none
  | @cons _ n _ _ _ hn _ ih =>
      rw [List.find?_cons, List.find?_cons, (hR _ _ hn).field]
      cases n.field == field with
      | true => exact .some hn
      | false => exact ih
  | @comment k _ _ hk _ ih =>
      have hskip : (k.field == field) = false := by
        rw [hk.field]
        exact beq_eq_false_iff_ne.mpr hfield.symm
      rw [List.find?_cons, hskip]
      exact ih

theorem filter_named (hR : ∀ n n', R n n' → Alike n n') (h : Interspersed R allowed ns ns') :
    Interspersed R allowed (ns.filter (·.named)) (ns'.filter (·.named)) := by
  induction h with
  | nil => exact .nil
  | cons hn _ ih =>
      rw [List.filter_cons, List.filter_cons, (hR _ _ hn).named]
      split
      · exact .cons hn ih
      · exact ih
  | comment hk _ ih =>
      rw [List.filter_cons_of_pos hk.named]
      exact .comment hk ih

theorem head?_rel (h : Interspersed R allowed ns ns') :
    (∃ k, ns'.head? = some k ∧ k.kind = "comment") ∨ Option.Rel R ns.head? ns'.head? := by
  cases h with
  | nil => exact .inr .none
  | cons hn _ => exact .inr (.some hn)
  | comment hk _ => exact .inl ⟨_, rfl, hk.kind⟩

theorem getLast?_rel (h : Interspersed R allowed ns ns') :
    (∃ k, ns'.getLast? = some k ∧ k.kind = "comment") ∨ Option.Rel R ns.getLast? ns'.getLast? := by
  induction h with
  | nil => exact .inr .none
  | @cons _ n n' ns ns' hn _ ih =>
      rw [List.getLast?_cons, List.getLast?_cons]
      rcases ih with ⟨k, hk, hkind⟩ | ih
      · rw [hk]
        exact .inl ⟨k, rfl, hkind⟩
      · right
        generalize ns.getLast? = last at ih ⊢
        generalize ns'.getLast? = last' at ih ⊢
        cases ih with
        | none => exact .some hn
        | some hlast => exact .some hlast
  | @comment k ns ns' hk _ ih =>
      rw [List.getLast?_cons]
      rcases ih with ⟨j, hj, hkind⟩ | ih
      · rw [hj]
        exact .inl ⟨j, rfl, hkind⟩
      · generalize ns.getLast? = last at ih ⊢
        generalize ns'.getLast? = last' at ih ⊢
        cases ih with
        | none => exact .inl ⟨k, rfl, hk.kind⟩
        | some hlast => exact .inr (.some hlast)

theorem filter_arguments (hR : ∀ n n', R n n' → Alike n n') (h : Interspersed R allowed ns ns') :
    List.Forall₂ (fun a a' => R a a' ∧ a.kind = "argument")
      (ns.filter (fun a => a.kind == "argument")) (ns'.filter (fun a => a.kind == "argument")) := by
  induction h with
  | nil => exact .nil
  | cons hn _ ih =>
      rw [List.filter_cons, List.filter_cons, (hR _ _ hn).kind]
      split
      · next hkind => exact .cons ⟨hn, beq_iff_eq.mp hkind⟩ ih
      · exact ih
  | comment hk _ ih =>
      rw [List.filter_cons_of_neg (by rw [hk.kind]; decide)]
      exact ih

/-- Where no comment may be put in, the nodes are of the kinds they were. -/
theorem map_kind (hR : ∀ n n', R n n' → Alike n n') (hallowed : allowed = false)
    (h : Interspersed R allowed ns ns') : ns'.map (·.kind) = ns.map (·.kind) := by
  induction h with
  | nil => rfl
  | cons hn _ ih => rw [List.map_cons, List.map_cons, (hR _ _ hn).kind, ih hallowed]
  | comment => cases hallowed

end Interspersed

/-! ### What is read off a node -/

theorem isWord_of_construct {n : Node} (h : n.construct = .name ∨ n.construct = .qualifiedName) :
    n.isWord = true := by
  rcases h with h | h <;> rw [isWord, h]

theorem isWord_of_kind {n : Node} (h : n.kind = "string" ∨ n.kind = "encapsed_string") :
    n.isWord = true := by
  rcases h with h | h <;> rw [isWord, construct, h] <;> decide

theorem staticName?_of_comment {n : Node} (source : List Char) (h : n.kind = "comment") :
    n.staticName? source = none := by
  rw [staticName?, construct, h]
  rfl

theorem stringLiteral?_of_comment {n : Node} (source : List Char) (h : n.kind = "comment") :
    n.stringLiteral? source = none := by
  rw [stringLiteral?, h]
  rfl

/-- What is read in the same way off related nodes is read in the same way off nodes that are both
missing or related. -/
theorem bind_eq_of_rel {α : Type} {R : Node → Node → Prop} {f f' : Node → Option α}
    (h : ∀ n n', R n n' → f' n' = f n) {o o' : Option Node} (ho : Option.Rel R o o') :
    o'.bind f' = o.bind f := by
  cases ho with
  | none => rfl
  | some hn => exact h _ _ hn

namespace Commented

variable {source source' : List Char} {keeps : Node → Node → Prop} {n n' : Node}

theorem construct_eq (h : Commented source source' keeps n n') : n'.construct = n.construct := by
  rw [construct, h.alike.kind, construct]

theorem chars_eq (h : Commented source source' keeps n n') (hword : n.isWord = true) :
    n'.chars source' = n.chars source := by
  cases h with
  | intro _ _ _ text _ _ => exact text hword

theorem kept (h : Commented source source' keeps n n') : keeps n n' := by
  cases h with
  | intro _ _ _ _ kept _ => exact kept

theorem interspersed (h : Commented source source' keeps n n') :
    Interspersed (Commented source source' keeps) (!n.isWord) n.children n'.children := by
  cases h with
  | intro _ _ _ _ _ children => exact children

theorem childByField? (h : Commented source source' keeps n n') {field : String}
    (hfield : field ≠ "") : Option.Rel (Commented source source' keeps) (n.childByField? field)
      (n'.childByField? field) :=
  h.interspersed.find?_field alike hfield

theorem interspersed_named (h : Commented source source' keeps n n') :
    Interspersed (Commented source source' keeps) (!n.isWord) n.namedChildren n'.namedChildren :=
  h.interspersed.filter_named alike

theorem staticName?_eq (n n' : Node) (h : Commented source source' keeps n n') :
    n'.staticName? source' = n.staticName? source := by
  rw [staticName?, staticName?, h.construct_eq]
  split
  · next hname => rw [h.chars_eq (isWord_of_construct (.inl hname))]
  · next hname => rw [h.chars_eq (isWord_of_construct (.inr hname))]
  · rfl

theorem stringLiteral?_eq (n n' : Node) (h : Commented source source' keeps n n') :
    n'.stringLiteral? source' = n.stringLiteral? source := by
  rw [stringLiteral?, stringLiteral?, h.alike.kind]
  by_cases hstring : n.kind = "string"
  · rw [if_pos hstring, if_pos hstring, h.chars_eq (isWord_of_kind (.inl hstring))]
  · by_cases hencapsed : n.kind = "encapsed_string"
    · have hword := isWord_of_kind (.inr hencapsed)
      have hkinds := h.interspersed_named.map_kind alike (by rw [hword]; rfl)
      have hparts : n'.namedChildren.all (fun c => isLiteralPart c.kind) =
          n.namedChildren.all (fun c => isLiteralPart c.kind) := by
        have hall := congrArg (List.all · isLiteralPart) hkinds
        rwa [List.all_map, List.all_map] at hall
      rw [if_neg hstring, if_neg hstring, if_pos hencapsed, if_pos hencapsed, hparts,
        h.chars_eq hword]
    · rw [if_neg hstring, if_neg hstring, if_neg hencapsed, if_neg hencapsed]

theorem callee?_eq (h : Commented source source' keeps n n') :
    n'.callee? source' = n.callee? source :=
  bind_eq_of_rel staticName?_eq (h.childByField? (by decide))

/-- The first named child says the same name, unless a comment has come before it. -/
theorem bind_staticName?_firstNamed? (h : Commented source source' keeps n n')
    (hfirst : n'.StartsWithComment → n.StartsWithComment) :
    n'.firstNamed?.bind (·.staticName? source') = n.firstNamed?.bind (·.staticName? source) := by
  rcases h.interspersed_named.head?_rel with ⟨k', hk', hkind'⟩ | hrel
  · obtain ⟨k, hk, hkind⟩ :=
      startsWithComment_iff.mp (hfirst (startsWithComment_iff.mpr ⟨k', hk', hkind'⟩))
    rw [firstNamed?, hk', hk]
    exact (staticName?_of_comment source' hkind').trans (staticName?_of_comment source hkind).symm
  · exact bind_eq_of_rel staticName?_eq hrel

/-- The last named child of an argument has the same value as a string literal, unless a comment has
come behind it. -/
theorem lastNamed?_rel (h : Commented source source' keeps n n')
    (hlast : n'.EndsWithComment → n.EndsWithComment) :
    Option.Rel (fun a a' => a'.stringLiteral? source' = a.stringLiteral? source) n.lastNamed?
      n'.lastNamed? := by
  rcases h.interspersed_named.getLast?_rel with ⟨k', hk', hkind'⟩ | hrel
  · obtain ⟨k, hk, hkind⟩ :=
      endsWithComment_iff.mp (hlast (endsWithComment_iff.mpr ⟨k', hk', hkind'⟩))
    have hlast' : n'.lastNamed? = some k' := hk'
    rw [hlast', hk]
    exact .some ((stringLiteral?_of_comment source' hkind').trans
      (stringLiteral?_of_comment source hkind).symm)
  · rw [lastNamed?, lastNamed?]
    generalize n.namedChildren.getLast? = last at hrel ⊢
    generalize n'.namedChildren.getLast? = last' at hrel ⊢
    cases hrel with
    | none => exact .none
    | some hn => exact .some (stringLiteral?_eq _ _ hn)

/-- Of related lists of arguments the first one with an expression is the same one. -/
theorem head?_filterMap_lastNamed? {R : Node → Node → Prop} {as as' : List Node}
    (h : List.Forall₂ (fun a a' => Option.Rel R a.lastNamed? a'.lastNamed?) as as') :
    Option.Rel R (as.filterMap lastNamed?).head? (as'.filterMap lastNamed?).head? := by
  induction h with
  | nil => exact .none
  | @cons a a' _ _ ha _ ih =>
      rw [List.filterMap_cons, List.filterMap_cons]
      generalize a.lastNamed? = last at ha ⊢
      generalize a'.lastNamed? = last' at ha ⊢
      cases ha with
      | none => exact ih
      | some hn => exact .some hn

theorem firstString?_eq (h : Commented source source' (KeepsEnds source source') n n') :
    n'.firstString? source' = n.firstString? source := by
  have hrel := h.childByField? (show "arguments" ≠ "" by decide)
  rw [firstString?, firstString?, callArguments, callArguments]
  generalize n.childByField? "arguments" = list at hrel ⊢
  generalize n'.childByField? "arguments" = list' at hrel ⊢
  cases hrel with
  | none => rfl
  | some hlist =>
      refine bind_eq_of_rel (fun _ _ hn => hn) (head?_filterMap_lastNamed? ?_)
      refine (hlist.interspersed_named.filter_arguments alike).imp (fun a a' ha => ?_)
      exact ha.1.lastNamed?_rel (ha.1.kept.last ha.2)

end Commented

end Node

end RequiredVersion
