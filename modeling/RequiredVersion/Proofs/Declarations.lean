import RequiredVersion.Index.Build
import RequiredVersion.Proofs.ParentLinks
import RequiredVersion.Proofs.SymbolTable

/-! # What a tree declares

The walk that collects declarations keeps a group and a stack of guards.  Here the same is said of
the places of the tree in pre-order, without a state: the group of a place is read off the comments
before it (`openGroup?`), and a place counts unless an ancestor is a guard (`declared?`).

`Invariant` ties the state of the walk to the places entered so far and to the ancestors of the
place at hand.  Entering a node extends it by one place (`Invariant.enter`), leaving a node takes
back the guard that the node has opened (`guards_leave`), and so a walk through a whole subtree
keeps it (`tours_visits`). -/

namespace RequiredVersion.Declaration

variable (confirms : Capability → String → Bool) (source : List Char)

/-! ### Declarations by place -/

/-- Is a node an `if` statement that stands in for something the runtime has? -/
def isShim (n : Node) : Bool :=
  decide (n.construct = .ifStatement) &&
    match guarded? source n with
    | some (capability, name) => confirms capability name
    | none => false

/-- Does the comment at a place open a group? -/
def opensGroup (c : Cursor) : Bool :=
  decide (c.node.construct = .comment) &&
    (Text.dropStart? "/**#@+".toList (c.node.text source).toList).isSome

/-- Does the comment at a place close a group? -/
def closesGroup (c : Cursor) : Bool :=
  decide (c.node.construct = .comment) &&
    (Text.dropStart? "/**#@-".toList (c.node.text source).toList).isSome

/-- The comment of the group that is open behind some places: the latest one that opens a group,
unless one that closes it comes later. -/
def openGroup? (before : List Cursor) : Option String :=
  ((before.filter (fun c => opensGroup source c || closesGroup source c)).getLast?).bind
    (fun c => if opensGroup source c then some (c.node.text source) else none)

/-- The lifespan of a place behind some others: that of the open group if it has one, else that of
the nearest doc comment. -/
def annotation? (before : List Cursor) (c : Cursor) : Option Lifespan :=
  ((openGroup? source before).bind Lifespan.ofDoc?).or
    ((c.nearestDoc? source).bind Lifespan.ofDoc?)

/-- What a place behind some others declares. -/
def declared? (before : List Cursor) (c : Cursor) : Option (Symbol × Lifespan) :=
  if c.ancestors.any (fun a => isShim confirms source a.node) then none
  else
    match symbol? source c, annotation? source before c with
    | some symbol, some a => some (symbol, a)
    | _, _ => none

/-- The place with the given number declares a symbol with a lifespan. -/
def DeclaredAt (places : List Cursor) (k : Nat) (s : Symbol) (a : Lifespan) : Prop :=
  ∃ c, places[k]? = some c ∧ declared? confirms source (places.take k) c = some (s, a)

/-- The last place that declares a symbol declares it with a lifespan. -/
def LastDeclared (places : List Cursor) (s : Symbol) (a : Lifespan) : Prop :=
  ∃ k, DeclaredAt confirms source places k s a ∧
    ∀ j b, k < j → ¬ DeclaredAt confirms source places j s b

variable {confirms source}

/-! ### One place more -/

theorem openGroup?_append (before : List Cursor) (c : Cursor) :
    openGroup? source (before ++ [c]) =
      if opensGroup source c then some (c.node.text source)
      else if closesGroup source c then none
      else openGroup? source before := by
  unfold openGroup?
  rw [List.filter_append]
  by_cases ho : opensGroup source c = true
  · rw [List.filter_cons_of_pos (by rw [ho]; rfl), List.filter_nil, List.getLast?_concat]
    simp [ho]
  · by_cases hc : closesGroup source c = true
    · rw [List.filter_cons_of_pos (by rw [hc, Bool.or_true]), List.filter_nil, List.getLast?_concat]
      simp [ho, hc]
    · rw [List.filter_cons_of_neg (by simp [ho, hc]), List.filter_nil, List.append_nil, if_neg ho,
        if_neg hc]

theorem declaredAt_append_iff (places : List Cursor) (c : Cursor) (k : Nat) (s : Symbol)
    (a : Lifespan) :
    DeclaredAt confirms source (places ++ [c]) k s a ↔
      DeclaredAt confirms source places k s a ∨
        (k = places.length ∧ declared? confirms source places c = some (s, a)) := by
  unfold DeclaredAt
  rcases Nat.lt_trichotomy k places.length with hk | hk | hk
  · rw [List.getElem?_append_left hk, List.take_append_of_le_length (Nat.le_of_lt hk)]
    constructor
    · exact .inl
    · rintro (h | ⟨h, _⟩)
      · exact h
      · omega
  · subst hk
    simp
  · have hnone : (places ++ [c])[k]? = none := by
      rw [List.getElem?_eq_none_iff, List.length_append, List.length_singleton]
      omega
    have hnone' : places[k]? = none := List.getElem?_eq_none_iff.mpr (Nat.le_of_lt hk)
    rw [hnone, hnone']
    constructor
    · rintro ⟨_, h, _⟩
      cases h
    · rintro (⟨_, h, _⟩ | ⟨h, _⟩)
      · cases h
      · omega

theorem DeclaredAt.lt_length {places : List Cursor} {k : Nat} {s : Symbol} {a : Lifespan}
    (h : DeclaredAt confirms source places k s a) : k < places.length := by
  obtain ⟨c, hc, _⟩ := h
  exact (List.getElem?_eq_some_iff.mp hc).1

theorem lastDeclared_append_of_declared {places : List Cursor} {c : Cursor} {s : Symbol}
    {a b : Lifespan} (h : declared? confirms source places c = some (s, a)) :
    LastDeclared confirms source (places ++ [c]) s b ↔ b = a := by
  have hlast : DeclaredAt confirms source (places ++ [c]) places.length s a :=
    (declaredAt_append_iff _ _ _ _ _).mpr (.inr ⟨rfl, h⟩)
  constructor
  · rintro ⟨k, hk, hmax⟩
    rcases (declaredAt_append_iff _ _ _ _ _).mp hk with hk | ⟨_, hk⟩
    · exact absurd hlast (hmax _ _ hk.lt_length)
    · rw [h, Option.some.injEq, Prod.mk.injEq] at hk
      exact hk.2.symm
  · rintro rfl
    refine ⟨places.length, hlast, ?_⟩
    intro j b hj hd
    have := hd.lt_length
    rw [List.length_append, List.length_singleton] at this
    omega

theorem lastDeclared_append_of_not_declared {places : List Cursor} {c : Cursor} {s : Symbol}
    (h : ∀ a, declared? confirms source places c ≠ some (s, a)) (b : Lifespan) :
    LastDeclared confirms source (places ++ [c]) s b ↔ LastDeclared confirms source places s b := by
  have hat : ∀ k a, DeclaredAt confirms source (places ++ [c]) k s a ↔
      DeclaredAt confirms source places k s a := by
    intro k a
    rw [declaredAt_append_iff]
    exact ⟨fun hk => hk.resolve_right (fun hd => h a hd.2), .inl⟩
  simp only [LastDeclared, hat]

/-! ### What entering and leaving do -/

theorem symbol?_of_comment {c : Cursor} (h : c.node.construct = .comment) :
    symbol? source c = none := by
  rw [symbol?, h]

theorem symbol?_of_if {c : Cursor} (h : c.node.construct = .ifStatement) :
    symbol? source c = none := by
  rw [symbol?, h]

theorem construct_of_isShim {n : Node} (h : isShim confirms source n = true) :
    n.construct = .ifStatement := by
  rw [isShim, Bool.and_eq_true, decide_eq_true_iff] at h
  exact h.1

theorem symbols_openScopes (c : Cursor) (s : State) :
    (openScopes confirms source c s).symbols = s.symbols := by
  unfold openScopes
  split
  · rfl
  · split
    · rfl
    · split <;> rfl
  · rfl

theorem group_openScopes (c : Cursor) (s : State) :
    (openScopes confirms source c s).group =
      if opensGroup source c then some (c.node.text source)
      else if closesGroup source c then none
      else s.group := by
  unfold openScopes opensGroup closesGroup
  split
  · rename_i hc
    simp only [hc, decide_true, Bool.true_and, groupAfter]
  · rename_i hc
    simp only [hc, reduceCtorEq, decide_false, Bool.false_and, Bool.false_eq_true, if_false]
    split
    · rfl
    · split <;> rfl
  · rename_i hc _
    rw [decide_eq_false hc]
    rfl

theorem guards_openScopes (c : Cursor) (s : State) :
    (openScopes confirms source c s).guards =
      if isShim confirms source c.node then c.depth :: s.guards else s.guards := by
  unfold openScopes isShim
  split
  · rename_i hc
    rw [hc]
    rfl
  · rename_i hc
    simp only [hc, decide_true, Bool.true_and]
    split
    · rename_i hg
      rw [hg]
      rfl
    · rename_i capability name hg
      rw [hg]
      split <;> rfl
  · rename_i _ hc
    rw [decide_eq_false hc]
    rfl

theorem guards_record (c : Cursor) (s : State) : (record source c s).guards = s.guards := by
  unfold record
  split
  · split
    · rfl
    · split <;> rfl
  · rfl

theorem group_record (c : Cursor) (s : State) : (record source c s).group = s.group := by
  unfold record
  split
  · split
    · rfl
    · split <;> rfl
  · rfl

theorem guards_enter (c : Cursor) (s : State) :
    (enter confirms source c s).guards =
      if isShim confirms source c.node then c.depth :: s.guards else s.guards := by
  rw [enter, guards_record, guards_openScopes]

theorem group_enter (c : Cursor) (s : State) :
    (enter confirms source c s).group =
      if opensGroup source c then some (c.node.text source)
      else if closesGroup source c then none
      else s.group := by
  rw [enter, group_record, group_openScopes]

theorem lifespan?_eq (group : Option String) (c : Cursor) :
    lifespan? source group c =
      (group.bind Lifespan.ofDoc?).or ((c.nearestDoc? source).bind Lifespan.ofDoc?) := by
  unfold lifespan?
  cases group.bind Lifespan.ofDoc? <;> rfl

/-- Leaving a node takes back the guard that entering it has opened, and nothing else. -/
theorem guards_leave {c : Cursor} {s s' : State} (hlt : ∀ d ∈ s.guards, d < c.depth)
    (h : s'.guards = (enter confirms source c s).guards) : (leave c s').guards = s.guards := by
  rw [guards_enter] at h
  unfold leave
  by_cases hs : isShim confirms source c.node = true
  · rw [if_pos hs] at h
    rw [if_pos ⟨construct_of_isShim hs, by rw [h]; rfl⟩, h]
    rfl
  · rw [if_neg hs] at h
    rw [if_neg, h]
    rintro ⟨_, hhead⟩
    rw [h] at hhead
    exact absurd (hlt _ (List.mem_of_mem_head? hhead)) (Nat.lt_irrefl _)

theorem group_leave (c : Cursor) (s : State) : (leave c s).group = s.group := by
  unfold leave
  split <;> rfl

theorem symbols_leave (c : Cursor) (s : State) : (leave c s).symbols = s.symbols := by
  unfold leave
  split <;> rfl

/-! ### The walk -/

variable (confirms source) in
/-- What the state of the walk says, after the given places, below the given ancestors. -/
structure Invariant (before ancestors : List Cursor) (s : State) : Prop where
  guards_iff : s.guards ≠ [] ↔ ∃ a ∈ ancestors, isShim confirms source a.node = true
  guards_lt : ∀ d ∈ s.guards, d < ancestors.length
  group_eq : s.group = openGroup? source before
  get?_iff : ∀ symbol a, s.symbols.get? symbol = some a ↔
    LastDeclared confirms source before symbol a

theorem invariant_start : Invariant confirms source [] [] State.start where
  guards_iff := by simp [State.start]
  guards_lt := by simp [State.start]
  group_eq := rfl
  get?_iff := by
    intro symbol a
    rw [State.start, SymbolTable.get?_empty]
    constructor
    · intro h
      cases h
    · rintro ⟨k, hk, _⟩
      exact absurd hk.lt_length (Nat.not_lt_zero _)

namespace Invariant

variable {before : List Cursor} {c : Cursor} {s : State}

theorem symbols_enter (h : Invariant confirms source before c.ancestors s) :
    (enter confirms source c s).symbols =
      match declared? confirms source before c with
      | some (symbol, a) => s.symbols.insert symbol a
      | none => s.symbols := by
  unfold enter record declared?
  rw [guards_openScopes, symbols_openScopes, group_openScopes]
  by_cases hanc : c.ancestors.any (fun a => isShim confirms source a.node) = true
  · have hguards : s.guards ≠ [] := h.guards_iff.mpr (List.any_eq_true.mp hanc)
    rw [if_pos hanc, if_neg, symbols_openScopes]
    split <;> simp [hguards]
  · have hguards : s.guards = [] := Classical.byContradiction
      (fun hne => hanc (List.any_eq_true.mpr (h.guards_iff.mp hne)))
    rw [if_neg hanc, hguards]
    by_cases hself : isShim confirms source c.node = true
    · rw [if_pos hself, symbol?_of_if (construct_of_isShim hself)]
      simp [symbols_openScopes]
    · rw [if_neg hself]
      simp only [List.isEmpty_nil, if_true]
      cases hsym : symbol? source c with
      | none => simp [symbols_openScopes]
      | some symbol =>
          have hcomment : c.node.construct ≠ .comment := by
            intro hc
            rw [symbol?_of_comment hc] at hsym
            cases hsym
          have ho : opensGroup source c = false := by simp [opensGroup, hcomment]
          have hcl : closesGroup source c = false := by simp [closesGroup, hcomment]
          rw [ho, hcl, h.group_eq]
          simp only [Bool.false_eq_true, if_false, lifespan?_eq]
          rw [← annotation?]
          cases annotation? source before c <;> simp [symbols_openScopes]

/-- Entering a place extends the invariant by it. -/
theorem enter (h : Invariant confirms source before c.ancestors s) :
    Invariant confirms source (before ++ [c]) (c :: c.ancestors)
      (Declaration.enter confirms source c s) where
  guards_iff := by
    rw [guards_enter]
    by_cases hself : isShim confirms source c.node = true
    · simp [hself]
    · simp [hself, ← h.guards_iff]
  guards_lt := by
    intro d hd
    rw [guards_enter] at hd
    have hlen := c.length_ancestors
    rw [List.length_cons]
    split at hd
    · rcases List.mem_cons.mp hd with rfl | hd
      · omega
      · exact Nat.lt_succ_of_lt (h.guards_lt d hd)
    · exact Nat.lt_succ_of_lt (h.guards_lt d hd)
  group_eq := by rw [group_enter, openGroup?_append, h.group_eq]
  get?_iff := by
    intro symbol a
    rw [h.symbols_enter]
    cases hd : declared? confirms source before c with
    | none =>
        rw [lastDeclared_append_of_not_declared (by simp [hd])]
        exact h.get?_iff symbol a
    | some d =>
        obtain ⟨symbol', b⟩ := d
        by_cases hs : symbol = symbol'
        · subst hs
          rw [lastDeclared_append_of_declared hd, SymbolTable.get?_insert_self, Option.some.injEq,
            eq_comm]
        · rw [lastDeclared_append_of_not_declared (by simp [hd, Ne.symm hs]),
            SymbolTable.get?_insert_of_ne _ _ hs]
          exact h.get?_iff symbol a

theorem leave {after : List Cursor} {s' : State} (h : Invariant confirms source before c.ancestors s)
    (h' : Invariant confirms source after (c :: c.ancestors) s')
    (hguards : s'.guards = (Declaration.enter confirms source c s).guards) :
    Invariant confirms source after c.ancestors (Declaration.leave c s') where
  guards_iff := by
    rw [guards_leave (by rw [← Cursor.length_ancestors]; exact h.guards_lt) hguards]
    exact h.guards_iff
  guards_lt := by
    rw [guards_leave (by rw [← Cursor.length_ancestors]; exact h.guards_lt) hguards]
    exact h.guards_lt
  group_eq := by rw [group_leave, h'.group_eq]
  get?_iff := by rw [symbols_leave]; exact h'.get?_iff

end Invariant

variable (confirms source)

/-- The visitor that collects declarations, with the way up that the cursor carries. -/
def collector : Cursor.Visitor State := ⟨enter confirms source, leave⟩

/-- The guards that are open right after entering a place tell whether it, or an ancestor, is one. -/
def GuardsTell (e : Cursor × State) : Prop :=
  e.2.guards ≠ [] ↔ ∃ a ∈ e.1 :: e.1.ancestors, isShim confirms source a.node = true

/-- Some visits go through the given places and keep the invariant, the guards and the trace. -/
def Tours (visits : List (Cursor.Phase × Cursor)) (places ancestors : List Cursor) : Prop :=
  ∀ (before : List Cursor) (t : State × List (Cursor × State)),
    Invariant confirms source before ancestors t.1 → (∀ e ∈ t.2, GuardsTell confirms source e) →
      Invariant confirms source (before ++ places) ancestors
          (visits.foldl (collector confirms source).traced.visit t).1 ∧
        (visits.foldl (collector confirms source).traced.visit t).1.guards = t.1.guards ∧
        ∀ e ∈ (visits.foldl (collector confirms source).traced.visit t).2,
          GuardsTell confirms source e

variable {confirms source}

theorem tours_nil (ancestors : List Cursor) : Tours confirms source [] [] ancestors := by
  intro before t h htrace
  rw [List.append_nil]
  exact ⟨h, rfl, htrace⟩

theorem Tours.append {xs ys : List (Cursor.Phase × Cursor)} {ps qs ancestors : List Cursor}
    (hx : Tours confirms source xs ps ancestors) (hy : Tours confirms source ys qs ancestors) :
    Tours confirms source (xs ++ ys) (ps ++ qs) ancestors := by
  intro before t h htrace
  obtain ⟨h₁, hguards₁, htrace₁⟩ := hx before t h htrace
  obtain ⟨h₂, hguards₂, htrace₂⟩ := hy (before ++ ps) _ h₁ htrace₁
  rw [List.foldl_append, ← List.append_assoc]
  exact ⟨h₂, hguards₂.trans hguards₁, htrace₂⟩

/-- A tour of what is below a place is one of the place itself, between entering and leaving it. -/
theorem Tours.around {c : Cursor} {xs : List (Cursor.Phase × Cursor)} {ps : List Cursor}
    (hx : Tours confirms source xs ps (c :: c.ancestors)) :
    Tours confirms source ((.entering, c) :: (xs ++ [(.leaving, c)])) (c :: ps) c.ancestors := by
  intro before t h htrace
  have htrace' : ∀ e ∈ t.2 ++ [(c, enter confirms source c t.1)], GuardsTell confirms source e := by
    intro e he
    rcases List.mem_append.mp he with he | he
    · exact htrace e he
    · rw [List.mem_singleton.mp he]
      exact h.enter.guards_iff
  obtain ⟨h₁, hguards₁, htrace₁⟩ := hx (before ++ [c])
    (enter confirms source c t.1, t.2 ++ [(c, enter confirms source c t.1)]) h.enter htrace'
  rw [List.foldl_cons, List.foldl_append, ← List.singleton_append, ← List.append_assoc]
  refine ⟨h.leave h₁ hguards₁, ?_, htrace₁⟩
  exact guards_leave (by rw [← Cursor.length_ancestors]; exact h.guards_lt) hguards₁

theorem tours_visitsAmong (parent : Node) (up : List Frame) : ∀ (ns before : List Node),
    (∀ n ∈ ns, ∀ above, Tours confirms source (Cursor.visits n above) (Cursor.placesFrom n above)
      (Cursor.ancestorsOf above)) →
    Tours confirms source (Cursor.visitsAmong parent before ns up)
      (Cursor.placesAmong parent before ns up) (⟨parent, up⟩ :: Cursor.ancestorsOf up)
  | [], before, _ => by
      rw [Cursor.visitsAmong, Cursor.placesAmong]
      exact tours_nil _
  | n :: rest, before, h => by
      have hn := h n List.mem_cons_self (⟨parent, before, rest⟩ :: up)
      have hrest := tours_visitsAmong parent up rest (n :: before)
        (fun m hm => h m (List.mem_cons_of_mem _ hm))
      rw [Cursor.visitsAmong, Cursor.placesAmong]
      exact hn.append hrest

theorem tours_visits (n : Node) : ∀ above, Tours confirms source (Cursor.visits n above)
    (Cursor.placesFrom n above) (Cursor.ancestorsOf above) := by
  induction n using Node.induction with
  | step n ih =>
      intro above
      rw [Cursor.visits_eq, Cursor.placesFrom_eq]
      exact Tours.around (c := ⟨n, above⟩) (tours_visitsAmong n above n.children [] ih)

/-- Collecting is the walk of that visitor: links lead the same way up. -/
theorem collect_eq_walk (root : Node) :
    collect confirms source root = Cursor.walk (collector confirms source) root .start := by
  refine Cursor.walk_congr (fun c hc s => ?_) State.start
  rw [ParentMap.ancestors_ofTree hc]

theorem tours_root (root : Node) :
    Invariant confirms source (Cursor.places root) [] (collect confirms source root) ∧
      (collect confirms source root).guards = [] ∧
      ∀ e ∈ (Cursor.walk (collector confirms source).traced root (State.start, [])).2,
        GuardsTell confirms source e := by
  have htours : Tours confirms source (Cursor.visits root []) (Cursor.places root) [] :=
    tours_visits root []
  have htour := htours [] (State.start, []) invariant_start (by simp)
  rw [← Cursor.walk_eq_foldl_visits, Cursor.walk_traced_fst, ← collect_eq_walk, List.nil_append] at htour
  exact htour

/-! ### The table of a tree -/

theorem DeclaredAt.exists_last {places : List Cursor} {k : Nat} {s : Symbol} {a : Lifespan}
    (h : DeclaredAt confirms source places k s a) : ∃ b, LastDeclared confirms source places s b := by
  by_cases hlater : ∃ j b, k < j ∧ DeclaredAt confirms source places j s b
  · obtain ⟨j, b, hj, hd⟩ := hlater
    have hlt := hd.lt_length
    exact hd.exists_last
  · exact ⟨a, k, h, fun j b hj hd => hlater ⟨j, b, hj, hd⟩⟩
termination_by places.length - k

theorem get?_eq_none_iff {t : SymbolTable} {places : List Cursor} {s : Symbol}
    (h : ∀ a, t.get? s = some a ↔ LastDeclared confirms source places s a) :
    t.get? s = none ↔ ∀ k a, ¬ DeclaredAt confirms source places k s a := by
  constructor
  · intro hnone k a hd
    obtain ⟨b, hb⟩ := hd.exists_last
    rw [(h b).mpr hb] at hnone
    cases hnone
  · intro hd
    rw [Option.eq_none_iff_forall_ne_some]
    intro a ha
    obtain ⟨k, hk, _⟩ := (h a).mp ha
    exact hd k a hk

/-- A function behind its doc comment. -/
def annotatedFunction : Node :=
  ⟨"program", true, "", 0, 30,
    [⟨"comment", true, "", 0, 17, []⟩,
      ⟨"function_definition", true, "", 18, 30, [⟨"name", true, "name", 27, 28, []⟩]⟩]⟩

end RequiredVersion.Declaration
