import RequiredVersion.Proofs.Building
import RequiredVersion.Proofs.Declarations

/-! # Declarations and what the runtime has

What is declared below a guard counts unless the runtime has what the guard asks for.  Nothing else of a
walk depends on the runtime: the group of a place is read off the comments before it, inside guards or
not.  So a place that declares something when more is confirmed declares the same when less is
(`DeclaredAt.of_confirms_less`).  The lifespan that a symbol ends up with may be another one, since other
places may come later, but the symbol is there (`collect_within`).

If nothing is confirmed, every annotated declaration counts (`declaredAt_iff_annotatedAt`). -/

namespace RequiredVersion

/-- Every symbol that the first table has a lifespan for has one in the second. -/
def SymbolTable.Within (t u : SymbolTable) : Prop := ∀ s, t.get? s ≠ none → u.get? s ≠ none

namespace Declaration

/-- All that the first confirms the second confirms too. -/
def ConfirmsLess (few many : Capability → String → Bool) : Prop :=
  ∀ capability name, few capability name = true → many capability name = true

/-- The place with the given number has an annotated declaration, inside a guard or not. -/
def AnnotatedAt (source : List Char) (places : List Cursor) (k : Nat) (s : Symbol) (a : Lifespan) :
    Prop :=
  ∃ c, places[k]? = some c ∧ symbol? source c = some s ∧ annotation? source (places.take k) c = some a

/-- The last annotated declaration of a symbol has a lifespan. -/
def LastAnnotated (source : List Char) (places : List Cursor) (s : Symbol) (a : Lifespan) : Prop :=
  ∃ k, AnnotatedAt source places k s a ∧ ∀ j b, k < j → ¬ AnnotatedAt source places j s b

section places
variable {few many confirms : Capability → String → Bool} {source : List Char} {places : List Cursor}
  {k : Nat} {s : Symbol} {a : Lifespan}

theorem isShim_of_confirms_less {n : Node} (h : ConfirmsLess few many)
    (hshim : isShim few source n = true) : isShim many source n = true := by
  unfold isShim at hshim ⊢
  rw [Bool.and_eq_true] at hshim ⊢
  refine ⟨hshim.1, ?_⟩
  have hasks := hshim.2
  split at hasks
  · next capability name _ => exact h capability name hasks
  · cases hasks

theorem declared?_eq_some_iff {before : List Cursor} {c : Cursor} :
    declared? confirms source before c = some (s, a) ↔
      (∀ above ∈ c.ancestors, isShim confirms source above.node = false) ∧
        symbol? source c = some s ∧ annotation? source before c = some a := by
  unfold declared?
  split
  · next hguard =>
      obtain ⟨above, habove, hshim⟩ := List.any_eq_true.mp hguard
      constructor
      · intro h
        cases h
      · rintro ⟨hfree, _⟩
        rw [hfree above habove] at hshim
        cases hshim
  · next hguard =>
      have hfree : ∀ above ∈ c.ancestors, isShim confirms source above.node = false := by
        simpa using hguard
      cases symbol? source c with
      | none => simp
      | some s' =>
          cases annotation? source before c with
          | none => simp
          | some a' => simpa using fun _ _ => hfree

theorem declaredAt_iff : DeclaredAt confirms source places k s a ↔
    AnnotatedAt source places k s a ∧ ∀ c, places[k]? = some c →
      ∀ above ∈ c.ancestors, isShim confirms source above.node = false := by
  constructor
  · rintro ⟨c, hc, hdeclared⟩
    obtain ⟨hfree, hsymbol, hlifespan⟩ := declared?_eq_some_iff.mp hdeclared
    refine ⟨⟨c, hc, hsymbol, hlifespan⟩, fun c' hc' => ?_⟩
    rw [hc] at hc'
    rw [← Option.some.inj hc']
    exact hfree
  · rintro ⟨⟨c, hc, hsymbol, hlifespan⟩, hfree⟩
    exact ⟨c, hc, declared?_eq_some_iff.mpr ⟨hfree c hc, hsymbol, hlifespan⟩⟩

/-- What is declared when more is confirmed is declared when less is. -/
theorem DeclaredAt.of_confirms_less (h : ConfirmsLess few many)
    (hdeclared : DeclaredAt many source places k s a) : DeclaredAt few source places k s a := by
  obtain ⟨hannotated, hfree⟩ := declaredAt_iff.mp hdeclared
  refine declaredAt_iff.mpr ⟨hannotated, fun c hc above habove => ?_⟩
  rw [Bool.eq_false_iff]
  intro hshim
  have hno := hfree c hc above habove
  rw [isShim_of_confirms_less h hshim] at hno
  cases hno

theorem declaredAt_iff_annotatedAt (h : ∀ capability name, confirms capability name = false) :
    DeclaredAt confirms source places k s a ↔ AnnotatedAt source places k s a := by
  rw [declaredAt_iff]
  refine and_iff_left_of_imp (fun _ c _ above _ => ?_)
  unfold isShim
  split
  · next capability name _ => rw [h, Bool.and_false]
  · rw [Bool.and_false]

theorem lastDeclared_iff_lastAnnotated (h : ∀ capability name, confirms capability name = false) :
    LastDeclared confirms source places s a ↔ LastAnnotated source places s a := by
  simp only [LastDeclared, LastAnnotated, declaredAt_iff_annotatedAt h]

end places

section trees
variable {few many confirms : Capability → String → Bool} {source : List Char} {root : Node}

theorem get?_collect_ne_none_iff {s : Symbol} : (collect confirms source root).symbols.get? s ≠ none ↔
    ∃ k a, DeclaredAt confirms source (Cursor.places root) k s a := by
  rw [ne_eq, get?_eq_none_iff ((tours_root root).1.get?_iff s)]
  push Not
  rfl

/-- The symbols of a tree when more is confirmed are among those when less is. -/
theorem collect_within (h : ConfirmsLess few many) :
    (collect many source root).symbols.Within (collect few source root).symbols := by
  intro s hs
  obtain ⟨k, a, hdeclared⟩ := get?_collect_ne_none_iff.mp hs
  exact get?_collect_ne_none_iff.mpr ⟨k, a, hdeclared.of_confirms_less h⟩

/-- If nothing is confirmed, an annotated symbol has the lifespan of its last annotated declaration. -/
theorem exists_lastAnnotated (h : ∀ capability name, confirms capability name = false) {k : Nat}
    {s : Symbol} {a : Lifespan} (hannotated : AnnotatedAt source (Cursor.places root) k s a) :
    ∃ b, (collect confirms source root).symbols.get? s = some b ∧
      LastAnnotated source (Cursor.places root) s b := by
  obtain ⟨b, hlast⟩ := ((declaredAt_iff_annotatedAt h).mpr hannotated).exists_last
  exact ⟨b, ((tours_root root).1.get?_iff s b).mpr hlast, (lastDeclared_iff_lastAnnotated h).mp hlast⟩

end trees

end Declaration

open Declaration

/-! ### Builds -/

namespace Index

section builds
variable {grammar : Grammar} {few many : Probe}

theorem within_declared (h : ConfirmsLess few.inventory.confirms many.inventory.confirms)
    {content : ByteArray} {table : SymbolTable} (hmany : declared grammar many content = .ok table) :
    ∃ table', declared grammar few content = .ok table' ∧ table.Within table' := by
  unfold declared at hmany ⊢
  cases hparse : grammar (Text.lossyText content) with
  | error e =>
      rw [hparse] at hmany
      cases hmany
  | ok root =>
      rw [hparse] at hmany
      obtain rfl := Except.ok.inj hmany
      exact ⟨_, rfl, collect_within h⟩

theorem lifespanIn?_within (h : ConfirmsLess few.inventory.confirms many.inventory.confirms)
    {fs : FileSystem} {s : Symbol} {file : Path} (hmany : lifespanIn? grammar many fs s file ≠ none) :
    lifespanIn? grammar few fs s file ≠ none := by
  unfold lifespanIn? tableIn? at hmany ⊢
  split at hmany
  · exact absurd rfl hmany
  · next content _ =>
      cases htable : declared grammar many content with
      | error e =>
          rw [htable] at hmany
          exact absurd rfl hmany
      | ok table =>
          rw [htable] at hmany
          obtain ⟨table', htable', hwithin⟩ := within_declared h htable
          rw [htable']
          exact hwithin s hmany

/-- The symbols of a build, if no other tables are in the cache, are those of its files. -/
theorem get?_merged_ne_none_iff {probe : Probe} {fs : FileSystem} {root : Path} {c : Cache SymbolTable}
    {files : List (Path × ByteArray)} (hc : CacheAgrees grammar probe fs root c)
    (hfiles : Sources fs root files) {s : Symbol} :
    (merged grammar probe c files).symbols.get? s ≠ none ↔
      ∃ file ∈ files.map Prod.fst, lifespanIn? grammar probe fs s file ≠ none := by
  rw [symbols_merged hc hfiles, SymbolTable.get?_foldl_merge, SymbolTable.get?_empty, Option.or_none,
    ne_eq, List.findSome?_eq_none_iff]
  simp only [List.mem_reverse, not_forall, exists_prop]
  rfl

/-- Of the same files the one build gives an index if the other does, with no fewer symbols. -/
theorem build_within (h : ConfirmsLess few.inventory.confirms many.inventory.confirms) {root : Path}
    {c c' : Cache SymbolTable} {σ : Session} {i : Index} (hc : CacheAgrees grammar many σ.files root c)
    (hc' : CacheAgrees grammar few σ.files root c')
    (hbuild : ((build grammar many root c).run σ).1.2 = .ok i) :
    ∃ j, ((build grammar few root c').run σ).1.2 = .ok j ∧ i.symbols.Within j.symbols := by
  obtain ⟨files, hfiles⟩ := sources_of_build hbuild
  rw [run_build grammar many c hfiles] at hbuild
  rw [run_build grammar few c' hfiles]
  cases hversion : releaseVersion σ.files root with
  | error e =>
      rw [hversion] at hbuild
      cases hbuild
  | ok v =>
      rw [hversion] at hbuild
      obtain rfl := Except.ok.inj hbuild
      refine ⟨_, rfl, fun s hs => ?_⟩
      obtain ⟨file, hfile, hlifespan⟩ := (get?_merged_ne_none_iff hc hfiles).mp hs
      exact (get?_merged_ne_none_iff hc' hfiles).mpr ⟨file, hfile, lifespanIn?_within h hlifespan⟩

end builds

/-- **Confirming more never adds a symbol.**  Of every tree and source, the symbols with a lifespan when
more is confirmed have one when less is, and if nothing is confirmed, every annotated declaration is in
the table, with the lifespan of the last one of its symbol.  So it is with what is extracted from a source
text, and with the index of a release, if the caches have nothing but what each probe would have
extracted. -/
theorem symbols_of_confirms_less (few many : Capability → String → Bool)
    (h : ∀ capability name, few capability name = true → many capability name = true) :
    (∀ (source : List Char) (root : Node),
      (∀ s, (collect many source root).symbols.get? s ≠ none →
        (collect few source root).symbols.get? s ≠ none) ∧
      ((∀ capability name, few capability name = false) →
        ∀ k s a, AnnotatedAt source (Cursor.places root) k s a →
          ∃ b, (collect few source root).symbols.get? s = some b ∧
            LastAnnotated source (Cursor.places root) s b)) ∧
    ∀ (grammar : Grammar) (probe probe' : Probe), probe.inventory.confirms = few →
      probe'.inventory.confirms = many →
      (∀ (text : String) (σ : Session) (table : SymbolTable),
        ((extract grammar probe' text).run σ).1 = .ok table →
          ∃ table', ((extract grammar probe text).run σ).1 = .ok table' ∧ table.Within table') ∧
      (∀ (root : Path) (c c' : Cache SymbolTable) (σ : Session) (i : Index),
        CacheAgrees grammar probe' σ.files root c → CacheAgrees grammar probe σ.files root c' →
          ((build grammar probe' root c).run σ).1.2 = .ok i →
            ∃ j, ((build grammar probe root c').run σ).1.2 = .ok j ∧ i.symbols.Within j.symbols) := by
  refine ⟨fun source root => ⟨collect_within h, fun hnothing k s a => exists_lastAnnotated hnothing⟩, ?_⟩
  rintro grammar probe probe' rfl rfl
  refine ⟨fun text σ table hextract => ?_, fun root c c' σ i hc hc' => build_within h hc hc'⟩
  cases hparse : grammar text with
  | error e =>
      simp only [extract, hparse] at hextract
      cases hextract
  | ok root =>
      simp only [extract, hparse] at hextract ⊢
      obtain rfl := Except.ok.inj hextract
      exact ⟨_, rfl, collect_within h⟩

/-- A function in a guard that asks for it, and another one behind the guard. -/
def guardedAndPlain : Node :=
  ⟨"program", true, "", 0, 97,
    [⟨"if_statement", true, "", 0, 65,
        [⟨"parenthesized_expression", true, "condition", 2, 25,
            [⟨"unary_op_expression", true, "", 3, 24,
              [⟨"function_call_expression", true, "argument", 4, 24,
                [⟨"name", true, "function", 4, 19, []⟩,
                  ⟨"arguments", true, "arguments", 19, 24,
                    [⟨"argument", true, "", 20, 23, [⟨"string", true, "", 20, 23, []⟩]⟩]⟩]⟩]⟩]⟩,
          ⟨"comment", true, "", 27, 44, []⟩,
          ⟨"function_definition", true, "", 45, 58, [⟨"name", true, "name", 54, 55, []⟩]⟩]⟩,
      ⟨"comment", true, "", 66, 83, []⟩,
      ⟨"function_definition", true, "", 84, 97, [⟨"name", true, "name", 93, 94, []⟩]⟩]⟩

/-- With a runtime that has the function in the guard, only the other one is left. -/
theorem symbols_of_confirms_less_polyfill :
    let source :=
      "if(!function_exists('f')): /** @since 3.0 */ function f(); endif; /** @since 4.0 */ function g();"
    let few : Capability → String → Bool := fun _ _ => false
    let many := (Inventory.ofNames ["F"] [] []).confirms
    (∀ capability name, few capability name = true → many capability name = true) ∧
      (collect many source.toList guardedAndPlain).symbols.get? (.function "f") = none ∧
      (∃ b, (collect few source.toList guardedAndPlain).symbols.get? (.function "f") = some b ∧
        LastAnnotated source.toList (Cursor.places guardedAndPlain) (.function "f") b) ∧
      (collect many source.toList guardedAndPlain).symbols.get? (.function "g") ≠ none ∧
      (collect few source.toList guardedAndPlain).symbols.get? (.function "g") ≠ none := by
  intro source few many
  have hless : ∀ capability name, few capability name = true → many capability name = true := by
    intro capability name h
    cases h
  have hg : (collect many source.toList guardedAndPlain).symbols.get? (.function "g") ≠ none := by
    decide +kernel
  have hannotated : AnnotatedAt source.toList (Cursor.places guardedAndPlain) 10 (.function "f")
      ⟨⟨[3, 0], none⟩, none⟩ :=
    ⟨⟨⟨"function_definition", true, "", 45, 58, [⟨"name", true, "name", 54, 55, []⟩]⟩, _⟩, rfl,
      by decide +kernel, by decide +kernel⟩
  obtain ⟨htrees, _⟩ := symbols_of_confirms_less few many hless
  obtain ⟨hwithin, hnothing⟩ := htrees source.toList guardedAndPlain
  exact ⟨hless, by decide +kernel, hnothing (fun _ _ => rfl) _ _ _ hannotated, hg, hwithin _ hg⟩

end Index

end RequiredVersion
