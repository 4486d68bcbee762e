import RequiredVersion.Proofs.Report
import RequiredVersion.Proofs.Resolution
import RequiredVersion.Scan

/-! # The order of usages does not matter

A scan folds the usages of its files into a report, one after the other and with a record in the
log for each.  The report that comes out is that of the uses which the usages resolve to
(`Scanner.foldUsages_report`), and these are consistent because resolution is
(`Scanner.uses_consistent`).  So a scan that meets the same usages in another order, or some of
them more than once, reports the same (`Scanner.report_order_independent`). -/

namespace RequiredVersion.Scanner

/-- The uses that are recorded for a usage in a file. -/
def uses (s : Scanner) (file : String) (u : Usage) : List Use :=
  (s.index.resolve s.matchUnknown u.reference).map (fun hit => ⟨hit.1, hit.2, ⟨file, u.line⟩⟩)

/-! ### What the fold records -/

theorem foldHits_report (file : String) (line : Nat) :
    ∀ (hits : List (Symbol × Lifespan)) (r : Report) (σ : Session),
      ((foldHits file line hits r).run σ).1 =
        r.recordAll (hits.map (fun hit => ⟨hit.1, hit.2, ⟨file, line⟩⟩))
  | [], r, σ => rfl
  | (symbol, a) :: rest, r, σ => by
      rw [List.map_cons, Report.recordAll_cons, ← foldHits_report file line rest]
      rfl

theorem foldUsages_report (s : Scanner) (file : String) :
    ∀ (us : List Usage) (r : Report) (σ : Session),
      ((s.foldUsages file us r).run σ).1 = r.recordAll (us.flatMap (s.uses file))
  | [], r, σ => rfl
  | u :: us, r, σ => by
      rw [List.flatMap_cons, Report.recordAll_append, uses, ← foldHits_report file u.line _ r σ,
        ← foldUsages_report s file us]
      rfl

/-- The report of usages in several files, taken one by one. -/
theorem foldlM_report (s : Scanner) : ∀ (us : List (String × Usage)) (r : Report) (σ : Session),
    ((us.foldlM (fun r u => s.foldUsages u.1 [u.2] r) r).run σ).1 =
      r.recordAll (us.flatMap (fun u => s.uses u.1 u.2))
  | [], r, σ => rfl
  | u :: us, r, σ => by
      have hone := foldUsages_report s u.1 [u.2] r σ
      rw [List.flatMap_cons, List.flatMap_nil, List.append_nil] at hone
      rw [List.flatMap_cons, Report.recordAll_append, ← hone, ← foldlM_report s us]
      rfl

/-! ### Order -/

theorem uses_consistent (s : Scanner) (us : List (String × Usage)) :
    Use.Consistent (us.flatMap (fun u => s.uses u.1 u.2)) := by
  intro u hu v hv hsymbol
  simp only [uses, List.mem_flatMap, List.mem_map] at hu hv
  obtain ⟨_, _, ⟨t, a⟩, ha, rfl⟩ := hu
  obtain ⟨_, _, ⟨t', b⟩, hb, rfl⟩ := hv
  have ht : t = t' := hsymbol
  subst ht
  exact Index.resolve_functional ha hb

/-- **The report of a scan depends only on which usages there are.**  For every index, setting and
floor of a scanner, the usages folded into an empty report in whatever order, each as often as one
likes and at whatever state of the session, give the same report: the same minimum, symbols,
lifespans and places.  In particular no two references resolve to one symbol with different
lifespans, also where methods of the placeholder owner meet those of a class of that name. -/
theorem report_order_independent (s : Scanner) :
    (∀ (us vs : List (String × Usage)) (σ σ' : Session), us.Perm vs →
      ((us.foldlM (fun r u => s.foldUsages u.1 [u.2] r) (Report.start s.floor)).run σ).1 =
        ((vs.foldlM (fun r u => s.foldUsages u.1 [u.2] r) (Report.start s.floor)).run σ').1) ∧
    (∀ (us vs : List (String × Usage)) (σ σ' : Session), (∀ u, u ∈ us ↔ u ∈ vs) →
      ((us.foldlM (fun r u => s.foldUsages u.1 [u.2] r) (Report.start s.floor)).run σ).1 =
        ((vs.foldlM (fun r u => s.foldUsages u.1 [u.2] r) (Report.start s.floor)).run σ').1) ∧
    (∀ (r r' : Reference) (t : Symbol) (a a' : Lifespan),
      (t, a) ∈ s.index.resolve s.matchUnknown r → (t, a') ∈ s.index.resolve s.matchUnknown r' →
        a = a') := by
  have hset : ∀ (us vs : List (String × Usage)) (σ σ' : Session), (∀ u, u ∈ us ↔ u ∈ vs) →
      ((us.foldlM (fun r u => s.foldUsages u.1 [u.2] r) (Report.start s.floor)).run σ).1 =
        ((vs.foldlM (fun r u => s.foldUsages u.1 [u.2] r) (Report.start s.floor)).run σ').1 := by
    intro us vs σ σ' h
    rw [foldlM_report, foldlM_report]
    apply Report.recordAll_eq_of_mem_iff (s.uses_consistent us)
    intro u
    simp only [List.mem_flatMap, h]
  exact ⟨fun us vs σ σ' h => hset us vs σ σ' (fun u => h.mem_iff), hset,
    fun r r' t a a' => Index.resolve_functional⟩

/-- A scanner whose index has a class with the name of the placeholder. -/
def placeholderScanner : Scanner where
  grammar := fun _ => .error ⟨"no tree"⟩
  index := ⟨none, SymbolTable.empty.insert (.method "$object" "run") ⟨⟨[5, 1], none⟩, none⟩⟩
  floor := ⟨[4], none⟩
  ignoredNames := []
  matchUnknown := true

/-- The method of an unknown object and that of the class meet in one symbol. -/
theorem report_order_independent_placeholder :
    (Symbol.method "$object" "run", (⟨⟨[5, 1], none⟩, none⟩ : Lifespan)) ∈
        placeholderScanner.index.resolve true (.method none "run") ∧
      (Symbol.method "$object" "run", (⟨⟨[5, 1], none⟩, none⟩ : Lifespan)) ∈
        placeholderScanner.index.resolve true (.method (some "$object") "run") ∧
      (([("a.php", ⟨.method none "run", 1⟩), ("b.php", ⟨.method (some "$object") "run", 2⟩)].foldlM
          (fun r u => placeholderScanner.foldUsages u.1 [u.2] r)
          (Report.start placeholderScanner.floor)).run (Session.start ⟨.empty, []⟩)).1 =
        (([("b.php", ⟨.method (some "$object") "run", 2⟩), ("a.php", ⟨.method none "run", 1⟩)].foldlM
          (fun r u => placeholderScanner.foldUsages u.1 [u.2] r)
          (Report.start placeholderScanner.floor)).run (Session.start ⟨.empty, []⟩)).1 := by
  refine ⟨by decide +kernel, by decide +kernel, ?_⟩
  exact (report_order_independent placeholderScanner).1 _ _ _ _ (List.Perm.swap _ _ _)

end RequiredVersion.Scanner
