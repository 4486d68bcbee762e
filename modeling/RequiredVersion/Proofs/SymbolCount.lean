import Mathlib.Data.Set.Card
import RequiredVersion.Proofs.SymbolTable

/-! # How many symbols a table has

The size of a table counts the symbols that it has a lifespan for (`SymbolTable.encard_get?`).  They are
listed by `SymbolTable.symbols`, each once: a class is listed if it has a `since` version, and its
methods are listed beside it.  So a table is known by its lookups in all that is done with it
(`SymbolTable.merge_insert_size`). -/

namespace RequiredVersion

/-! ### Classes -/

namespace ClassEntry

/-- The symbols that the entry of a class has a lifespan for: the class itself and its methods. -/
def symbols (name : String) (e : ClassEntry) : List Symbol :=
  (if e.since.isSome then [.classType name] else []) ++ e.methods.keys.map (.method name)

variable {name : String} {e : ClassEntry}

theorem length_symbols (name : String) (e : ClassEntry) :
    (e.symbols name).length = (if e.since.isSome then 1 else 0) + e.methods.size := by
  rw [symbols, List.length_append, List.length_map, SortedMap.keys, List.length_map, SortedMap.size]
  split <;> rfl

theorem mem_symbols_iff {s : Symbol} : s ∈ e.symbols name ↔
    (s = .classType name ∧ e.since.isSome = true) ∨
      ∃ m, s = .method name m ∧ (e.methods.get? m).isSome = true := by
  simp only [symbols, List.mem_append, List.mem_map, SortedMap.mem_keys_iff,
    ← Option.isSome_iff_exists]
  refine or_congr ?_ (exists_congr fun m => ?_)
  · split <;> simp [*]
  · rw [and_comm, eq_comm]

theorem nodup_symbols (name : String) (e : ClassEntry) : (e.symbols name).Nodup := by
  have hmethods : (e.methods.keys.map (Symbol.method name)).Nodup :=
    e.methods.nodup_keys.map (fun m n h => (Symbol.method.inj h).2)
  rw [symbols]
  split
  · exact List.nodup_cons.mpr ⟨by simp, hmethods⟩
  · exact hmethods

end ClassEntry

/-! ### Tables -/

namespace SymbolTable

/-- The symbols that a table has a lifespan for, each once. -/
def symbols (t : SymbolTable) : List Symbol :=
  t.constants.keys.map .constant ++ t.functions.keys.map .function ++
    t.classes.entries.flatMap (fun e => e.2.symbols e.1) ++
    t.actions.keys.map (.hook .action) ++ t.filters.keys.map (.hook .filter)

theorem length_symbols (t : SymbolTable) : t.symbols.length = t.size := by
  have hclasses : (t.classes.entries.flatMap (fun e => e.2.symbols e.1)).length =
      (t.classes.values.map
        (fun e => (if e.since.isSome then 1 else 0) + e.methods.size)).foldr (· + ·) 0 := by
    rw [List.length_flatMap, SortedMap.values, List.map_map, List.sum]
    congr 1
    exact List.map_congr_left (fun e _ => ClassEntry.length_symbols e.1 e.2)
  simp only [symbols, size, List.length_append, List.length_map, SortedMap.keys, SortedMap.size,
    hclasses]

theorem exists_entry_iff (t : SymbolTable) (name : String) {P : ClassEntry → Prop}
    (hempty : ¬P .empty) : (∃ e, (name, e) ∈ t.classes.entries ∧ P e) ↔ P (t.classEntry name) := by
  rw [classEntry, SortedMap.getD]
  simp only [SortedMap.mem_entries_iff]
  cases t.classes.get? name with
  | none => simpa using hempty
  | some e => simp

theorem mem_symbols_iff (t : SymbolTable) (s : Symbol) : s ∈ t.symbols ↔ (t.get? s).isSome = true := by
  have hkeys : ∀ {m : SortedMap String Lifespan} {name : String},
      name ∈ m.keys ↔ (m.get? name).isSome = true := by
    intro m name
    rw [SortedMap.mem_keys_iff, Option.isSome_iff_exists]
  simp only [symbols, List.mem_append, List.mem_map, List.mem_flatMap, Prod.exists,
    ClassEntry.mem_symbols_iff, hkeys]
  cases s with
  | constant name => simp [get?]
  | function name => simp [get?]
  | classType name =>
      have hentry := exists_entry_iff t name (P := fun e => e.since.isSome = true) (by decide)
      rw [get?, ClassEntry.lifespan?, Option.isSome_map, ← hentry]
      simp
  | method owner name =>
      have hentry := exists_entry_iff t owner (P := fun e => (e.methods.get? name).isSome = true)
        (by rw [ClassEntry.empty, SortedMap.get?_empty]; decide)
      rw [get?, ← hentry]
      simp
  | hook family name => cases family <;> simp [get?, hooks]

theorem nodup_classes (t : SymbolTable) :
    (t.classes.entries.flatMap (fun e => e.2.symbols e.1)).Nodup := by
  rw [List.nodup_flatMap]
  refine ⟨fun e _ => ClassEntry.nodup_symbols e.1 e.2, ?_⟩
  -- the symbols of a class have its name
  refine (List.pairwise_map.mp t.classes.nodup_keys).imp ?_
  intro a b hne s ha hb
  rcases ClassEntry.mem_symbols_iff.mp ha with ⟨rfl, _⟩ | ⟨m, rfl, _⟩
  · simp [ClassEntry.mem_symbols_iff, hne] at hb
  · simp [ClassEntry.mem_symbols_iff, hne] at hb

theorem nodup_symbols (t : SymbolTable) : t.symbols.Nodup := by
  have hconstants := t.constants.nodup_keys.map (fun _ _ h => Symbol.constant.inj h)
  have hfunctions := t.functions.nodup_keys.map (fun _ _ h => Symbol.function.inj h)
  have hhooks : ∀ family, ((t.hooks family).keys.map (Symbol.hook family)).Nodup := fun family =>
    (t.hooks family).nodup_keys.map (fun _ _ h => (Symbol.hook.inj h).2)
  rw [symbols]
  refine (((hconstants.append hfunctions ?_).append t.nodup_classes ?_).append
    (hhooks .action) ?_).append (hhooks .filter) ?_
  -- no symbol is of two kinds
  all_goals
    intro s hs hs'
    rcases s with _ | _ | _ | ⟨_, _⟩ | ⟨_ | _, _⟩ <;> simp [ClassEntry.mem_symbols_iff] at hs hs'

/-- **The size of a table is the number of symbols that it has a lifespan for.** -/
theorem encard_get? (t : SymbolTable) : {s | (t.get? s).isSome = true}.encard = t.size := by
  have hset : {s | (t.get? s).isSome = true} = ↑t.symbols.toFinset := by
    ext s
    rw [List.coe_toFinset, Set.mem_ofPred_eq, Set.mem_ofPred_eq, mem_symbols_iff]
  rw [hset, Set.encard_coe_eq_coe_finsetCard, List.toFinset_card_of_nodup t.nodup_symbols,
    length_symbols]

theorem isEmpty_iff (t : SymbolTable) : t.isEmpty = true ↔ ∀ s, t.get? s = none := by
  rw [isEmpty, beq_iff_eq, ← length_symbols, List.length_eq_zero_iff, List.eq_nil_iff_forall_not_mem]
  refine forall_congr' fun s => ?_
  rw [mem_symbols_iff, Option.not_isSome_iff_eq_none]

/-- **Tables are known by their lookups.**  A merge asks the newer table for a symbol first and then the
older one; an insertion changes what is said of its symbol and nothing else; the size of a table is the
number of symbols that it has a lifespan for, and a table is empty exactly if there are none.  The tables
are any tables: also with classes that have no `since` version, with or without one of deprecation and
with or without methods. -/
theorem merge_insert_size (a b : SymbolTable) :
    (∀ s, (a.merge b).get? s = (b.get? s).or (a.get? s)) ∧
    (∀ s u x, (a.insert s x).get? u = if u = s then some x else a.get? u) ∧
    {s | (a.get? s).isSome = true}.encard = a.size ∧
    (a.isEmpty = true ↔ ∀ s, a.get? s = none) := by
  refine ⟨a.get?_merge b, fun s u x => ?_, a.encard_get?, a.isEmpty_iff⟩
  split
  · next h => rw [h, get?_insert_self]
  · next h => exact get?_insert_of_ne a x h

/-- A class that is deprecated but has no `since` version does not count, but its method does. -/
example : (⟨.empty, .empty, .ofList [("C", ⟨none, some ⟨[6], none⟩, .ofList [("m", ⟨⟨[5], none⟩, none⟩)]⟩),
    ("D", .empty)], .empty, .empty⟩ : SymbolTable).size = 1 := by decide

end SymbolTable

end RequiredVersion
