/-! # Symbols

The elements of an API: constants (of a class as `Class::NAME`), functions, classes, methods and
hooks.  A hook belongs to one of two families, actions and filters. -/

namespace RequiredVersion

/-- The two families of hooks. -/
inductive HookFamily where
  | action
  | filter
  deriving DecidableEq, Inhabited

namespace HookFamily

/-- The function that stands for the family in documents. -/
def name : HookFamily → String
  | .action => "do_action"
  | .filter => "apply_filters"

def ofName? (s : String) : Option HookFamily :=
  if s = "do_action" then some .action
  else if s = "apply_filters" then some .filter
  else none

/-- The family whose hooks a function emits. -/
def emittedBy? (function : String) : Option HookFamily :=
  if function = "do_action" ∨ function = "do_action_ref_array" ∨
      function = "do_action_deprecated" then some .action
  else if function = "apply_filters" ∨ function = "apply_filters_ref_array" ∨
      function = "apply_filters_deprecated" then some .filter
  else none

/-- The family whose hooks a function registers callbacks for. -/
def registeredBy? (function : String) : Option HookFamily :=
  if function = "add_action" then some .action
  else if function = "add_filter" then some .filter
  else none

end HookFamily

/-- An element of an API. -/
inductive Symbol where
  | constant (name : String)
  | function (name : String)
  | classType (name : String)
  | method (owner name : String)
  | hook (family : HookFamily) (name : String)
  deriving DecidableEq, Inhabited

namespace Symbol

/-- Symbols are ordered by kind, then by their names; actions come before filters. -/
def sortKey : Symbol → List String
  | .constant name => ["0", name]
  | .function name => ["1", name]
  | .classType name => ["2", name]
  | .method owner name => ["3", owner, name]
  | .hook .action name => ["4", "0", name]
  | .hook .filter name => ["4", "1", name]

instance : Ord Symbol := ⟨compareOn sortKey⟩

theorem sortKey_injective {a b : Symbol} (h : a.sortKey = b.sortKey) : a = b := by
  rcases a with _ | _ | _ | ⟨_, _⟩ | ⟨_ | _, _⟩ <;>
    rcases b with _ | _ | _ | ⟨_, _⟩ | ⟨_ | _, _⟩ <;> simp_all [sortKey]

instance : Std.TransOrd Symbol :=
  inferInstanceAs (Std.TransCmp (compareOn sortKey))

instance : Std.LawfulEqOrd Symbol where
  eq_of_compare {a b} h :=
    have h' : compare a.sortKey b.sortKey = .eq := h
    sortKey_injective (Std.LawfulEqCmp.eq_of_compare h')

end Symbol

end RequiredVersion
