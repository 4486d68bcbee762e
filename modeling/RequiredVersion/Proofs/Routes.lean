import RequiredVersion.Proofs.Paths

/-! # Where paths lead

The route of a path are the places that its resolution looks at, one after the other, with the place
that it ends at.  What is missing on the way counts as a directory, since that is what would be made
there; so a route depends on the links alone (`routeSteps_congr`), and making directories or files
along a path does not change it.

`Arrives` says that all of a route exists.  A path that is resolved behind such a route is resolved
from its end (`Arrives.resolveSteps_append`), and a path can be resolved only so
(`arrives_of_resolveSteps`). -/

namespace RequiredVersion

/-- The place of what a path leads to. -/
def Target.place : Target → Place
  | .found place _ => place
  | .vacant dir name => dir ++ [name]

/-- The entry that a path leads to, if there is one. -/
def Target.entry? : Target → Option Entry
  | .found _ entry => some entry
  | .vacant _ _ => none

namespace FileSystem

/-- A name that may stand for an entry of a directory. -/
def IsName (name : String) : Prop := name ≠ "" ∧ name ≠ "." ∧ name ≠ ".."

instance (name : String) : Decidable (IsName name) :=
  inferInstanceAs (Decidable (name ≠ "" ∧ name ≠ "." ∧ name ≠ ".."))

/-- The directory that the target of a link in `dir` starts from. -/
def linkStart (dir : Place) (target : String) : Place :=
  if (⟨target⟩ : Path).isAbsolute then [] else dir

/-! ### Routes -/

/-- The places that components lead through, and the place at the end with the number of links that
may still be followed.  There is no end where there are too many links. -/
structure Route where
  way : List Place
  stop : Option (Place × Nat)
  deriving DecidableEq

namespace Route

/-- A route with one place before it. -/
def after (place : Place) (r : Route) : Route := ⟨place :: r.way, r.stop⟩

/-- A route and another one from its end. -/
def andThen (r : Route) (next : Nat → Place → Route) : Route :=
  match r.stop with
  | none => r
  | some (place, n) => ⟨r.way ++ (next n place).way, (next n place).stop⟩

theorem after_andThen (place : Place) (r : Route) (next : Nat → Place → Route) :
    (r.after place).andThen next = (r.andThen next).after place := by
  obtain ⟨way, stop⟩ := r
  cases stop with
  | none => rfl
  | some _ => rfl

end Route

/-- The route of components from a directory; `onLink` gives the route behind a link. -/
def routeFrom (fs : FileSystem) (links : Nat) (onLink : Place → List String → Route) :
    Place → List String → Route
  | dir, [] => ⟨[], some (dir, links)⟩
  | dir, name :: rest =>
    if name = "" ∨ name = "." then routeFrom fs links onLink dir rest
    else if name = ".." then routeFrom fs links onLink dir.dropLast rest
    else
      match fs.get? (dir ++ [name]) with
      | some (.link target) =>
        (onLink (linkStart dir target) (steps target ++ rest)).after (dir ++ [name])
      | _ => (routeFrom fs links onLink (dir ++ [name]) rest).after (dir ++ [name])

/-- The route of components from a directory with at most the given number of links. -/
def routeSteps (fs : FileSystem) : Nat → Place → List String → Route
  | 0, dir, names => routeFrom fs 0 (fun _ _ => ⟨[], none⟩) dir names
  | n + 1, dir, names => routeFrom fs (n + 1) (routeSteps fs n) dir names

/-- The directory that a path starts from. -/
def start (fs : FileSystem) (p : Path) : Place := if p.isAbsolute then [] else fs.cwd

/-- The route of a path. -/
def route (fs : FileSystem) (p : Path) : Route := fs.routeSteps linkLimit (fs.start p) p.names

/-- The places that a path leads through, the last one included. -/
def way (fs : FileSystem) (p : Path) : List Place := (fs.route p).way

/-- The place that a path leads to. -/
def goal? (fs : FileSystem) (p : Path) : Option Place := (fs.route p).stop.map Prod.fst

/-! ### Step by step -/

section steps
variable {fs : FileSystem} {n : Nat} {dir : Place} {name : String} {rest : List String}

/-- Induction along a resolution: over the components, and over the number of links where a link
brings in others. -/
theorem steps_induction (fs : FileSystem) {P : Nat → Place → List String → Prop}
    (nil : ∀ n dir, P n dir [])
    (idle : ∀ n dir name rest, name = "" ∨ name = "." → P n dir rest → P n dir (name :: rest))
    (up : ∀ n dir rest, P n dir.dropLast rest → P n dir (".." :: rest))
    (down : ∀ n dir name rest, IsName name → (∀ t, fs.get? (dir ++ [name]) ≠ some (.link t)) →
      P n (dir ++ [name]) rest → P n dir (name :: rest))
    (blocked : ∀ dir name rest t, IsName name → fs.get? (dir ++ [name]) = some (.link t) →
      P 0 dir (name :: rest))
    (link : ∀ n dir name rest t, IsName name → fs.get? (dir ++ [name]) = some (.link t) →
      P n (linkStart dir t) (steps t ++ rest) → P (n + 1) dir (name :: rest)) :
    ∀ n dir names, P n dir names := by
  have inner : ∀ n, (∀ m, n = m + 1 → ∀ dir names, P m dir names) → ∀ names dir, P n dir names := by
    intro n fewer names
    induction names with
    | nil => exact nil n
    | cons name rest ih =>
        intro dir
        by_cases hidle : name = "" ∨ name = "."
        · exact idle n dir name rest hidle (ih dir)
        · by_cases hup : name = ".."
          · rw [hup]
            exact up n dir rest (ih dir.dropLast)
          · have hname : IsName name := ⟨fun h => hidle (.inl h), fun h => hidle (.inr h), hup⟩
            by_cases hlink : ∃ t, fs.get? (dir ++ [name]) = some (.link t)
            · obtain ⟨t, ht⟩ := hlink
              cases n with
              | zero => exact blocked dir name rest t hname ht
              | succ m => exact link m dir name rest t hname ht (fewer m rfl _ _)
            · exact down n dir name rest hname (fun t ht => hlink ⟨t, ht⟩) (ih (dir ++ [name]))
  intro n
  induction n with
  | zero => exact fun dir names => inner 0 (fun m h => absurd h (by omega)) names dir
  | succ n ih =>
      exact fun dir names => inner (n + 1) (fun m h => by rwa [← Nat.succ.inj h]) names dir

theorem routeSteps_nil : routeSteps fs n dir [] = ⟨[], some (dir, n)⟩ := by
  cases n <;> rw [routeSteps, routeFrom]

theorem routeSteps_idle (h : name = "" ∨ name = ".") :
    routeSteps fs n dir (name :: rest) = routeSteps fs n dir rest := by
  cases n <;> rw [routeSteps, routeFrom, if_pos h, routeSteps]

theorem routeSteps_up : routeSteps fs n dir (".." :: rest) = routeSteps fs n dir.dropLast rest := by
  cases n <;> rw [routeSteps, routeFrom, if_neg (by decide), if_pos rfl, routeSteps]

theorem routeSteps_down (hname : IsName name) (h : ∀ t, fs.get? (dir ++ [name]) ≠ some (.link t)) :
    routeSteps fs n dir (name :: rest) =
      (routeSteps fs n (dir ++ [name]) rest).after (dir ++ [name]) := by
  have hidle : ¬(name = "" ∨ name = ".") := fun e => e.elim hname.1 hname.2.1
  cases n <;>
    (rw [routeSteps, routeFrom, if_neg hidle, if_neg hname.2.2, routeSteps]
     split
     · next t ht => exact absurd ht (h t)
     · rfl)

theorem routeSteps_blocked {t : String} (hname : IsName name)
    (h : fs.get? (dir ++ [name]) = some (.link t)) :
    routeSteps fs 0 dir (name :: rest) = ⟨[dir ++ [name]], none⟩ := by
  have hidle : ¬(name = "" ∨ name = ".") := fun e => e.elim hname.1 hname.2.1
  rw [routeSteps, routeFrom, if_neg hidle, if_neg hname.2.2, h]
  rfl

theorem routeSteps_link {t : String} (hname : IsName name)
    (h : fs.get? (dir ++ [name]) = some (.link t)) :
    routeSteps fs (n + 1) dir (name :: rest) =
      (routeSteps fs n (linkStart dir t) (steps t ++ rest)).after (dir ++ [name]) := by
  have hidle : ¬(name = "" ∨ name = ".") := fun e => e.elim hname.1 hname.2.1
  rw [routeSteps, routeFrom, if_neg hidle, if_neg hname.2.2, h]

/-- The route of more components goes on from the end of the route of the first ones. -/
theorem routeSteps_append (names more : List String) :
    routeSteps fs n dir (names ++ more) =
      (routeSteps fs n dir names).andThen (fun k place => routeSteps fs k place more) := by
  induction n, dir, names using steps_induction fs with
  | nil n dir =>
      rw [routeSteps_nil]
      rfl
  | idle n dir name rest hidle ih =>
      rw [List.cons_append, routeSteps_idle hidle, routeSteps_idle hidle, ih]
  | up n dir rest ih => rw [List.cons_append, routeSteps_up, routeSteps_up, ih]
  | down n dir name rest hname hlink ih =>
      rw [List.cons_append, routeSteps_down hname hlink, routeSteps_down hname hlink, ih,
        Route.after_andThen]
  | blocked dir name rest t hname ht =>
      rw [List.cons_append, routeSteps_blocked hname ht, routeSteps_blocked hname ht]
      rfl
  | link n dir name rest t hname ht ih =>
      rw [List.cons_append, routeSteps_link hname ht, routeSteps_link hname ht, ← List.append_assoc,
        ih, Route.after_andThen]

theorem way_prefix_append (names more : List String) :
    (routeSteps fs n dir names).way <+: (routeSteps fs n dir (names ++ more)).way := by
  rw [routeSteps_append]
  unfold Route.andThen
  cases (routeSteps fs n dir names).stop with
  | none => exact List.prefix_refl _
  | some _ => exact List.prefix_append _ _

/-- Where the same links stand on the way, the route is the same. -/
theorem routeSteps_congr {fs' : FileSystem} (names : List String)
    (h : ∀ place ∈ (routeSteps fs n dir names).way, ∀ t,
      fs'.get? place = some (.link t) ↔ fs.get? place = some (.link t)) :
    routeSteps fs' n dir names = routeSteps fs n dir names := by
  induction n, dir, names using steps_induction fs with
  | nil n dir => rw [routeSteps_nil, routeSteps_nil]
  | idle n dir name rest hidle ih =>
      rw [routeSteps_idle hidle] at h ⊢
      rw [routeSteps_idle hidle, ih h]
  | up n dir rest ih =>
      rw [routeSteps_up] at h ⊢
      rw [routeSteps_up, ih h]
  | down n dir name rest hname hlink ih =>
      rw [routeSteps_down hname hlink] at h ⊢
      have hlink' : ∀ t, fs'.get? (dir ++ [name]) ≠ some (.link t) :=
        fun t ht => hlink t ((h _ List.mem_cons_self t).mp ht)
      rw [routeSteps_down hname hlink', ih (fun place hp => h place (List.mem_cons_of_mem _ hp))]
  | blocked dir name rest t hname ht =>
      rw [routeSteps_blocked hname ht] at h ⊢
      rw [routeSteps_blocked hname ((h _ List.mem_cons_self t).mpr ht)]
  | link n dir name rest t hname ht ih =>
      rw [routeSteps_link hname ht] at h ⊢
      rw [routeSteps_link hname ((h _ List.mem_cons_self t).mpr ht),
        ih (fun place hp => h place (List.mem_cons_of_mem _ hp))]

/-! ### Resolution step by step -/

variable {lookup : Lookup}

/-- What a resolution does behind a link. -/
def behindLink (fs : FileSystem) (lookup : Lookup) :
    Nat → Place → List String → Except Cause Target
  | 0, _, _ => .error .tooManyLinks
  | n + 1, dir, names => fs.resolveSteps lookup n dir names

theorem resolveSteps_eq (n : Nat) (dir : Place) (names : List String) :
    fs.resolveSteps lookup n dir names = fs.descend lookup (fs.behindLink lookup n) dir names := by
  cases n <;> rfl

theorem resolveSteps_nil : fs.resolveSteps lookup n dir [] = .ok (.found dir .directory) := by
  rw [resolveSteps_eq, descend]

theorem resolveSteps_idle (h : name = "" ∨ name = ".") :
    fs.resolveSteps lookup n dir (name :: rest) = fs.resolveSteps lookup n dir rest := by
  rw [resolveSteps_eq, descend, if_pos h, resolveSteps_eq]

theorem resolveSteps_up :
    fs.resolveSteps lookup n dir (".." :: rest) = fs.resolveSteps lookup n dir.dropLast rest := by
  rw [resolveSteps_eq, descend, if_neg (by decide), if_pos rfl, resolveSteps_eq]

theorem resolveSteps_name (hname : IsName name) :
    fs.resolveSteps lookup n dir (name :: rest) =
      if lookup = .creation ∧ asksForDirectory rest then .error .isADirectory
      else if nameLimit < name.utf8ByteSize then .error .nameTooLong
      else
        match fs.get? (dir ++ [name]) with
        | none => if rest.isEmpty then .ok (.vacant dir name) else .error .notFound
        | some .directory => fs.resolveSteps lookup n (dir ++ [name]) rest
        | some (.file content) =>
          if rest.isEmpty then .ok (.found (dir ++ [name]) (.file content)) else .error .notADirectory
        | some (.link target) =>
          if rest.isEmpty ∧ lookup = .entry then .ok (.found (dir ++ [name]) (.link target))
          else fs.behindLink lookup n (linkStart dir target) (steps target ++ rest) := by
  have hidle : ¬(name = "" ∨ name = ".") := fun e => e.elim hname.1 hname.2.1
  rw [resolveSteps_eq, descend, if_neg hidle, if_neg hname.2.2]
  simp only [resolveSteps_eq]
  rfl

/-- All that a resolution can do at a name if it does not fail. -/
theorem resolveSteps_name_ok {t : Target} (hname : IsName name)
    (h : fs.resolveSteps lookup n dir (name :: rest) = .ok t) :
    name.utf8ByteSize ≤ nameLimit ∧
      ((fs.get? (dir ++ [name]) = none ∧ rest = [] ∧ t = .vacant dir name) ∨
        (fs.get? (dir ++ [name]) = some .directory ∧
          fs.resolveSteps lookup n (dir ++ [name]) rest = .ok t) ∨
        (∃ c, fs.get? (dir ++ [name]) = some (.file c) ∧ rest = [] ∧
          t = .found (dir ++ [name]) (.file c)) ∨
        (∃ l, fs.get? (dir ++ [name]) = some (.link l) ∧
          ((rest = [] ∧ lookup = .entry ∧ t = .found (dir ++ [name]) (.link l)) ∨
            fs.behindLink lookup n (linkStart dir l) (steps l ++ rest) = .ok t))) := by
  rw [resolveSteps_name hname] at h
  split at h
  · cases h
  · split at h
    · cases h
    · next hlimit =>
        refine ⟨Nat.not_lt.mp hlimit, ?_⟩
        split at h
        · next hget =>
            split at h
            · next hrest => exact .inl ⟨hget, List.isEmpty_iff.mp hrest, (Except.ok.inj h).symm⟩
            · cases h
        · next hget => exact .inr (.inl ⟨hget, h⟩)
        · next c hget =>
            split at h
            · next hrest =>
                exact .inr (.inr (.inl ⟨c, hget, List.isEmpty_iff.mp hrest, (Except.ok.inj h).symm⟩))
            · cases h
        · next l hget =>
            refine .inr (.inr (.inr ⟨l, hget, ?_⟩))
            split at h
            · next hrest =>
                exact .inl ⟨List.isEmpty_iff.mp hrest.1, hrest.2, (Except.ok.inj h).symm⟩
            · exact .inr h

theorem resolveSteps_down_ok {t : Target} (hname : IsName name)
    (hlink : ∀ l, fs.get? (dir ++ [name]) ≠ some (.link l))
    (h : fs.resolveSteps lookup n dir (name :: rest) = .ok t) :
    name.utf8ByteSize ≤ nameLimit ∧
      ((rest = [] ∧ t.place = dir ++ [name] ∧ fs.get? (dir ++ [name]) = t.entry?) ∨
        (fs.get? (dir ++ [name]) = some .directory ∧
          fs.resolveSteps lookup n (dir ++ [name]) rest = .ok t)) := by
  obtain ⟨hlimit, ⟨hget, hrest, rfl⟩ | ⟨hget, h⟩ | ⟨c, hget, hrest, rfl⟩ | ⟨l, hget, _⟩⟩ :=
    resolveSteps_name_ok hname h
  · exact ⟨hlimit, .inl ⟨hrest, rfl, hget⟩⟩
  · exact ⟨hlimit, .inr ⟨hget, h⟩⟩
  · exact ⟨hlimit, .inl ⟨hrest, rfl, hget⟩⟩
  · exact absurd hget (hlink l)

theorem resolveSteps_link_ok {t : Target} {l : String} (hname : IsName name)
    (hl : fs.get? (dir ++ [name]) = some (.link l))
    (h : fs.resolveSteps lookup n dir (name :: rest) = .ok t) :
    name.utf8ByteSize ≤ nameLimit ∧
      ((rest = [] ∧ t = .found (dir ++ [name]) (.link l)) ∨
        fs.behindLink lookup n (linkStart dir l) (steps l ++ rest) = .ok t) := by
  obtain ⟨hlimit, h⟩ := resolveSteps_name_ok hname h
  simp only [hl, reduceCtorEq, false_and, false_or, exists_false, Option.some.injEq,
    Entry.link.injEq] at h
  obtain ⟨_, rfl, ⟨hrest, _, rfl⟩ | h⟩ := h
  · exact ⟨hlimit, .inl ⟨hrest, rfl⟩⟩
  · exact ⟨hlimit, .inr h⟩

end steps

/-! ### What a resolution finds -/

section outcome
variable {fs : FileSystem} {n : Nat} {dir : Place} {lookup : Lookup}

/-- A resolution that does not end at a link finds the end of the route, and what stands there; a
directory may also have been reached from below or be the start. -/
theorem resolveSteps_ok (names : List String) {t : Target}
    (h : fs.resolveSteps lookup n dir names = .ok t) (hlink : ∀ l, t.entry? ≠ some (.link l)) :
    (∃ k, (routeSteps fs n dir names).stop = some (t.place, k)) ∧
      ((t.place ∈ (routeSteps fs n dir names).way ∧ fs.get? t.place = t.entry?) ∨
        t = .found t.place .directory) := by
  induction n, dir, names using steps_induction fs with
  | nil n dir =>
      rw [resolveSteps_nil] at h
      obtain rfl := Except.ok.inj h
      rw [routeSteps_nil]
      exact ⟨⟨n, rfl⟩, .inr rfl⟩
  | idle n dir name rest hidle ih =>
      rw [resolveSteps_idle hidle] at h
      rw [routeSteps_idle hidle]
      exact ih h
  | up n dir rest ih =>
      rw [resolveSteps_up] at h
      rw [routeSteps_up]
      exact ih h
  | down n dir name rest hname hnolink ih =>
      rw [routeSteps_down hname hnolink]
      obtain ⟨_, ⟨rfl, hplace, hget⟩ | ⟨hget, h⟩⟩ := resolveSteps_down_ok hname hnolink h
      · rw [routeSteps_nil, hplace]
        exact ⟨⟨n, rfl⟩, .inl ⟨List.mem_cons_self, hget⟩⟩
      · obtain ⟨hstop, ⟨hmem, hplace⟩ | hdir⟩ := ih h
        · exact ⟨hstop, .inl ⟨List.mem_cons_of_mem _ hmem, hplace⟩⟩
        · exact ⟨hstop, .inr hdir⟩
  | blocked dir name rest l hname hl =>
      obtain ⟨_, ⟨_, rfl⟩ | hbehind⟩ := resolveSteps_link_ok hname hl h
      · exact absurd rfl (hlink l)
      · cases hbehind
  | link n dir name rest l hname hl ih =>
      rw [routeSteps_link hname hl]
      obtain ⟨_, ⟨_, rfl⟩ | hbehind⟩ := resolveSteps_link_ok hname hl h
      · exact absurd rfl (hlink l)
      · obtain ⟨hstop, ⟨hmem, hplace⟩ | hdir⟩ := ih hbehind
        · exact ⟨hstop, .inl ⟨List.mem_cons_of_mem _ hmem, hplace⟩⟩
        · exact ⟨hstop, .inr hdir⟩

/-- A resolution looks at no place that is not on the route. -/
theorem resolveSteps_congr {fs' : FileSystem} (names : List String)
    (h : ∀ place ∈ (routeSteps fs n dir names).way, fs'.get? place = fs.get? place) :
    fs'.resolveSteps lookup n dir names = fs.resolveSteps lookup n dir names := by
  induction n, dir, names using steps_induction fs with
  | nil n dir => rw [resolveSteps_nil, resolveSteps_nil]
  | idle n dir name rest hidle ih =>
      rw [routeSteps_idle hidle] at h
      rw [resolveSteps_idle hidle, resolveSteps_idle hidle, ih h]
  | up n dir rest ih =>
      rw [routeSteps_up] at h
      rw [resolveSteps_up, resolveSteps_up, ih h]
  | down n dir name rest hname hlink ih =>
      rw [routeSteps_down hname hlink] at h
      have hrest := ih (fun place hp => h place (List.mem_cons_of_mem _ hp))
      rw [resolveSteps_name hname, resolveSteps_name hname, h _ List.mem_cons_self]
      cases hget : fs.get? (dir ++ [name]) with
      | none => rfl
      | some entry =>
          cases entry with
          | file c => rfl
          | directory => simp only [hrest]
          | link l => exact absurd hget (hlink l)
  | blocked dir name rest l hname hl =>
      rw [routeSteps_blocked hname hl] at h
      rw [resolveSteps_name hname, resolveSteps_name hname, h _ List.mem_cons_self, hl]
      rfl
  | link n dir name rest l hname hl ih =>
      rw [routeSteps_link hname hl] at h
      have hrest := ih (fun place hp => h place (List.mem_cons_of_mem _ hp))
      rw [resolveSteps_name hname, resolveSteps_name hname, h _ List.mem_cons_self, hl]
      simp only [behindLink, hrest]

/-! ### Routes all of which exists -/

/-- A directory or a link with a name that is not too long: a resolution can go on from there. -/
def Passable (fs : FileSystem) (place : Place) : Prop :=
  (fs.get? place = some .directory ∨ ∃ l, fs.get? place = some (.link l)) ∧
    ∀ name, place.getLast? = some name → name.utf8ByteSize ≤ nameLimit

/-- The components lead to the directory `goal`, with `k` more links to follow. -/
structure Arrives (fs : FileSystem) (n : Nat) (dir : Place) (names : List String) (goal : Place)
    (k : Nat) : Prop where
  stop_eq : (routeSteps fs n dir names).stop = some (goal, k)
  passable : ∀ place ∈ (routeSteps fs n dir names).way, fs.Passable place

theorem passable_concat {name : String} (hlimit : name.utf8ByteSize ≤ nameLimit)
    (h : fs.get? (dir ++ [name]) = some .directory ∨ ∃ l, fs.get? (dir ++ [name]) = some (.link l)) :
    fs.Passable (dir ++ [name]) := by
  refine ⟨h, fun x hx => ?_⟩
  rw [List.getLast?_concat] at hx
  rwa [← Option.some.inj hx]

theorem asksForDirectory_append {more : List String} (hmore : ∃ name ∈ more, name ≠ "")
    (rest : List String) :
    asksForDirectory (rest ++ more) = false ∧ (rest ++ more).isEmpty = false := by
  obtain ⟨name, hmem, hne⟩ := hmore
  constructor
  · rw [asksForDirectory, Bool.and_eq_false_iff]
    refine .inr (List.all_eq_false.mpr ⟨name, List.mem_append_right _ hmem, ?_⟩)
    simpa using hne
  · rw [List.isEmpty_eq_false_iff]
    exact List.ne_nil_of_mem (List.mem_append_right rest hmem)

/-- Behind a route that exists, a resolution goes on from its end. -/
theorem Arrives.resolveSteps_append {names more : List String} {goal : Place} {k : Nat}
    (h : fs.Arrives n dir names goal k) (hmore : ∃ name ∈ more, name ≠ "") :
    fs.resolveSteps lookup n dir (names ++ more) = fs.resolveSteps lookup k goal more := by
  -- neither is anything at its end nor does what is left only ask for a directory
  have hasks := fun rest => (asksForDirectory_append hmore rest).1
  have hempty := fun rest => (asksForDirectory_append hmore rest).2
  induction n, dir, names using steps_induction fs with
  | nil n dir =>
      have hstop := h.stop_eq
      rw [routeSteps_nil] at hstop
      cases hstop
      rfl
  | idle n dir name rest hidle ih =>
      obtain ⟨hstop, hpass⟩ := h
      rw [routeSteps_idle hidle] at hstop hpass
      rw [List.cons_append, resolveSteps_idle hidle]
      exact ih ⟨hstop, hpass⟩
  | up n dir rest ih =>
      obtain ⟨hstop, hpass⟩ := h
      rw [routeSteps_up] at hstop hpass
      rw [List.cons_append, resolveSteps_up]
      exact ih ⟨hstop, hpass⟩
  | down n dir name rest hname hlink ih =>
      obtain ⟨hstop, hpass⟩ := h
      rw [routeSteps_down hname hlink] at hstop hpass
      obtain ⟨hget, hlimit⟩ := hpass _ List.mem_cons_self
      have hget : fs.get? (dir ++ [name]) = some .directory :=
        hget.resolve_right (fun ⟨l, hl⟩ => hlink l hl)
      rw [List.cons_append, resolveSteps_name hname, hasks, if_neg (by simp),
        if_neg (Nat.not_lt.mpr (hlimit name (List.getLast?_concat))), hget]
      exact ih ⟨hstop, fun place hp => hpass place (List.mem_cons_of_mem _ hp)⟩
  | blocked dir name rest t hname ht =>
      have hstop := h.stop_eq
      rw [routeSteps_blocked hname ht] at hstop
      cases hstop
  | link n dir name rest l hname hl ih =>
      obtain ⟨hstop, hpass⟩ := h
      rw [routeSteps_link hname hl] at hstop hpass
      obtain ⟨_, hlimit⟩ := hpass _ List.mem_cons_self
      rw [List.cons_append, resolveSteps_name hname, hasks, if_neg (by simp),
        if_neg (Nat.not_lt.mpr (hlimit name (List.getLast?_concat))), hl]
      simp only [hempty, Bool.false_eq_true, false_and, if_false, behindLink]
      rw [← List.append_assoc]
      exact ih ⟨hstop, fun place hp => hpass place (List.mem_cons_of_mem _ hp)⟩

/-- A resolution that goes on behind some components has arrived at the end of their route. -/
theorem arrives_of_resolveSteps {names more : List String} {t : Target} (hmore : more ≠ [])
    (h : fs.resolveSteps lookup n dir (names ++ more) = .ok t) :
    ∃ goal k, fs.Arrives n dir names goal k ∧ fs.resolveSteps lookup k goal more = .ok t := by
  have hne : ∀ rest : List String, rest ++ more ≠ [] := fun rest e =>
    hmore (List.append_eq_nil_iff.mp e).2
  induction n, dir, names using steps_induction fs with
  | nil n dir =>
      refine ⟨dir, n, ⟨by rw [routeSteps_nil], ?_⟩, h⟩
      rw [routeSteps_nil]
      exact fun place hp => absurd hp List.not_mem_nil
  | idle n dir name rest hidle ih =>
      rw [List.cons_append, resolveSteps_idle hidle] at h
      obtain ⟨goal, k, ⟨hstop, hpass⟩, h⟩ := ih h
      rw [← routeSteps_idle hidle] at hstop hpass
      exact ⟨goal, k, ⟨hstop, hpass⟩, h⟩
  | up n dir rest ih =>
      rw [List.cons_append, resolveSteps_up] at h
      obtain ⟨goal, k, ⟨hstop, hpass⟩, h⟩ := ih h
      rw [← routeSteps_up] at hstop hpass
      exact ⟨goal, k, ⟨hstop, hpass⟩, h⟩
  | down n dir name rest hname hlink ih =>
      rw [List.cons_append] at h
      obtain ⟨hlimit, ⟨hnil, _⟩ | ⟨hget, h⟩⟩ := resolveSteps_down_ok hname hlink h
      · exact absurd hnil (hne rest)
      · obtain ⟨goal, k, ⟨hstop, hpass⟩, h⟩ := ih h
        refine ⟨goal, k, ⟨by rw [routeSteps_down hname hlink]; exact hstop, ?_⟩, h⟩
        rw [routeSteps_down hname hlink]
        exact List.forall_mem_cons.mpr ⟨passable_concat hlimit (.inl hget), hpass⟩
  | blocked dir name rest l hname hl =>
      rw [List.cons_append] at h
      obtain ⟨_, ⟨hnil, _⟩ | hbehind⟩ := resolveSteps_link_ok hname hl h
      · exact absurd hnil (hne rest)
      · cases hbehind
  | link n dir name rest l hname hl ih =>
      rw [List.cons_append] at h
      obtain ⟨hlimit, ⟨hnil, _⟩ | hbehind⟩ := resolveSteps_link_ok hname hl h
      · exact absurd hnil (hne rest)
      · rw [behindLink, ← List.append_assoc] at hbehind
        obtain ⟨goal, k, ⟨hstop, hpass⟩, h⟩ := ih hbehind
        refine ⟨goal, k, ⟨by rw [routeSteps_link hname hl]; exact hstop, ?_⟩, h⟩
        rw [routeSteps_link hname hl]
        exact List.forall_mem_cons.mpr ⟨passable_concat hlimit (.inr ⟨l, hl⟩), hpass⟩

/-- All on the way of a resolution can be passed, but for what it finds at the end. -/
theorem passable_of_resolveSteps (names : List String) {t : Target}
    (h : fs.resolveSteps lookup n dir names = .ok t) (hlink : ∀ l, t.entry? ≠ some (.link l)) :
    ∀ place ∈ (routeSteps fs n dir names).way, fs.Passable place ∨
      (place = t.place ∧ fs.get? place = t.entry? ∧
        ∀ name, place.getLast? = some name → name.utf8ByteSize ≤ nameLimit) := by
  induction n, dir, names using steps_induction fs with
  | nil n dir =>
      rw [routeSteps_nil]
      exact fun place hp => absurd hp List.not_mem_nil
  | idle n dir name rest hidle ih =>
      rw [resolveSteps_idle hidle] at h
      rw [routeSteps_idle hidle]
      exact ih h
  | up n dir rest ih =>
      rw [resolveSteps_up] at h
      rw [routeSteps_up]
      exact ih h
  | down n dir name rest hname hnolink ih =>
      rw [routeSteps_down hname hnolink]
      obtain ⟨hlimit, ⟨rfl, hplace, hget⟩ | ⟨hget, h⟩⟩ := resolveSteps_down_ok hname hnolink h
      · rw [routeSteps_nil]
        refine List.forall_mem_singleton.mpr (.inr ⟨hplace.symm, hget, fun x hx => ?_⟩)
        rw [List.getLast?_concat] at hx
        rwa [← Option.some.inj hx]
      · exact List.forall_mem_cons.mpr ⟨.inl (passable_concat hlimit (.inl hget)), ih h⟩
  | blocked dir name rest l hname hl =>
      obtain ⟨_, ⟨_, rfl⟩ | hbehind⟩ := resolveSteps_link_ok hname hl h
      · exact absurd rfl (hlink l)
      · cases hbehind
  | link n dir name rest l hname hl ih =>
      rw [routeSteps_link hname hl]
      obtain ⟨hlimit, ⟨_, rfl⟩ | hbehind⟩ := resolveSteps_link_ok hname hl h
      · exact absurd rfl (hlink l)
      · exact List.forall_mem_cons.mpr ⟨.inl (passable_concat hlimit (.inr ⟨l, hl⟩)), ih hbehind⟩

theorem Arrives.congr {fs' : FileSystem} {names : List String} {goal : Place} {k : Nat}
    (h : fs.Arrives n dir names goal k)
    (hsame : ∀ place ∈ (routeSteps fs n dir names).way, fs'.get? place = fs.get? place) :
    fs'.Arrives n dir names goal k := by
  have hroute : routeSteps fs' n dir names = routeSteps fs n dir names :=
    routeSteps_congr names (fun place hp t => by rw [hsame place hp])
  refine ⟨hroute ▸ h.stop_eq, ?_⟩
  rw [hroute]
  intro place hp
  obtain ⟨hget, hlimit⟩ := h.passable place hp
  exact ⟨by rwa [hsame place hp], hlimit⟩

end outcome

/-! ### Paths -/

section paths
variable {fs : FileSystem} {p : Path} {lookup : Lookup}

/-- The resolution goes by the names of a path, and by a slash at its end. -/
theorem steps_text (p : Path) : steps p.text = p.names ∨ steps p.text = p.names ++ [""] := by
  unfold steps
  dsimp only
  split
  · exact .inr rfl
  · exact .inl (List.append_nil _)

theorem steps_of_getLast {s : String} (h : s.toList.getLast? ≠ some '/') :
    steps s = (⟨s⟩ : Path).names := by
  unfold steps
  dsimp only
  rw [if_neg, List.append_nil]
  · rfl
  · rintro ⟨hlength, hlast⟩
    rcases List.eq_nil_or_concat s.toList with hnil | ⟨init, c, hinit⟩
    · rw [hnil] at hlength
      exact absurd hlength (by decide)
    · rw [List.concat_eq_append] at hinit
      rw [hinit, List.getLast?_concat] at h
      have hc : '/' ∉ [c] := fun e => h (congrArg some (List.mem_singleton.mp e).symm)
      obtain ⟨piece, hpiece⟩ := Text.getLast?_splitAt_append hc init
      rw [hinit, hpiece] at hlast
      exact absurd (Option.some.inj hlast)
        (List.append_ne_nil_of_right_ne_nil _ (List.cons_ne_nil _ _))

theorem routeSteps_slash (n : Nat) (dir : Place) (names : List String) :
    routeSteps fs n dir (names ++ [""]) = routeSteps fs n dir names := by
  rw [routeSteps_append]
  generalize routeSteps fs n dir names = r
  obtain ⟨way, _ | ⟨place, k⟩⟩ := r
  · rfl
  · simp only [Route.andThen, routeSteps_idle (Or.inl rfl), routeSteps_nil, List.append_nil]

theorem routeSteps_text (n : Nat) (dir : Place) (p : Path) :
    routeSteps fs n dir (steps p.text) = routeSteps fs n dir p.names := by
  rcases steps_text p with h | h
  · rw [h]
  · rw [h, routeSteps_slash]

theorem resolve_ok {t : Target} (h : fs.resolve p lookup = .ok t) :
    p.text.isEmpty = false ∧ hasNul p.text = false ∧ p.text.utf8ByteSize ≤ pathLimit ∧
      fs.resolveSteps lookup linkLimit (fs.start p) (steps p.text) = .ok t := by
  unfold resolve at h
  split at h
  · cases h
  · next hempty =>
      split at h
      · cases h
      · next hnul =>
          split at h
          · cases h
          · next hlimit => exact ⟨by simpa using hempty, by simpa using hnul, Nat.not_lt.mp hlimit, h⟩

theorem resolve_goal {t : Target} (h : fs.resolve p lookup = .ok t)
    (hlink : ∀ l, t.entry? ≠ some (.link l)) :
    fs.goal? p = some t.place ∧
      ((t.place ∈ fs.way p ∧ fs.get? t.place = t.entry?) ∨ t = .found t.place .directory) := by
  obtain ⟨⟨k, hstop⟩, hplace⟩ := resolveSteps_ok _ (resolve_ok h).2.2.2 hlink
  rw [routeSteps_text] at hstop hplace
  exact ⟨by rw [goal?, route, hstop]; rfl, hplace⟩

theorem resolve_congr {fs' : FileSystem} (hcwd : fs'.cwd = fs.cwd)
    (h : ∀ place ∈ fs.way p, fs'.get? place = fs.get? place) :
    fs'.resolve p lookup = fs.resolve p lookup := by
  have hsteps : fs'.resolveSteps lookup linkLimit (fs.start p) (steps p.text) =
      fs.resolveSteps lookup linkLimit (fs.start p) (steps p.text) := by
    apply resolveSteps_congr
    rw [routeSteps_text]
    exact h
  rw [start] at hsteps
  rw [resolve, resolve, hcwd, hsteps]

/-! ### Paths in a directory -/

/-- All of the way of a path exists and leads into a directory. -/
def LeadsInto (fs : FileSystem) (p : Path) (dir : Place) : Prop :=
  ∃ k, fs.Arrives linkLimit (fs.start p) p.names dir k

/-- A path that a resolution does not refuse for its text. -/
def IsUsable (p : Path) : Prop :=
  p.text.isEmpty = false ∧ hasNul p.text = false ∧ p.text.utf8ByteSize ≤ pathLimit

theorem LeadsInto.goal?_eq {dir : Place} (h : fs.LeadsInto p dir) : fs.goal? p = some dir := by
  obtain ⟨k, h⟩ := h
  rw [goal?, route, h.stop_eq]
  rfl

/-- What stands on the way of a path that is resolved: directories and links, and what it leads to. -/
theorem way_of_resolve {t : Target} (h : fs.resolve p lookup = .ok t)
    (hlink : ∀ l, t.entry? ≠ some (.link l)) {place : Place} (hplace : place ∈ fs.way p) :
    fs.Passable place ∨ (place = t.place ∧ fs.get? place = t.entry? ∧
      ∀ name, place.getLast? = some name → name.utf8ByteSize ≤ nameLimit) := by
  have hpass := passable_of_resolveSteps _ (resolve_ok h).2.2.2 hlink
  rw [routeSteps_text] at hpass
  exact hpass place hplace

theorem leadsInto_of_resolve {dir : Place} (h : fs.resolve p lookup = .ok (.found dir .directory)) :
    fs.LeadsInto p dir := by
  have hlink : ∀ l, Target.entry? (.found dir .directory) ≠ some (.link l) := fun l hl => by cases hl
  obtain ⟨⟨k, hstop⟩, _⟩ := resolveSteps_ok _ (resolve_ok h).2.2.2 hlink
  rw [routeSteps_text] at hstop
  refine ⟨k, hstop, fun place hplace => ?_⟩
  rcases way_of_resolve h hlink hplace with hpass | ⟨_, hget, hlimit⟩
  · exact hpass
  · exact ⟨.inl hget, hlimit⟩

theorem LeadsInto.get?_ne_none {dir place : Place} (h : fs.LeadsInto p dir) (hplace : place ∈ fs.way p) :
    fs.get? place ≠ none := by
  obtain ⟨k, h⟩ := h
  rcases (h.passable place hplace).1 with hdir | ⟨l, hl⟩
  · simp [hdir]
  · simp [hl]

theorem start_join {q : Path} (hq : q.isAbsolute = false) : fs.start (p.join q) = fs.start p := by
  rw [start, start, Path.isAbsolute_join hq]

/-- A path whose names go on behind those of another one is resolved only if the other one leads
into a directory, and then it is resolved from there. -/
theorem resolve_behind_ok {r : Path} {more : List String} {t : Target}
    (hnames : r.names = p.names ++ more) (hstart : r.isAbsolute = p.isAbsolute) (hne : more ≠ [])
    (h : fs.resolve r lookup = .ok t) :
    ∃ dir k rest, fs.Arrives linkLimit (fs.start p) p.names dir k ∧
      (rest = more ∨ rest = more ++ [""]) ∧ fs.resolveSteps lookup k dir rest = .ok t := by
  obtain ⟨_, _, _, h⟩ := resolve_ok h
  have hsteps : ∃ rest, (rest = more ∨ rest = more ++ [""]) ∧ steps r.text = p.names ++ rest := by
    rcases steps_text r with hs | hs
    · exact ⟨_, .inl rfl, by rw [hs, hnames]⟩
    · exact ⟨_, .inr rfl, by rw [hs, hnames, List.append_assoc]⟩
  obtain ⟨rest, hrest, hsteps⟩ := hsteps
  have hrest' : rest ≠ [] := by
    rcases hrest with rfl | rfl
    · exact hne
    · exact List.append_ne_nil_of_left_ne_nil hne _
  have hsame : fs.start r = fs.start p := by rw [start, start, hstart]
  rw [hsteps, hsame] at h
  obtain ⟨dir, k, harrives, h⟩ := arrives_of_resolveSteps hrest' h
  exact ⟨dir, k, rest, harrives, hrest, h⟩

theorem resolve_join_ok {q : Path} {t : Target} (hq : q.isAbsolute = false) (hne : q.names ≠ [])
    (h : fs.resolve (p.join q) lookup = .ok t) :
    ∃ dir k rest, fs.Arrives linkLimit (fs.start p) p.names dir k ∧
      (rest = q.names ∨ rest = q.names ++ [""]) ∧ fs.resolveSteps lookup k dir rest = .ok t :=
  resolve_behind_ok (Path.names_join hq) (Path.isAbsolute_join hq) hne h

theorem resolve_behind {r : Path} {more : List String} {dir : Place} {k : Nat}
    (hnames : r.names = p.names ++ more) (hstart : r.isAbsolute = p.isAbsolute)
    (hmore : ∃ name ∈ more, name ≠ "") (hslash : r.text.toList.getLast? ≠ some '/')
    (husable : IsUsable r) (h : fs.Arrives linkLimit (fs.start p) p.names dir k) :
    fs.resolve r lookup = fs.resolveSteps lookup k dir more := by
  have hsame : fs.start r = fs.start p := by rw [start, start, hstart]
  rw [start] at hsame
  rw [resolve, if_neg (by simp [husable.1]), if_neg (by simp [husable.2.1]),
    if_neg (Nat.not_lt.mpr husable.2.2), hsame, steps_of_getLast hslash, hnames]
  exact h.resolveSteps_append hmore

/-- What stands under a name in a directory. -/
def child (fs : FileSystem) (dir : Place) (name : String) : Target :=
  match fs.get? (dir ++ [name]) with
  | none => .vacant dir name
  | some entry => .found (dir ++ [name]) entry

/-- A text that can be the name of an entry. -/
structure IsFileName (x : String) : Prop where
  isName : IsName x
  no_slash : '/' ∉ x.toList
  size_le : x.utf8ByteSize ≤ nameLimit

/-- A name behind a path that leads into a directory stands for what the directory has there, unless a
link is to be followed. -/
theorem resolve_child_of {x : String} {dir : Place} (hx : IsFileName x) (h : fs.LeadsInto p dir)
    (husable : IsUsable (p.joinText x))
    (hlink : lookup = .entry ∨ ∀ l, fs.get? (dir ++ [x]) ≠ some (.link l)) :
    fs.resolve (p.joinText x) lookup = .ok (fs.child dir x) := by
  obtain ⟨k, harrives⟩ := h
  have hchars : x.toList ≠ [] := fun e => hx.isName.1 (String.toList_eq_nil_iff.mp e)
  have hrel : (⟨x⟩ : Path).isAbsolute = false := Path.isAbsolute_of_not_mem hx.no_slash
  have hnames : (p.joinText x).names = p.names ++ [x] := by
    rw [Path.joinText, Path.names_join hrel, Path.names_of_not_mem hx.no_slash hx.isName.1]
  have hlast : (p.joinText x).text.toList.getLast? ≠ some '/' := by
    rw [Path.joinText, Path.getLast?_join hchars]
    exact fun e => hx.no_slash (List.mem_of_getLast? e)
  rw [resolve_behind hnames (Path.isAbsolute_join hrel)
      ⟨x, List.mem_singleton_self x, hx.isName.1⟩ hlast husable harrives,
    resolveSteps_name hx.isName, if_neg (by simp [asksForDirectory]),
    if_neg (Nat.not_lt.mpr hx.size_le), child]
  cases hget : fs.get? (dir ++ [x]) with
  | none => rfl
  | some entry =>
      cases entry with
      | file c => rfl
      | directory => exact resolveSteps_nil
      | link l =>
          rcases hlink with rfl | hlink
          · rfl
          · exact absurd hget (hlink l)

theorem resolve_child {x : String} {dir : Place} (hx : IsFileName x) (h : fs.LeadsInto p dir)
    (husable : IsUsable (p.joinText x)) :
    fs.resolve (p.joinText x) .entry = .ok (fs.child dir x) :=
  resolve_child_of hx h husable (.inl rfl)

theorem leadsInto_of_resolve_child {x : String} {t : Target} (hx : IsFileName x)
    (h : fs.resolve (p.joinText x) .entry = .ok t) :
    ∃ dir, fs.LeadsInto p dir ∧ t = fs.child dir x := by
  obtain ⟨hempty, hnul, hlimit, _⟩ := resolve_ok h
  have hnames : (⟨x⟩ : Path).names ≠ [] := by
    rw [Path.names_of_not_mem hx.no_slash hx.isName.1]
    exact List.cons_ne_nil _ _
  obtain ⟨dir, k, _, harrives, _⟩ :=
    resolve_join_ok (Path.isAbsolute_of_not_mem hx.no_slash) hnames h
  have hdir : fs.LeadsInto p dir := ⟨k, harrives⟩
  rw [resolve_child hx hdir ⟨hempty, hnul, hlimit⟩] at h
  exact ⟨dir, hdir, (Except.ok.inj h).symm⟩

theorem route_child {x : String} {dir : Place} {k : Nat} (hx : IsFileName x)
    (h : fs.Arrives linkLimit (fs.start p) p.names dir k) :
    fs.route (p.joinText x) =
      ⟨fs.way p ++ (routeSteps fs k dir [x]).way, (routeSteps fs k dir [x]).stop⟩ := by
  have hrel : (⟨x⟩ : Path).isAbsolute = false := Path.isAbsolute_of_not_mem hx.no_slash
  rw [route, Path.joinText, start_join hrel, Path.names_join hrel,
    Path.names_of_not_mem hx.no_slash hx.isName.1, routeSteps_append, Route.andThen, h.stop_eq]
  rfl

theorem leadsInto_child {x : String} {dir : Place} (hx : IsFileName x) (h : fs.LeadsInto p dir)
    (hget : fs.get? (dir ++ [x]) = some .directory) : fs.LeadsInto (p.joinText x) (dir ++ [x]) := by
  obtain ⟨k, harrives⟩ := h
  have hroute := route_child hx harrives
  rw [routeSteps_down hx.isName (by simp [hget]), routeSteps_nil] at hroute
  refine ⟨k, by rw [← route, hroute]; rfl, fun place hplace => ?_⟩
  rw [← route, hroute] at hplace
  rcases List.mem_append.mp hplace with hplace | hlast
  · exact harrives.passable place hplace
  · rw [List.mem_singleton.mp hlast]
    refine ⟨.inl hget, fun name hname => ?_⟩
    rw [List.getLast?_concat] at hname
    rw [← Option.some.inj hname]
    exact hx.size_le

theorem goal?_child {x : String} {dir : Place} (hx : IsFileName x) (h : fs.LeadsInto p dir)
    (hlink : ∀ l, fs.get? (dir ++ [x]) ≠ some (.link l)) :
    fs.goal? (p.joinText x) = some (dir ++ [x]) := by
  obtain ⟨k, harrives⟩ := h
  rw [goal?, route_child hx harrives, routeSteps_down hx.isName hlink, routeSteps_nil]
  rfl

theorem directory_of_leadsInto_child {x : String} {dir dir' : Place} (hx : IsFileName x)
    (h : fs.LeadsInto p dir) (h' : fs.LeadsInto (p.joinText x) dir')
    (hlink : ∀ l, fs.get? (dir ++ [x]) ≠ some (.link l)) : fs.get? (dir ++ [x]) = some .directory := by
  obtain ⟨k, harrives⟩ := h
  obtain ⟨_, hchild⟩ := h'
  have hmem : dir ++ [x] ∈ fs.way (p.joinText x) := by
    rw [way, route_child hx harrives, routeSteps_down hx.isName hlink]
    exact List.mem_append_right _ List.mem_cons_self
  exact (hchild.passable _ hmem).1.resolve_right (fun ⟨l, hl⟩ => hlink l hl)

theorem get?_of_leadsInto_child {x : String} {dir dir' : Place} (hx : IsFileName x)
    (h : fs.LeadsInto p dir) (h' : fs.LeadsInto (p.joinText x) dir') :
    fs.get? (dir ++ [x]) ≠ none := by
  intro hnone
  have hdir := directory_of_leadsInto_child hx h h' (by simp [hnone])
  rw [hnone] at hdir
  cases hdir

end paths

end FileSystem

end RequiredVersion
