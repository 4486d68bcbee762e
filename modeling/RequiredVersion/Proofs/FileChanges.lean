import Mathlib.Data.List.Induction
import RequiredVersion.Proofs.Routes
import RequiredVersion.Proofs.SortedMap

/-! # What operations change in a file system

Every operation is told by the view `FileSystem.get?`.  `Grows` sums up what making directories and
writing files does: a place keeps its entry, or gets a directory where nothing was, or a file where
nothing or a file was.  So no link comes or goes, and the routes of all paths stay as they are
(`Grows.route_eq`).  Directories are made along the way of a path (`makeDirectories_grows`), a file is
written at its end (`write_grows`), and what was written is read back (`read_write`). -/

namespace RequiredVersion.FileSystem

/-! ### Single entries -/

theorem get?_of_ne_nil (fs : FileSystem) {place : Place} (h : place ≠ []) :
    fs.get? place = fs.entries.get? place := by
  rw [get?, if_neg h]

theorem ne_nil_of_get? {fs : FileSystem} {place : Place} (h : fs.get? place ≠ some .directory) :
    place ≠ [] := fun e => h (e ▸ rfl)

theorem get?_put (fs : FileSystem) {place : Place} (hne : place ≠ []) (entry : Entry) (q : Place) :
    (fs.put place entry).get? q = if q = place then some entry else fs.get? q := by
  by_cases hq : q = []
  · rw [hq, if_neg (fun e => hne e.symm)]
    rfl
  · rw [get?_of_ne_nil _ hq, get?_of_ne_nil _ hq, put]
    by_cases hplace : q = place
    · rw [hplace, if_pos rfl, SortedMap.get?_insert_self]
    · rw [if_neg hplace, SortedMap.get?_insert_of_ne _ _ hplace]

theorem get?_eraseTree (fs : FileSystem) {place : Place} (hne : place ≠ []) (q : Place) :
    (fs.eraseTree place).get? q = if isWithin place q then none else fs.get? q := by
  by_cases hq : q = []
  · have hwithin : isWithin place [] = false := by
      cases place with
      | nil => exact absurd rfl hne
      | cons _ _ => rfl
    rw [hq, hwithin]
    rfl
  · rw [get?_of_ne_nil _ hq, get?_of_ne_nil _ hq, eraseTree, SortedMap.get?_filter]
    cases isWithin place q with
    | true => cases fs.entries.get? q <;> rfl
    | false => cases fs.entries.get? q <;> rfl

/-- Every entry stands in a directory. -/
def Closed (fs : FileSystem) : Prop :=
  ∀ place, place ≠ [] → fs.get? place ≠ none → fs.get? place.dropLast = some .directory

theorem Closed.get?_eq_none {fs : FileSystem} (h : fs.Closed) {root place : Place}
    (hnone : fs.get? root = none) (hwithin : isWithin root place = true) : fs.get? place = none := by
  obtain ⟨below, rfl⟩ := List.isPrefixOf_iff_prefix.mp hwithin
  clear hwithin
  -- the place above would be a directory, but nothing is there either
  induction below using List.reverseRecOn with
  | nil => rwa [List.append_nil]
  | append_singleton below name ih =>
      by_contra hsome
      have habove := h _ (by simp) hsome
      rw [← List.append_assoc, List.dropLast_concat, ih] at habove
      cases habove

theorem closed_empty : FileSystem.empty.Closed := by
  intro place hne hsome
  rw [get?_of_ne_nil _ hne] at hsome
  exact absurd rfl hsome

/-- An entry may be put where a directory has a free name. -/
theorem Closed.put {fs : FileSystem} (h : fs.Closed) {place : Place} (entry : Entry)
    (hne : place ≠ []) (hnone : fs.get? place = none)
    (habove : fs.get? place.dropLast = some .directory) : (fs.put place entry).Closed := by
  have hother : ∀ q, fs.get? q = some .directory → (fs.put place entry).get? q = some .directory := by
    intro q hq
    rw [get?_put _ hne, if_neg, hq]
    rintro rfl
    rw [hq] at hnone
    cases hnone
  intro q hq hsome
  by_cases hplace : q = place
  · rw [hplace]
    exact hother _ habove
  · rw [get?_put _ hne, if_neg hplace] at hsome
    exact hother _ (h q hq hsome)

/-! ### Growth -/

/-- From one file system to another, directories are made at some places and files are written at
some. -/
structure Grows (made written : Place → Prop) (fs fs' : FileSystem) : Prop where
  cwd_eq : fs'.cwd = fs.cwd
  entry : ∀ place, fs'.get? place = fs.get? place ∨
    (made place ∧ fs.get? place = none ∧ fs'.get? place = some .directory) ∨
    (written place ∧ (fs.get? place = none ∨ ∃ c, fs.get? place = some (.file c)) ∧
      ∃ c, fs'.get? place = some (.file c))

namespace Grows

variable {made written : Place → Prop} {fs fs' fs'' : FileSystem}

theorem refl (fs : FileSystem) : Grows made written fs fs := ⟨rfl, fun _ => .inl rfl⟩

theorem mono {made' written' : Place → Prop} (h : Grows made written fs fs')
    (hmade : ∀ place, made place → made' place)
    (hwritten : ∀ place, written place → written' place) : Grows made' written' fs fs' := by
  refine ⟨h.cwd_eq, fun place => ?_⟩
  rcases h.entry place with h | ⟨hm, h⟩ | ⟨hw, h⟩
  · exact .inl h
  · exact .inr (.inl ⟨hmade place hm, h⟩)
  · exact .inr (.inr ⟨hwritten place hw, h⟩)

theorem trans (h : Grows made written fs fs') (h' : Grows made written fs' fs'') :
    Grows made written fs fs'' := by
  refine ⟨h'.cwd_eq.trans h.cwd_eq, fun place => ?_⟩
  rcases h'.entry place with hkeep' | ⟨hm', hnone', hdir'⟩ | ⟨hw', hold', hfile'⟩
  · rw [hkeep']
    exact h.entry place
  · rcases h.entry place with hkeep | ⟨_, _, hdir⟩ | ⟨_, _, c, hfile⟩
    · exact .inr (.inl ⟨hm', by rw [← hkeep, hnone'], hdir'⟩)
    · rw [hdir] at hnone'; cases hnone'
    · rw [hfile] at hnone'; cases hnone'
  · rcases h.entry place with hkeep | ⟨_, _, hdir⟩ | ⟨hw, hold, _⟩
    · exact .inr (.inr ⟨hw', by rwa [hkeep] at hold', hfile'⟩)
    · rw [hdir] at hold'
      rcases hold' with h | ⟨_, h⟩ <;> cases h
    · exact .inr (.inr ⟨hw, hold, hfile'⟩)

theorem link_iff (h : Grows made written fs fs') (place : Place) (l : String) :
    fs'.get? place = some (.link l) ↔ fs.get? place = some (.link l) := by
  rcases h.entry place with hkeep | ⟨_, hnone, hdir⟩ | ⟨_, hold, c, hfile⟩
  · rw [hkeep]
  · rw [hnone, hdir]
    simp
  · rw [hfile]
    rcases hold with h | ⟨_, h⟩ <;> simp [h]

theorem routeSteps_eq (h : Grows made written fs fs') (n : Nat) (dir : Place) (names : List String) :
    fs'.routeSteps n dir names = fs.routeSteps n dir names :=
  routeSteps_congr names (fun place _ l => h.link_iff place l)

theorem route_eq (h : Grows made written fs fs') (p : Path) : fs'.route p = fs.route p := by
  rw [route, route, h.routeSteps_eq, start, start, h.cwd_eq]

theorem way_eq (h : Grows made written fs fs') (p : Path) : fs'.way p = fs.way p := by
  rw [way, way, h.route_eq]

theorem goal?_eq (h : Grows made written fs fs') (p : Path) : fs'.goal? p = fs.goal? p := by
  rw [goal?, goal?, h.route_eq]

theorem directory (h : Grows made written fs fs') {place : Place}
    (hdir : fs.get? place = some .directory) : fs'.get? place = some .directory := by
  rcases h.entry place with hkeep | ⟨_, hnone, _⟩ | ⟨_, hold, _⟩
  · rw [hkeep, hdir]
  · rw [hdir] at hnone; cases hnone
  · rw [hdir] at hold
    rcases hold with h | ⟨_, h⟩ <;> cases h

theorem passable (h : Grows made written fs fs') {place : Place} (hpass : fs.Passable place) :
    fs'.Passable place := by
  obtain ⟨hget, hlimit⟩ := hpass
  refine ⟨?_, hlimit⟩
  rcases hget with hdir | ⟨l, hl⟩
  · exact .inl (h.directory hdir)
  · exact .inr ⟨l, (h.link_iff place l).mpr hl⟩

theorem leadsInto (h : Grows made written fs fs') {p : Path} {dir : Place}
    (hp : fs.LeadsInto p dir) : fs'.LeadsInto p dir := by
  obtain ⟨k, hstop, hpass⟩ := hp
  have hstart : fs'.start p = fs.start p := by rw [start, start, h.cwd_eq]
  refine ⟨k, ?_, ?_⟩
  · rw [hstart, h.routeSteps_eq, hstop]
  · rw [hstart, h.routeSteps_eq]
    exact fun place hplace => h.passable (hpass place hplace)

theorem get?_eq (h : Grows made written fs fs') {place : Place} (hmade : ¬ made place)
    (hwritten : ¬ written place) : fs'.get? place = fs.get? place := by
  rcases h.entry place with hkeep | ⟨hm, _⟩ | ⟨hw, _⟩
  · exact hkeep
  · exact absurd hm hmade
  · exact absurd hw hwritten

end Grows

/-! ### Making directories -/

section directories
variable {fs fs' : FileSystem} {p : Path}

theorem filter_splitAt_slashes (cs : List Char) : ∀ ds : List Char, (∀ d ∈ ds, d = '/') →
    (Text.splitAt '/' (cs ++ ds)).filter (· != []) = (Text.splitAt '/' cs).filter (· != [])
  | [], _ => by rw [List.append_nil]
  | d :: ds, h => by
      have hd : d = '/' := h d List.mem_cons_self
      have hrest := filter_splitAt_slashes [] ds (fun c hc => h c (List.mem_cons_of_mem _ hc))
      rw [List.nil_append] at hrest
      rw [hd, Text.splitAt_append_cons, List.filter_append, hrest]
      simp [Text.splitAt]

theorem names_withoutSlashes (p : Path) :
    (withoutSlashes p).names = p.names ∧ (withoutSlashes p).isAbsolute = p.isAbsolute := by
  obtain ⟨ds, htext, hds⟩ : ∃ ds, p.text.toList = Text.dropEndWhile (· == '/') p.text.toList ++ ds ∧
      ∀ d ∈ ds, d = '/' := by
    refine ⟨(p.text.toList.reverse.takeWhile (· == '/')).reverse, ?_, ?_⟩
    · rw [Text.dropEndWhile, ← List.reverse_append, List.takeWhile_append_dropWhile,
        List.reverse_reverse]
    · intro d hd
      simpa using List.mem_takeWhile_imp (List.mem_reverse.mp hd)
  unfold withoutSlashes
  split
  · exact ⟨rfl, rfl⟩
  · next cs hne =>
      generalize Text.dropEndWhile (· == '/') p.text.toList = cs at htext hne
      constructor
      · rw [Path.names, Path.names, Path.pieces, Path.pieces, String.toList_ofList, htext,
          filter_splitAt_slashes cs ds hds]
      · obtain ⟨c, more, rfl⟩ := List.exists_cons_of_ne_nil hne
        rw [Path.isAbsolute, Path.isAbsolute, String.toList_ofList, htext]
        rfl

theorem route_withoutSlashes (p : Path) : fs.route (withoutSlashes p) = fs.route p := by
  obtain ⟨hnames, habs⟩ := names_withoutSlashes p
  rw [route, route, start, start, hnames, habs]

theorem makeDirectory_grows (h : fs.makeDirectory p = .ok fs') :
    Grows (· ∈ fs.way p) (fun _ => False) fs fs' := by
  unfold makeDirectory at h
  split at h
  · next dir name hresolve =>
      obtain rfl := Except.ok.inj h
      obtain ⟨_, ⟨hmem, hget⟩ | hdir⟩ := resolve_goal hresolve (fun l e => by cases e)
      · rw [way, route_withoutSlashes] at hmem
        refine ⟨rfl, fun place => ?_⟩
        rw [get?_put _ (by simp)]
        by_cases hplace : place = dir ++ [name]
        · rw [if_pos hplace, hplace]
          exact .inr (.inl ⟨hmem, hget, rfl⟩)
        · rw [if_neg hplace]
          exact .inl rfl
      · cases hdir
  · cases h
  · cases h

theorem ensureDirectory_grows (h : fs.ensureDirectory p = .ok fs') :
    Grows (· ∈ fs.way p) (fun _ => False) fs fs' := by
  unfold ensureDirectory at h
  split at h
  · next fs₁ hmake =>
      obtain rfl := Except.ok.inj h
      exact makeDirectory_grows hmake
  · split at h
    · obtain rfl := Except.ok.inj h
      exact .refl _
    · cases h

theorem way_of_names {q : Path} (hnames : q.names <+: p.names)
    (hstart : q.isAbsolute = p.isAbsolute) : fs.way q <+: fs.way p := by
  obtain ⟨more, hmore⟩ := hnames
  rw [way, way, route, route, start, start, hstart, ← hmore]
  exact way_prefix_append _ _

theorem way_parent? {q : Path} (h : p.parent? = some q) : fs.way q <+: fs.way p :=
  way_of_names (Path.names_parent? h).1 (Path.names_parent? h).2

theorem makeDirectoriesFrom_grows : ∀ (fuel : Nat) (fs : FileSystem) (p : Path),
    Grows (· ∈ fs.way p) (fun _ => False) fs (makeDirectoriesFrom fuel fs p).2
  | 0, fs, p => .refl fs
  | fuel + 1, fs, p => by
      unfold makeDirectoriesFrom
      split
      · exact .refl fs
      · split
        · next fs₁ hensure => exact ensureDirectory_grows hensure
        · split
          · exact .refl fs
          · next above habove =>
              -- what the recursion makes lies on the way of the path above
              have hrec : Grows (· ∈ fs.way p) (fun _ => False) fs
                  (makeDirectoriesFrom fuel fs above).2 :=
                (makeDirectoriesFrom_grows fuel fs above).mono
                  (fun place hplace => (way_parent? habove).subset hplace) (fun _ => id)
              split
              · next e fs₁ hfrom =>
                  rw [hfrom] at hrec
                  exact hrec
              · next fs₁ hfrom =>
                  rw [hfrom] at hrec
                  split
                  · next fs₂ hensure =>
                      have hlast := ensureDirectory_grows hensure
                      rw [hrec.way_eq p] at hlast
                      exact hrec.trans hlast
                  · exact hrec
        · exact .refl fs

/-- Making directories changes nothing but places on the way, where nothing was. -/
theorem makeDirectories_grows (fs : FileSystem) (p : Path) :
    Grows (· ∈ fs.way p) (fun _ => False) fs (fs.makeDirectories p).2 :=
  makeDirectoriesFrom_grows _ fs p

/-- Where a directory was made, every path that its own path goes on behind leads into a directory. -/
theorem ensureDirectory_leadsInto {q : Path} {more : List String} (hnames : p.names = q.names ++ more)
    (hstart : p.isAbsolute = q.isAbsolute) (hne : more ≠ []) (h : fs.ensureDirectory p = .ok fs') :
    ∃ dir, fs'.LeadsInto q dir := by
  have hgrows := ensureDirectory_grows h
  suffices hfs : ∃ dir, fs.LeadsInto q dir by
    obtain ⟨dir, hdir⟩ := hfs
    exact ⟨dir, hgrows.leadsInto hdir⟩
  unfold ensureDirectory at h
  split at h
  · next fs₁ hmake =>
      unfold makeDirectory at hmake
      split at hmake
      · next dir name hresolve =>
          obtain ⟨hnames', hstart'⟩ := names_withoutSlashes p
          obtain ⟨dir, k, _, harrives, _⟩ :=
            resolve_behind_ok (hnames'.trans hnames) (hstart'.trans hstart) hne hresolve
          exact ⟨dir, k, harrives⟩
      · cases hmake
      · cases hmake
  · split at h
    · next hdir =>
        unfold isDirectory at hdir
        split at hdir
        · next place hresolve =>
            obtain ⟨dir, k, _, harrives, _⟩ := resolve_behind_ok hnames hstart hne hresolve
            exact ⟨dir, k, harrives⟩
        · cases hdir
    · cases h

theorem makeDirectories_leadsInto {q : Path} {more : List String}
    (hnames : p.names = q.names ++ more) (hstart : p.isAbsolute = q.isAbsolute) (hne : more ≠ [])
    (h : fs.makeDirectories p = (.ok (), fs')) : ∃ dir, fs'.LeadsInto q dir := by
  rw [makeDirectories, makeDirectoriesFrom] at h
  split at h
  · next hempty =>
      have hnone : p.names = [] :=
        Path.names_of_text_empty (String.toList_eq_nil_iff.mpr (String.isEmpty_iff.mp hempty))
      rw [hnone] at hnames
      exact absurd (List.append_eq_nil_iff.mp hnames.symm).2 hne
  · split at h
    · next fs₁ hensure =>
        cases h
        exact ensureDirectory_leadsInto hnames hstart hne hensure
    · split at h
      · cases h
      · split at h
        · cases h
        · split at h
          · next fs₂ hensure =>
              cases h
              exact ensureDirectory_leadsInto hnames hstart hne hensure
          · cases h
    · cases h

end directories

/-! ### Writing files -/

section files
variable {fs fs' : FileSystem} {p : Path} {content : Content}

/-- A file is written at the end of the way of its path, where nothing or a file was. -/
theorem write_eq (h : fs.write p content = .ok fs') :
    ∃ t, fs.resolve p .creation = .ok t ∧ fs.goal? p = some t.place ∧ t.place ∈ fs.way p ∧
      fs.get? t.place = t.entry? ∧ (t.entry? = none ∨ ∃ c, t.entry? = some (.file c)) ∧
      fs' = fs.put t.place (.file content) := by
  unfold write at h
  split at h
  · next place c hresolve =>
      obtain ⟨hgoal, ⟨hmem, hget⟩ | hdir⟩ := resolve_goal hresolve (fun l e => by cases e)
      · exact ⟨_, hresolve, hgoal, hmem, hget, .inr ⟨c, rfl⟩, (Except.ok.inj h).symm⟩
      · cases hdir
  · cases h
  · next dir name hresolve =>
      obtain ⟨hgoal, ⟨hmem, hget⟩ | hdir⟩ := resolve_goal hresolve (fun l e => by cases e)
      · exact ⟨_, hresolve, hgoal, hmem, hget, .inl rfl, (Except.ok.inj h).symm⟩
      · cases hdir
  · cases h

theorem get?_write (h : fs.write p content = .ok fs') :
    ∃ goal, fs.goal? p = some goal ∧ goal ∈ fs.way p ∧
      (fs.get? goal = none ∨ ∃ c, fs.get? goal = some (.file c)) ∧ fs'.cwd = fs.cwd ∧
      ∀ place, fs'.get? place = if place = goal then some (.file content) else fs.get? place := by
  obtain ⟨t, _, hgoal, hmem, hget, hentry, rfl⟩ := write_eq h
  have hold : fs.get? t.place = none ∨ ∃ c, fs.get? t.place = some (.file c) := by rwa [hget]
  have hne : t.place ≠ [] := by
    apply ne_nil_of_get?
    rcases hold with h | ⟨c, h⟩ <;> rw [h] <;> simp
  exact ⟨t.place, hgoal, hmem, hold, rfl, get?_put fs hne _⟩

theorem write_grows (h : fs.write p content = .ok fs') :
    Grows (fun _ => False) (fun place => place ∈ fs.way p ∧ fs.goal? p = some place) fs fs' := by
  obtain ⟨goal, hgoal, hmem, hold, hcwd, hget⟩ := get?_write h
  refine ⟨hcwd, fun place => ?_⟩
  rw [hget]
  by_cases hplace : place = goal
  · rw [if_pos hplace, hplace]
    exact .inr (.inr ⟨⟨hmem, hgoal⟩, hold, content, rfl⟩)
  · rw [if_neg hplace]
    exact .inl rfl

theorem removeFile_eq (h : fs.removeFile p = .ok fs') :
    ∃ gone entry, fs.resolve p .entry = .ok (.found gone entry) ∧ fs'.cwd = fs.cwd ∧
      ∀ place, fs'.get? place = fs.get? place ∨ (place = gone ∧ fs'.get? place = none) := by
  unfold removeFile at h
  split at h
  · cases h
  · next gone entry _ hresolve =>
      obtain rfl := Except.ok.inj h
      refine ⟨gone, entry, hresolve, rfl, fun place => ?_⟩
      by_cases hroot : place = []
      · rw [hroot]
        exact .inl rfl
      · rw [get?_of_ne_nil _ hroot, get?_of_ne_nil _ hroot, SortedMap.get?_erase]
        split
        · next hplace => exact .inr ⟨hplace, rfl⟩
        · exact .inl rfl
  · cases h
  · cases h

/-! ### Reading what was written -/

/-- What is read at a path depends on its way alone. -/
theorem read_congr (hcwd : fs'.cwd = fs.cwd)
    (h : ∀ place ∈ fs.way p, fs'.get? place = fs.get? place) : fs'.read p = fs.read p := by
  rw [read, read, resolve_congr hcwd h]

/-- Behind a file that is written at the end of a route, the route leads to the file. -/
theorem resolveSteps_target_put {n : Nat} {dir : Place} (names : List String) {t : Target}
    (h : fs.resolveSteps .creation n dir names = .ok t)
    (hentry : t.entry? = none ∨ ∃ c, t.entry? = some (.file c)) :
    (fs.put t.place (.file content)).resolveSteps .target n dir names =
      .ok (.found t.place (.file content)) := by
  have hnolink : ∀ l, t.entry? ≠ some (.link l) := by
    intro l hl
    rcases hentry with h | ⟨c, h⟩ <;> rw [h] at hl <;> cases hl
  have hnodir : t.entry? ≠ some .directory := by
    intro hl
    rcases hentry with h | ⟨c, h⟩ <;> rw [h] at hl <;> cases hl
  -- what stands there now, so that no directory or link on the way is the place that is written
  have hold : fs.get? t.place = t.entry? := by
    rcases (resolveSteps_ok names h hnolink).2 with ⟨_, hget⟩ | hdir
    · exact hget
    · rw [hdir] at hnodir
      exact absurd rfl hnodir
  have hne : t.place ≠ [] := ne_nil_of_get? (by rwa [hold])
  induction n, dir, names using steps_induction fs with
  | nil n dir =>
      rw [resolveSteps_nil] at h
      cases Except.ok.inj h
      exact absurd rfl hnodir
  | idle n dir name rest hidle ih =>
      rw [resolveSteps_idle hidle] at h ⊢
      exact ih h
  | up n dir rest ih =>
      rw [resolveSteps_up] at h ⊢
      exact ih h
  | down n dir name rest hname hlink ih =>
      obtain ⟨hlimit, ⟨rfl, hplace, _⟩ | ⟨hget, h⟩⟩ := resolveSteps_down_ok hname hlink h
      · rw [resolveSteps_name hname, if_neg (by simp), if_neg (Nat.not_lt.mpr hlimit),
          get?_put _ hne, if_pos hplace.symm, hplace]
        rfl
      · have hother : dir ++ [name] ≠ t.place := fun e => hnodir (by rw [← hold, ← e, hget])
        rw [resolveSteps_name hname, if_neg (by simp), if_neg (Nat.not_lt.mpr hlimit),
          get?_put _ hne, if_neg hother, hget]
        exact ih h
  | blocked dir name rest l hname hl =>
      obtain ⟨_, ⟨_, ht⟩ | hbehind⟩ := resolveSteps_link_ok hname hl h
      · exact absurd (by rw [ht]; rfl) (hnolink l)
      · cases hbehind
  | link n dir name rest l hname hl ih =>
      obtain ⟨hlimit, ⟨_, ht⟩ | hbehind⟩ := resolveSteps_link_ok hname hl h
      · exact absurd (by rw [ht]; rfl) (hnolink l)
      · have hother : dir ++ [name] ≠ t.place := fun e => hnolink l (by rw [← hold, ← e, hl])
        rw [resolveSteps_name hname, if_neg (by simp), if_neg (Nat.not_lt.mpr hlimit),
          get?_put _ hne, if_neg hother, hl]
        simp only [reduceCtorEq, and_false, if_false, behindLink]
        exact ih hbehind

/-- **A file holds what was written to it.** -/
theorem read_write (h : fs.write p content = .ok fs') : fs'.read p = .ok content := by
  obtain ⟨t, hresolve, _, _, _, hentry, rfl⟩ := write_eq h
  obtain ⟨hempty, hnul, hlimit, hsteps⟩ := resolve_ok hresolve
  have htarget : (fs.put t.place (.file content)).resolve p .target =
      .ok (.found t.place (.file content)) := by
    rw [resolve, if_neg (by simp [hempty]), if_neg (by simp [hnul]), if_neg (Nat.not_lt.mpr hlimit)]
    exact resolveSteps_target_put _ hsteps hentry
  rw [read, htarget]

/-! ### Replacing the content of a file -/

theorem resolveSteps_of_asksForDirectory {lookup : Lookup} {n : Nat} {dir : Place} :
    ∀ {names : List String}, asksForDirectory names = true →
      fs.resolveSteps lookup n dir names = .ok (.found dir .directory)
  | [], h => by cases h
  | name :: rest, h => by
      have hall : ∀ x ∈ name :: rest, x = "" := by
        intro x hx
        rw [asksForDirectory, Bool.and_eq_true, List.all_eq_true] at h
        exact String.isEmpty_iff.mp (h.2 x hx)
      rw [resolveSteps_idle (.inl (hall name List.mem_cons_self))]
      cases rest with
      | nil => exact resolveSteps_nil
      | cons x rest =>
          apply resolveSteps_of_asksForDirectory
          rw [asksForDirectory, Bool.and_eq_true, List.all_eq_true]
          refine ⟨rfl, fun y hy => ?_⟩
          rw [hall y (List.mem_cons_of_mem _ hy)]
          rfl

/-- A path that leads to a file does not ask for a directory. -/
theorem not_asksForDirectory {lookup : Lookup} {n : Nat} {dir place : Place} {name : String}
    {rest : List String} {c : Content}
    (h : fs.resolveSteps lookup n dir (name :: rest) = .ok (.found place (.file c))) :
    asksForDirectory rest = false := by
  by_contra hasks
  have hasks : asksForDirectory rest = true := by simpa using hasks
  have hne : rest ≠ [] := fun e => by
    rw [e] at hasks
    cases hasks
  rw [← List.singleton_append] at h
  obtain ⟨goal, k, _, hrest⟩ := arrives_of_resolveSteps hne h
  rw [resolveSteps_of_asksForDirectory hasks] at hrest
  cases hrest

/-- A file that is there is found also to be written. -/
theorem resolveSteps_creation {n : Nat} {dir place : Place} {c : Content} (names : List String)
    (h : fs.resolveSteps .target n dir names = .ok (.found place (.file c))) :
    fs.resolveSteps .creation n dir names = .ok (.found place (.file c)) := by
  induction n, dir, names using steps_induction fs with
  | nil n dir =>
      rw [resolveSteps_nil] at h
      cases h
  | idle n dir name rest hidle ih =>
      rw [resolveSteps_idle hidle] at h ⊢
      exact ih h
  | up n dir rest ih =>
      rw [resolveSteps_up] at h ⊢
      exact ih h
  | down n dir name rest hname hlink ih =>
      rw [resolveSteps_name hname, not_asksForDirectory h, if_neg (by simp)]
      rw [resolveSteps_name hname, if_neg (by simp)] at h
      split
      · next hlimit =>
          rw [if_pos hlimit] at h
          cases h
      · next hlimit =>
          rw [if_neg hlimit] at h
          cases hget : fs.get? (dir ++ [name]) with
          | none =>
              rw [hget] at h
              exact h
          | some entry =>
              rw [hget] at h
              cases entry with
              | file c => exact h
              | directory => exact ih h
              | link l => exact absurd hget (hlink l)
  | blocked dir name rest l hname hl =>
      obtain ⟨_, ⟨_, ht⟩ | hbehind⟩ := resolveSteps_link_ok hname hl h
      · cases ht
      · cases hbehind
  | link n dir name rest l hname hl ih =>
      obtain ⟨hlimit, ⟨_, ht⟩ | hbehind⟩ := resolveSteps_link_ok hname hl h
      · cases ht
      · rw [resolveSteps_name hname, not_asksForDirectory h, if_neg (by simp),
          if_neg (Nat.not_lt.mpr hlimit), hl]
        simp only [reduceCtorEq, and_false, if_false]
        exact ih hbehind

end files

/-- What a path leads to when the file at a place has got another content. -/
def overwritten (place : Place) (content : Content) : Target → Target
  | .found q (.file c) => .found q (.file (if q = place then content else c))
  | t => t

section overwriting
variable {fs : FileSystem} {place : Place} {old : Content}

theorem resolveSteps_put_file (hold : fs.get? place = some (.file old)) (content : Content)
    (lookup : Lookup) (n : Nat) (dir : Place) (names : List String) :
    (fs.put place (.file content)).resolveSteps lookup n dir names =
      (fs.resolveSteps lookup n dir names).map (overwritten place content) := by
  have hne : place ≠ [] := ne_nil_of_get? (by rw [hold]; simp)
  induction n, dir, names using steps_induction fs with
  | nil n dir =>
      rw [resolveSteps_nil, resolveSteps_nil]
      rfl
  | idle n dir name rest hidle ih => rw [resolveSteps_idle hidle, resolveSteps_idle hidle, ih]
  | up n dir rest ih => rw [resolveSteps_up, resolveSteps_up, ih]
  | down n dir name rest hname hlink ih =>
      rw [resolveSteps_name hname, resolveSteps_name hname, get?_put _ hne]
      split
      · rfl
      · split
        · rfl
        · by_cases hplace : dir ++ [name] = place
          · rw [if_pos hplace, hplace, hold]
            dsimp only
            split
            · simp [Except.map, overwritten]
            · rfl
          · rw [if_neg hplace]
            cases hget : fs.get? (dir ++ [name]) with
            | none =>
                dsimp only
                split <;> rfl
            | some entry =>
                cases entry with
                | file c =>
                    dsimp only
                    split
                    · simp [Except.map, overwritten, hplace]
                    · rfl
                | directory => exact ih
                | link l => exact absurd hget (hlink l)
  | blocked dir name rest l hname hl =>
      have hother : dir ++ [name] ≠ place := fun e => by
        rw [e, hold] at hl
        cases hl
      rw [resolveSteps_name hname, resolveSteps_name hname, get?_put _ hne, if_neg hother, hl]
      split
      · rfl
      · split
        · rfl
        · dsimp only
          split <;> rfl
  | link n dir name rest l hname hl ih =>
      have hother : dir ++ [name] ≠ place := fun e => by
        rw [e, hold] at hl
        cases hl
      rw [resolveSteps_name hname, resolveSteps_name hname, get?_put _ hne, if_neg hother, hl]
      split
      · rfl
      · split
        · rfl
        · dsimp only
          split
          · rfl
          · exact ih

theorem resolve_put_file (hold : fs.get? place = some (.file old)) (content : Content) (p : Path)
    (lookup : Lookup) : (fs.put place (.file content)).resolve p lookup =
      (fs.resolve p lookup).map (overwritten place content) := by
  rw [resolve, resolve]
  split
  · rfl
  · split
    · rfl
    · split
      · rfl
      · exact resolveSteps_put_file hold content lookup _ _ _

theorem isFile_put_file (hold : fs.get? place = some (.file old)) (content : Content) (p : Path) :
    (fs.put place (.file content)).isFile p = fs.isFile p := by
  rw [isFile, isFile, resolve_put_file hold]
  rcases fs.resolve p .target with e | t
  · rfl
  · rcases t with ⟨q, c | _ | _⟩ | ⟨dir, name⟩ <;> rfl

theorem read_ok {p : Path} {content : Content} (h : fs.read p = .ok content) :
    ∃ place, fs.resolve p .target = .ok (.found place (.file content)) ∧
      fs.get? place = some (.file content) := by
  unfold read at h
  split at h
  · next place c hresolve =>
      obtain rfl := Except.ok.inj h
      refine ⟨place, hresolve, ?_⟩
      obtain ⟨_, ⟨_, hget⟩ | hdir⟩ := resolve_goal hresolve (fun l e => by cases e)
      · exact hget
      · cases hdir
  · cases h
  · cases h
  · cases h

/-- A path leads to the content that was put there, if it led to the old one, or where it led. -/
theorem read_put_file (hold : fs.get? place = some (.file old)) (content : Content) (p : Path) :
    (fs.put place (.file content)).read p = fs.read p ∨
      ((fs.put place (.file content)).read p = .ok content ∧ fs.read p = .ok old) := by
  cases hread : fs.read p with
  | error e =>
      rw [read] at hread
      rw [read, resolve_put_file hold]
      rcases hresolve : fs.resolve p .target with e' | t
      · rw [hresolve] at hread
        exact .inl hread
      · rw [hresolve] at hread
        rcases t with ⟨q, c | _ | _⟩ | ⟨dir, name⟩
        · cases hread
        · exact .inl hread
        · exact .inl hread
        · exact .inl hread
  | ok c =>
      obtain ⟨q, hresolve, hget⟩ := read_ok hread
      rw [read, resolve_put_file hold, hresolve]
      simp only [Except.map, overwritten]
      by_cases hq : q = place
      · rw [if_pos hq]
        rw [hq, hold] at hget
        cases hget
        exact .inr ⟨rfl, rfl⟩
      · rw [if_neg hq]
        exact .inl rfl

theorem write_of_read {p : Path} (h : fs.read p = .ok old) :
    ∃ place, fs.get? place = some (.file old) ∧
      ∀ content, fs.write p content = .ok (fs.put place (.file content)) := by
  obtain ⟨place, hresolve, hget⟩ := read_ok h
  obtain ⟨hempty, hnul, hlimit, hsteps⟩ := resolve_ok hresolve
  have hcreation : fs.resolve p .creation = .ok (.found place (.file old)) := by
    rw [resolve, if_neg (by simp [hempty]), if_neg (by simp [hnul]), if_neg (Nat.not_lt.mpr hlimit)]
    exact resolveSteps_creation _ hsteps
  exact ⟨place, hget, fun content => by rw [write, hcreation]⟩

end overwriting

end RequiredVersion.FileSystem
