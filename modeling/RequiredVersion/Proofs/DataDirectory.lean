import RequiredVersion.Proofs.Fetching

/-! # What runs change in the data directory

`Changes d dir names fs fs'` says that from one file system to another nothing changes but below the
entries of the data directory with the given names, and that the directory itself may be made.  Where
the data directory is found from outside and has no links (`Located`), it stays so (`Changes.located`),
so changes can be put one after the other (`Changes.trans`).

Every operation on a path behind the one of the data directory changes only what has its name there.
So all of bringing in a release, fail or not, changes nothing but the tree, what is unpacked beside it
and the archive (`Depot.changes_fetch`). -/

namespace RequiredVersion

/-! ### Names behind a path -/

namespace FileSystem

/-- A name without slashes, however long. -/
def IsPlain (x : String) : Prop := IsName x ∧ '/' ∉ x.toList

instance (x : String) : Decidable (IsPlain x) :=
  inferInstanceAs (Decidable (IsName x ∧ '/' ∉ x.toList))

section names
variable {fs : FileSystem} {p : Path} {x : String} {dir : Place} {lookup : Lookup}

theorem IsPlain.isAbsolute (hx : IsPlain x) : (⟨x⟩ : Path).isAbsolute = false :=
  Path.isAbsolute_of_not_mem hx.2

theorem IsPlain.names (hx : IsPlain x) : (⟨x⟩ : Path).names = [x] :=
  Path.names_of_not_mem hx.2 hx.1.1

theorem names_joinText (hx : IsPlain x) : (p.joinText x).names = p.names ++ [x] := by
  rw [Path.joinText, Path.names_join hx.isAbsolute, hx.names]

theorem route_joinText (hx : IsPlain x) (hgoal : fs.goal? p = some dir)
    (hlink : ∀ l, fs.get? (dir ++ [x]) ≠ some (.link l)) :
    fs.way (p.joinText x) = fs.way p ++ [dir ++ [x]] ∧
      fs.goal? (p.joinText x) = some (dir ++ [x]) := by
  obtain ⟨⟨_, k⟩, hstop, rfl⟩ := Option.map_eq_some_iff.mp hgoal
  have hroute : fs.route (p.joinText x) =
      (fs.route p).andThen (fun k place => fs.routeSteps k place [x]) := by
    rw [route, names_joinText hx, routeSteps_append, Path.joinText, start_join hx.isAbsolute]
    rfl
  rw [way, goal?, hroute, Route.andThen, hstop]
  simp only [routeSteps_down hx.1 hlink, routeSteps_nil]
  exact ⟨rfl, rfl⟩

/-- A name is found only in the directory that the path before it leads into. -/
theorem resolve_joinText_ok {t : Target} (hx : IsPlain x) (hgoal : fs.goal? p = some dir)
    (hlink : ∀ l, fs.get? (dir ++ [x]) ≠ some (.link l))
    (h : fs.resolve (p.joinText x) lookup = .ok t) :
    fs.LeadsInto p dir ∧ t.place = dir ++ [x] ∧ fs.get? (dir ++ [x]) = t.entry? := by
  obtain ⟨dir', k, rest, harrives, hrest, hsteps⟩ :=
    resolve_join_ok hx.isAbsolute (by rw [hx.names]; exact List.cons_ne_nil _ _) h
  have hleads : fs.LeadsInto p dir' := ⟨k, harrives⟩
  obtain rfl : dir' = dir := Option.some.inj (hleads.goal?_eq.symm.trans hgoal)
  obtain ⟨more, rfl, hmore⟩ : ∃ more, rest = x :: more ∧ (more = [] ∨ more = [""]) := by
    rw [hx.names] at hrest
    rcases hrest with rfl | rfl
    · exact ⟨[], rfl, .inl rfl⟩
    · exact ⟨[""], rfl, .inr rfl⟩
  obtain ⟨_, ⟨_, hplace, hget⟩ | ⟨hget, hdir⟩⟩ := resolveSteps_down_ok hx.1 hlink hsteps
  · exact ⟨hleads, hplace, hget⟩
  · have hnil : fs.resolveSteps lookup k (dir' ++ [x]) more =
        .ok (.found (dir' ++ [x]) .directory) := by
      rcases hmore with rfl | rfl
      · exact resolveSteps_nil
      · rw [resolveSteps_idle (.inl rfl), resolveSteps_nil]
    rw [hnil] at hdir
    cases hdir
    exact ⟨hleads, rfl, hget⟩

end names

theorem isWithin_of_child {dir place : Place} {x : String}
    (h : isWithin (dir ++ [x]) place = true) : isWithin dir place = true ∧ place ≠ dir := by
  obtain ⟨below, rfl⟩ := List.isPrefixOf_iff_prefix.mp h
  rw [List.append_assoc]
  exact ⟨isWithin_append _ _, by simp⟩

theorem eq_of_isWithin {dir place : Place} {x y : String} (hx : isWithin (dir ++ [x]) place = true)
    (hy : isWithin (dir ++ [y]) place = true) : x = y := by
  obtain ⟨below, rfl⟩ := List.isPrefixOf_iff_prefix.mp hx
  have hinitial := List.isPrefixOf_iff_prefix.mp hy
  rw [List.append_assoc, List.prefix_append_right_inj, List.singleton_append] at hinitial
  exact (List.cons_prefix_cons.mp hinitial).1.symm

/-! ### Moving -/

theorem cwd_foldl_put : ∀ (l : List (Place × Entry)) (fs : FileSystem),
    (l.foldl (fun fs e => fs.put e.1 e.2) fs).cwd = fs.cwd
  | [], _ => rfl
  | e :: l, fs => cwd_foldl_put l (fs.put e.1 e.2)

theorem get?_foldl_put (q : Place) : ∀ (l : List (Place × Entry)) (fs : FileSystem),
    (∀ e ∈ l, e.1 ≠ []) → (l.foldl (fun fs e => fs.put e.1 e.2) fs).get? q = fs.get? q ∨
      ∃ e ∈ l, e.1 = q ∧ (l.foldl (fun fs e => fs.put e.1 e.2) fs).get? q = some e.2
  | [], _, _ => .inl rfl
  | e :: l, fs, h => by
      obtain ⟨he, hl⟩ := List.forall_mem_cons.mp h
      rw [List.foldl_cons]
      rcases get?_foldl_put q l (fs.put e.1 e.2) hl with hkeep | ⟨e', he', hq, hget⟩
      · rw [hkeep, get?_put _ he]
        by_cases hq : q = e.1
        · rw [if_pos hq]
          exact .inr ⟨e, List.mem_cons_self, hq.symm, rfl⟩
        · rw [if_neg hq]
          exact .inl rfl
      · exact .inr ⟨e', List.mem_cons_of_mem _ he', hq, hget⟩

/-- What is moved stood below the old place, and comes to stand below the new one in the same way. -/
theorem mem_movedEntries_iff {fs : FileSystem} {source dest : Place} {e : Place × Entry}
    (hne : source ≠ []) : e ∈ fs.movedEntries source dest ↔
      ∃ below, e.1 = dest ++ below ∧ fs.get? (source ++ below) = some e.2 := by
  have hget : ∀ below entry, fs.get? (source ++ below) = some entry ↔
      (source ++ below, entry) ∈ fs.entries.entries := fun below entry => by
    rw [get?_of_ne_nil _ (List.append_ne_nil_of_left_ne_nil hne below), SortedMap.mem_entries_iff]
  rw [movedEntries, List.mem_filterMap]
  constructor
  · rintro ⟨⟨place, entry⟩, hmem, hmoved⟩
    dsimp only at hmoved
    split at hmoved
    · next hwithin =>
        obtain ⟨below, rfl⟩ := List.isPrefixOf_iff_prefix.mp hwithin
        obtain rfl := Option.some.inj hmoved
        exact ⟨below, by rw [List.drop_left], (hget below entry).mpr hmem⟩
    · cases hmoved
  · rintro ⟨below, hplace, hentry⟩
    refine ⟨_, (hget below e.2).mp hentry, ?_⟩
    rw [isWithin_append, if_pos rfl, List.drop_left, ← hplace]

theorem isWithin_of_mem_movedEntries {fs : FileSystem} {source dest : Place} {e : Place × Entry}
    (hne : source ≠ []) (h : e ∈ fs.movedEntries source dest) : isWithin dest e.1 = true := by
  obtain ⟨below, hplace, _⟩ := (mem_movedEntries_iff hne).mp h
  rw [hplace]
  exact isWithin_append _ _

end FileSystem

open FileSystem

namespace Archive

theorem staysBelow_of_not_mem : ∀ {cs : List String} (depth : Nat), ".." ∉ cs →
    staysBelow depth cs = true
  | [], _, _ => rfl
  | c :: cs, depth, h => by
      have hrest := List.not_mem_of_not_mem_cons h
      by_cases hdot : c = "."
      · subst hdot
        change staysBelow depth cs = true
        exact staysBelow_of_not_mem depth hrest
      · rw [staysBelow_name hdot (List.ne_of_not_mem_cons h).symm]
        exact staysBelow_of_not_mem (depth + 1) hrest

theorem up_not_mem_memberPath {name : String} (h : ".." ∉ (⟨name⟩ : Path).components) :
    ".." ∉ (memberPath name).parts := by
  have hparts : ".." ∉ (⟨name⟩ : Path).parts := by
    rw [← Path.filter_components]
    exact fun hmem => h (List.mem_filter.mp hmem).1
  unfold memberPath
  cases hdrop : (⟨name⟩ : Path).dropFirst? topName with
  | none => exact hparts
  | some q =>
      rw [(Path.dropFirst?_eq (by decide) hdrop).2] at hparts
      exact List.not_mem_of_not_mem_cons hparts

theorem staysBelow_memberPath_of_not_mem {name : String}
    (h : ".." ∉ (⟨name⟩ : Path).components) : staysBelow 0 (memberPath name).components = true := by
  rw [← staysBelow_filter, Path.filter_components]
  exact staysBelow_of_not_mem 0 (up_not_mem_memberPath h)

/-- No member that is unpacked has a path that goes above its start. -/
def StaysInside (members : List (String × Member)) : Prop :=
  ∀ name ∈ members.map Prod.fst, isSafe name = true →
    staysBelow 0 (memberPath name).components = true

theorem staysInside_of_not_mem {members : List (String × Member)}
    (h : ∀ name ∈ members.map Prod.fst, ".." ∉ (⟨name⟩ : Path).components) : StaysInside members :=
  fun name hname _ => staysBelow_memberPath_of_not_mem (h name hname)

end Archive

namespace DataDirectory

/-! ### Changes -/

/-- The path of the data directory leads to `dir`, and there are no links in it. -/
structure Found (d : DataDirectory) (dir : Place) (fs : FileSystem) : Prop where
  goal : fs.goal? d.path = some dir
  noLinks : Archive.NoLinks fs dir

/-- The path of the data directory leads to `dir`, not through anything in it, and there are no links
in it. -/
structure Located (d : DataDirectory) (dir : Place) (fs : FileSystem) : Prop where
  goal : fs.goal? d.path = some dir
  from_outside : ∀ place ∈ fs.way d.path, isWithin dir place = true → place = dir
  noLinks : Archive.NoLinks fs dir

/-- A place at or below one of the entries of a directory with the given names. -/
def Below (dir : Place) (names : List String) (place : Place) : Prop :=
  ∃ x ∈ names, isWithin (dir ++ [x]) place = true

/-- Nothing changes but below the entries with the given names, where no links come to stand, and that
directories are made on the way to the data directory. -/
structure Changes (d : DataDirectory) (dir : Place) (names : List String) (fs fs' : FileSystem) :
    Prop where
  cwd_eq : fs'.cwd = fs.cwd
  noLinks : Archive.NoLinks fs' dir
  entry : ∀ place, ¬ Below dir names place → fs'.get? place = fs.get? place ∨
    (place ∈ fs.way d.path ∧ fs.get? place = none ∧ fs'.get? place = some .directory)

section changes
variable {d : DataDirectory} {dir place : Place} {names names' : List String} {x y : String}
  {fs fs' fs'' : FileSystem}

theorem Below.within (h : Below dir names place) : isWithin dir place = true ∧ place ≠ dir := by
  obtain ⟨x, _, hwithin⟩ := h
  exact isWithin_of_child hwithin

theorem not_below (hx : x ∉ names) (hplace : isWithin (dir ++ [x]) place = true) :
    ¬ Below dir names place := by
  rintro ⟨y, hy, hwithin⟩
  rw [eq_of_isWithin hplace hwithin] at hx
  exact hx hy

namespace Found

theorem not_link (h : Found d dir fs) (l : String) : fs.get? (dir ++ [x]) ≠ some (.link l) :=
  h.noLinks _ l (isWithin_append _ _)

/-- The way of an entry of the data directory, and where it is. -/
theorem route_entry (h : Found d dir fs) (hx : IsPlain x) :
    fs.way (d.path.joinText x) = fs.way d.path ++ [dir ++ [x]] ∧
      fs.goal? (d.path.joinText x) = some (dir ++ [x]) :=
  route_joinText hx h.goal h.not_link

end Found

namespace Located

theorem found (h : Located d dir fs) : Found d dir fs := ⟨h.goal, h.noLinks⟩

theorem not_below_of_mem (h : Located d dir fs) (hplace : place ∈ fs.way d.path) :
    ¬ Below dir names place := by
  intro hbelow
  obtain ⟨hwithin, hne⟩ := hbelow.within
  exact hne (h.from_outside place hplace hwithin)

theorem not_mem_way (h : Located d dir fs) (hplace : isWithin (dir ++ [x]) place = true) :
    place ∉ fs.way d.path := by
  intro hmem
  obtain ⟨hwithin, hne⟩ := isWithin_of_child hplace
  exact hne (h.from_outside place hmem hwithin)

end Located

namespace Changes

theorem refl (h : Found d dir fs) : Changes d dir names fs fs :=
  ⟨rfl, h.noLinks, fun _ _ => .inl rfl⟩

theorem mono (h : Changes d dir names fs fs') (hnames : names ⊆ names') :
    Changes d dir names' fs fs' :=
  ⟨h.cwd_eq, h.noLinks, fun place hplace =>
    h.entry place (fun ⟨x, hx, hwithin⟩ => hplace ⟨x, hnames hx, hwithin⟩)⟩

theorem route_eq (h : Changes d dir names fs fs') (hloc : Located d dir fs) :
    fs'.route d.path = fs.route d.path := by
  rw [route, route, start, start, h.cwd_eq]
  refine routeSteps_congr _ (fun place hplace l => ?_)
  rcases h.entry place (hloc.not_below_of_mem hplace) with hkeep | ⟨_, hnone, hdir⟩
  · rw [hkeep]
  · rw [hnone, hdir]
    simp

theorem way_eq (h : Changes d dir names fs fs') (hloc : Located d dir fs) :
    fs'.way d.path = fs.way d.path := by
  rw [way, way, h.route_eq hloc]

theorem located (h : Changes d dir names fs fs') (hloc : Located d dir fs) : Located d dir fs' := by
  refine ⟨?_, ?_, h.noLinks⟩
  · rw [goal?, h.route_eq hloc]
    exact hloc.goal
  · rw [h.way_eq hloc]
    exact hloc.from_outside

theorem trans (h : Changes d dir names fs fs') (h' : Changes d dir names fs' fs'')
    (hloc : Located d dir fs) : Changes d dir names fs fs'' := by
  refine ⟨h'.cwd_eq.trans h.cwd_eq, h'.noLinks, fun place hplace => ?_⟩
  rcases h'.entry place hplace with hkeep' | ⟨hmem, hnone', hdir'⟩
  · rw [hkeep']
    exact h.entry place hplace
  · rcases h.entry place hplace with hkeep | ⟨_, _, hdir⟩
    · exact .inr ⟨by rwa [h.way_eq hloc] at hmem, by rw [← hkeep, hnone'], hdir'⟩
    · rw [hdir] at hnone'
      cases hnone'

theorem get?_eq (h : Changes d dir names fs fs') (hloc : Located d dir fs) (hx : x ∉ names)
    (hplace : isWithin (dir ++ [x]) place = true) : fs'.get? place = fs.get? place := by
  rcases h.entry place (not_below hx hplace) with hkeep | ⟨hmem, _⟩
  · exact hkeep
  · exact absurd hmem (hloc.not_mem_way hplace)

/-- If the data directory is there, its way is as it was. -/
theorem get?_way (h : Changes d dir names fs fs') (hloc : Located d dir fs)
    (hleads : fs.LeadsInto d.path dir) (hplace : place ∈ fs.way d.path) :
    fs'.get? place = fs.get? place := by
  obtain ⟨k, harrives⟩ := hleads
  rcases h.entry place (hloc.not_below_of_mem hplace) with hkeep | ⟨_, hnone, _⟩
  · exact hkeep
  · rcases (harrives.passable place hplace).1 with hdir | ⟨l, hl⟩
    · rw [hnone] at hdir
      cases hdir
    · rw [hnone] at hl
      cases hl

theorem leadsInto (h : Changes d dir names fs fs') (hloc : Located d dir fs)
    (hleads : fs.LeadsInto d.path dir) : fs'.LeadsInto d.path dir := by
  have hway : ∀ place ∈ fs.way d.path, fs'.get? place = fs.get? place :=
    fun place => h.get?_way hloc hleads
  obtain ⟨k, harrives⟩ := hleads
  refine ⟨k, ?_⟩
  rw [show fs'.start d.path = fs.start d.path by rw [start, start, h.cwd_eq]]
  exact harrives.congr hway

theorem read_eq (h : Changes d dir names fs fs') (hloc : Located d dir fs)
    (hleads : fs.LeadsInto d.path dir) (hplain : IsPlain x) (hx : x ∉ names) :
    fs'.read (d.path.joinText x) = fs.read (d.path.joinText x) := by
  refine read_congr h.cwd_eq (fun place hplace => ?_)
  rw [(hloc.found.route_entry hplain).1] at hplace
  rcases List.mem_append.mp hplace with hway | hlast
  · exact h.get?_way hloc hleads hway
  · rw [List.mem_singleton.mp hlast]
    exact h.get?_eq hloc hx (isWithin_self _)

end Changes

/-! ### Operations -/

theorem changes_of_grows {made written : Place → Prop} (hfound : Found d dir fs)
    (h : Grows made written fs fs')
    (hmade : ∀ place, made place → place ∈ fs.way d.path ∨ Below dir names place)
    (hwritten : ∀ place, written place → Below dir names place) : Changes d dir names fs fs' := by
  refine ⟨h.cwd_eq, fun place l hplace hl => hfound.noLinks place l hplace ((h.link_iff place l).mp hl),
    fun place hplace => ?_⟩
  rcases h.entry place with hkeep | ⟨hm, hentry⟩ | ⟨hw, _⟩
  · exact .inl hkeep
  · exact .inr ⟨(hmade place hm).resolve_right hplace, hentry⟩
  · exact absurd (hwritten place hw) hplace

/-- Storing a file changes only what its path goes through in the data directory. -/
theorem changes_of_stores {path : Path} {more : List Place} {goal : Place} (hfound : Found d dir fs)
    (h : fs.Stores path fs') (hway : fs.way path = fs.way d.path ++ more)
    (hmore : ∀ place ∈ more, Below dir names place) (hgoal : fs.goal? path = some goal)
    (hlast : Below dir names goal) : Changes d dir names fs fs' := by
  refine changes_of_grows hfound h (fun place hplace => ?_) (fun place hplace => ?_)
  · rw [hway] at hplace
    exact (List.mem_append.mp hplace).imp_right (hmore place)
  · obtain rfl : goal = place := Option.some.inj (hgoal.symm.trans hplace.2)
    exact hlast

theorem below_self : Below dir [x] (dir ++ [x]) := ⟨x, List.mem_singleton_self x, isWithin_self _⟩

theorem changes_of_stores_entry (hfound : Found d dir fs) (hx : IsPlain x)
    (h : fs.Stores (d.path.joinText x) fs') : Changes d dir [x] fs fs' := by
  obtain ⟨hway, hgoal⟩ := hfound.route_entry hx
  exact changes_of_stores hfound h hway (List.forall_mem_singleton.mpr below_self) hgoal below_self

theorem changes_of_removed (hfound : Found d dir fs) (hcwd : fs'.cwd = fs.cwd)
    (h : ∀ place, fs'.get? place = fs.get? place ∨
      (isWithin (dir ++ [x]) place = true ∧ fs'.get? place = none)) : Changes d dir [x] fs fs' := by
  refine ⟨hcwd, fun place l hplace hl => ?_, fun place hplace => ?_⟩
  · rcases h place with hkeep | ⟨_, hnone⟩
    · rw [hkeep] at hl
      exact hfound.noLinks place l hplace hl
    · rw [hnone] at hl
      cases hl
  · refine (h place).imp_right (fun ⟨hwithin, _⟩ => ?_)
    exact absurd ⟨x, List.mem_singleton_self x, hwithin⟩ hplace

theorem changes_eraseTree (hfound : Found d dir fs) :
    Changes d dir [x] fs (fs.eraseTree (dir ++ [x])) := by
  refine changes_of_removed hfound rfl (fun place => ?_)
  rw [get?_eraseTree _ (by simp)]
  cases hwithin : isWithin (dir ++ [x]) place with
  | true => exact .inr ⟨rfl, rfl⟩
  | false => exact .inl rfl

theorem removeTree_eq (hfound : Found d dir fs) (hx : IsPlain x)
    (h : fs.removeTree (d.path.joinText x) = .ok fs') : fs' = fs.eraseTree (dir ++ [x]) := by
  unfold FileSystem.removeTree at h
  split at h
  · next place hresolve =>
      obtain ⟨_, rfl, _⟩ := resolve_joinText_ok hx hfound.goal hfound.not_link hresolve
      exact (Except.ok.inj h).symm
  · next place l hresolve =>
      obtain ⟨_, _, hget⟩ := resolve_joinText_ok hx hfound.goal hfound.not_link hresolve
      exact absurd hget (hfound.not_link l)
  · cases h
  · cases h
  · cases h

theorem changes_removeFile (hfound : Found d dir fs) (hx : IsPlain x)
    (h : fs.removeFile (d.path.joinText x) = .ok fs') : Changes d dir [x] fs fs' := by
  obtain ⟨gone, entry, hresolve, hcwd, hget⟩ := removeFile_eq h
  obtain ⟨_, hgone, _⟩ := resolve_joinText_ok hx hfound.goal hfound.not_link hresolve
  obtain rfl : gone = dir ++ [x] := hgone
  refine changes_of_removed hfound hcwd (fun place => (hget place).imp_right ?_)
  rintro ⟨rfl, hnone⟩
  exact ⟨isWithin_self _, hnone⟩

/-- A renaming moves all that is at an entry and below it to a name that is free. -/
theorem rename_eq (hfound : Found d dir fs) (hx : IsPlain x) (hy : IsPlain y)
    (h : fs.rename (d.path.joinText x) (d.path.joinText y) = .ok fs') :
    fs.get? (dir ++ [x]) ≠ none ∧
      fs' = (fs.movedEntries (dir ++ [x]) (dir ++ [y])).foldl (fun fs e => fs.put e.1 e.2)
        (fs.eraseTree (dir ++ [x])) := by
  unfold rename at h
  split at h
  · cases h
  · cases h
  · cases h
  · cases h
  · next source entry above name hsource hdest =>
      obtain ⟨_, hplace, hget⟩ := resolve_joinText_ok hx hfound.goal hfound.not_link hsource
      obtain rfl : source = dir ++ [x] := hplace
      obtain ⟨_, hplace, _⟩ := resolve_joinText_ok hy hfound.goal hfound.not_link hdest
      replace hplace : above ++ [name] = dir ++ [y] := hplace
      rw [hplace] at h
      refine ⟨?_, (Except.ok.inj h).symm⟩
      rw [hget]
      exact Option.some_ne_none entry

theorem ne_nil_of_mem_movedEntries {e : Place × Entry}
    (he : e ∈ fs.movedEntries (dir ++ [x]) (dir ++ [y])) : e.1 ≠ [] := by
  intro hnil
  have hwithin := isWithin_of_mem_movedEntries (by simp) he
  rw [hnil] at hwithin
  simpa using List.prefix_nil.mp (List.isPrefixOf_iff_prefix.mp hwithin)

/-- What stands somewhere after a renaming was not moved, or stood at the old place in the same way. -/
theorem get?_of_rename (hfound : Found d dir fs) (hx : IsPlain x) (hy : IsPlain y)
    (h : fs.rename (d.path.joinText x) (d.path.joinText y) = .ok fs') (place : Place) :
    fs'.get? place = (fs.eraseTree (dir ++ [x])).get? place ∨
      ∃ below entry, place = dir ++ [y] ++ below ∧ fs.get? (dir ++ [x] ++ below) = some entry ∧
        fs'.get? place = some entry := by
  obtain ⟨_, rfl⟩ := rename_eq hfound hx hy h
  rcases get?_foldl_put place (fs.movedEntries (dir ++ [x]) (dir ++ [y]))
    (fs.eraseTree (dir ++ [x])) (fun e => ne_nil_of_mem_movedEntries) with hkeep | ⟨e, he, rfl, hget⟩
  · exact .inl hkeep
  · obtain ⟨below, hplace, hentry⟩ := (mem_movedEntries_iff (by simp)).mp he
    exact .inr ⟨below, e.2, hplace, hentry, hget⟩

theorem changes_rename (hfound : Found d dir fs) (hx : IsPlain x) (hy : IsPlain y)
    (h : fs.rename (d.path.joinText x) (d.path.joinText y) = .ok fs') :
    Changes d dir [x, y] fs fs' := by
  have herased := changes_eraseTree (x := x) hfound
  have hcwd : fs'.cwd = fs.cwd := by
    rw [(rename_eq hfound hx hy h).2]
    exact cwd_foldl_put _ _
  refine ⟨hcwd, fun place l hplace hl => ?_, fun place hplace => ?_⟩
  · -- a link would have stood below the old place
    rcases get?_of_rename hfound hx hy h place with hkeep | ⟨below, entry, _, hentry, hget⟩
    · rw [hkeep] at hl
      exact herased.noLinks place l hplace hl
    · rw [hget] at hl
      rw [Option.some.inj hl] at hentry
      exact hfound.noLinks _ l (isWithin_of_child (isWithin_append (dir ++ [x]) below)).1 hentry
  · rcases get?_of_rename hfound hx hy h place with hkeep | ⟨below, _, rfl, _⟩
    · rw [hkeep]
      refine herased.entry place (fun ⟨z, hz, hwithin⟩ => hplace ⟨z, ?_, hwithin⟩)
      exact List.mem_cons.mpr (.inl (List.mem_singleton.mp hz))
    · exact absurd ⟨y, by simp, isWithin_append _ _⟩ hplace

end changes

/-! ### Runs -/

section runs
variable {d : DataDirectory} {dir : Place} {names : List String} {s : Session} {ε α β : Type}

theorem Changes.bind {x : Run ε α} {f : α → Run ε β} (hloc : Located d dir s.files)
    (hx : Changes d dir names s.files (x.outcome.run s).2.files)
    (hf : ∀ a s', x.outcome.run s = (.ok a, s') → Located d dir s'.files →
      Changes d dir names s'.files ((f a).outcome.run s').2.files) :
    Changes d dir names s.files ((x >>= f).outcome.run s).2.files := by
  rw [Run.run_bind]
  rcases hrun : x.outcome.run s with ⟨e | a, s'⟩
  · rw [hrun] at hx
    exact hx
  · rw [hrun] at hx
    exact hx.trans (hf a s' hrun (hx.located hloc)) hloc

theorem Changes.change {onError : Cause → ε} {f : FileSystem → Except Cause FileSystem}
    (hfound : Found d dir s.files) (h : ∀ fs', f s.files = .ok fs' → Changes d dir names s.files fs') :
    Changes d dir names s.files ((Run.change onError f).outcome.run s).2.files := by
  rw [Run.run_change]
  cases hf : f s.files with
  | ok fs => exact h fs hf
  | error e => exact .refl hfound

end runs

end DataDirectory

namespace Depot

open DataDirectory

variable {d : Depot} {version : Version} {dir : Place} {s : Session}

/-- The name of the archive of a release. -/
def archiveName (version : Version) : String := "wordpress-" ++ version.text ++ ".zip"

/-- The names of the tree and of what is unpacked beside it. -/
def treeNames : List String := ["wordpress", "wordpress-temp"]

theorem isPlain_archiveName (h : '/' ∉ version.text.toList) : IsPlain (archiveName version) := by
  have hlength : 2 < (archiveName version).toList.length := by
    simp [archiveName, String.toList_append]
  have hne : ∀ y : String, y.toList.length ≤ 2 → archiveName version ≠ y := by
    rintro _ hy rfl
    omega
  refine ⟨⟨hne _ (by decide), hne _ (by decide), hne _ (by decide)⟩, ?_⟩
  simpa [archiveName, String.toList_append] using h

theorem ne_archiveName {x : String} (version : Version) (h : ¬ ".zip".toList <:+ x.toList) :
    x ≠ archiveName version := by
  rintro rfl
  rw [archiveName, String.toList_append] at h
  exact h (List.suffix_append _ _)

theorem archiveName_not_mem (version : Version) : archiveName version ∉ treeNames := by
  simp [treeNames, (ne_archiveName (x := "wordpress") version (by decide)).symm,
    (ne_archiveName (x := "wordpress-temp") version (by decide)).symm]

theorem files_removeTree {x : String} (hfound : Found d.directory dir s.files) (hx : IsPlain x) :
    ((removeTree (d.directory.path.joinText x)).outcome.run s).2.files = s.files ∨
      ((removeTree (d.directory.path.joinText x)).outcome.run s).2.files =
        s.files.eraseTree (dir ++ [x]) := by
  rw [removeTree, Run.run_change]
  cases hremove : s.files.removeTree (d.directory.path.joinText x) with
  | ok fs => exact .inr (removeTree_eq hfound hx hremove)
  | error cause => cases cause <;> exact .inl rfl

theorem changes_removeTree {x : String} (hfound : Found d.directory dir s.files) (hx : IsPlain x) :
    Changes d.directory dir [x] s.files
      ((removeTree (d.directory.path.joinText x)).outcome.run s).2.files := by
  rcases files_removeTree hfound hx with hsame | herased
  · rw [hsame]
    exact .refl hfound
  · rw [herased]
    exact changes_eraseTree hfound

/-- Unpacking beside the tree changes nothing else, if the path of no member goes above its start. -/
theorem changes_extract {archive : Path} (hloc : Located d.directory dir s.files)
    (hmembers : ∀ members, s.files.read archive = .ok (.archive members) →
      Archive.StaysInside members) :
    Changes d.directory dir ["wordpress-temp"] s.files
      ((Archive.extract archive d.directory.staging).outcome.run s).2.files := by
  rcases Archive.unpacks_extract archive d.directory.staging s with hsame | ⟨members, hread, hgrows⟩
  · rw [hsame]
    exact .refl hloc.found
  · obtain ⟨hway, hgoal⟩ := hloc.found.route_entry (x := "wordpress-temp") (by decide)
    have hlinks : Archive.NoLinks s.files (dir ++ ["wordpress-temp"]) := fun place l hplace =>
      hloc.noLinks place l (isWithin_of_child hplace).1
    have hreached : ∀ place, Archive.Reached s.files d.directory.staging (members.map Prod.fst) place →
        Below dir ["wordpress-temp"] place := by
      intro place hplace
      rcases hplace.within_or_escaped hgoal hlinks with hwithin | ⟨name, hname, hsafe, hup, _⟩
      · exact ⟨_, List.mem_singleton_self _, hwithin⟩
      · rw [hmembers members hread name hname hsafe] at hup
        cases hup
    refine changes_of_grows hloc.found hgrows (fun place hplace => ?_) hreached
    rcases hplace with hplace | hplace
    · rw [DataDirectory.staging, hway] at hplace
      rcases List.mem_append.mp hplace with hplace | hplace
      · exact .inl hplace
      · rw [List.mem_singleton.mp hplace]
        exact .inr below_self
    · exact .inr (hreached place hplace)

theorem changes_finish (hfound : Found d.directory dir s.files) (hv : '/' ∉ version.text.toList) :
    Changes d.directory dir [archiveName version] s.files
      ((d.finish version).outcome.run s).2.files := by
  rcases files_finish d version s with hsame | hremove
  · rw [hsame]
    exact .refl hfound
  · exact changes_removeFile hfound (isPlain_archiveName hv) hremove

theorem changes_discard (hfound : Found d.directory dir s.files) :
    Changes d.directory dir ["wordpress"] s.files ((d.discard d.directory.tree).run s).2.files := by
  unfold discard
  split
  · exact .refl hfound
  · have hremoved := changes_removeTree (x := "wordpress") hfound (by decide)
    rw [Action.run_bind]
    split
    · exact hremoved
    · exact hremoved

end Depot

end RequiredVersion
