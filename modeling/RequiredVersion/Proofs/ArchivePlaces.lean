import Mathlib
import RequiredVersion.Proofs.DataDirectory

/-! # Where archives stand

The archive of a release is named after the version, whose text may hold any characters behind its
numbers.  Without a slash this text is part of one name, so that the archive is an entry of the data
directory.  With slashes it is several names, among them perhaps `..`, and then the archive stands where
these names lead (`FileSystem.follow`), which may be outside of the data directory
(`Depot.archive_inside_iff`). -/

namespace RequiredVersion

open FileSystem

/-! ### Components -/

namespace Path

variable {p q : Path} {x c : String}

theorem components_of_pieces {first : List Char} {rest : List (List Char)}
    (h : p.pieces = first :: rest) :
    p.components = (if first = [] then [] else [String.ofList first]) ++
      (rest.filter (fun c => !isIdle c)).map String.ofList := by
  rw [components, h]
  dsimp only
  split
  · rfl
  · rfl

theorem not_mem_of_mem_components (h : c ∈ p.components) : '/' ∉ c.toList := by
  have hpieces : ∀ piece ∈ p.pieces, '/' ∉ (String.ofList piece).toList := by
    intro piece hpiece
    rw [String.toList_ofList]
    exact Text.not_mem_of_mem_splitAt '/' hpiece
  obtain ⟨first, rest, hp⟩ := List.exists_cons_of_ne_nil p.pieces_ne_nil
  rw [components_of_pieces hp] at h
  rw [hp] at hpieces
  rcases List.mem_append.mp h with hfirst | hrest
  · split at hfirst
    · cases hfirst
    · rw [List.mem_singleton.mp hfirst]
      exact hpieces first List.mem_cons_self
  · obtain ⟨piece, hpiece, rfl⟩ := List.mem_map.mp hrest
    exact hpieces piece (List.mem_cons_of_mem _ (List.mem_filter.mp hpiece).1)

theorem components_concat {ps : List (List Char)} {last : List Char} (hps : ps ≠ [])
    (hidle : isIdle last = false) (hp : p.pieces = ps ∨ p.pieces = ps ++ [[]])
    (hq : q.pieces = ps ++ [last]) : q.components = p.components ++ [String.ofList last] := by
  obtain ⟨first, rest, rfl⟩ := List.exists_cons_of_ne_nil hps
  rw [components_of_pieces hq]
  rcases hp with hp | hp
  · rw [components_of_pieces hp]
    simp [hidle]
  · have hempty : isIdle [] = true := rfl
    rw [components_of_pieces hp]
    simp [hidle, hempty]

theorem components_joinText (hx : IsPlain x) : (p.joinText x).components = p.components ++ [x] := by
  have hidle : isIdle x.toList = false := isIdle_toList hx.1.1 hx.1.2.1
  have hsplit : Text.splitAt '/' x.toList = [x.toList] := Text.splitAt_of_not_mem hx.2
  unfold joinText join
  rw [hx.isAbsolute, Bool.false_or]
  split
  · next hempty =>
      have hx' : (⟨x⟩ : Path).pieces = [x.toList] := hsplit
      have hp : p.pieces = [[]] := by rw [pieces, String.isEmpty_iff.mp hempty]; rfl
      have hne : x.toList ≠ [] := fun e => hx.1.1 (String.toList_eq_nil_iff.mp e)
      rw [components_of_pieces hx', components_of_pieces hp]
      simp [hne]
  · split
    · next hlast =>
        obtain ⟨init, hinit⟩ := List.getLast?_eq_some_iff.mp hlast
        have hp : p.pieces = Text.splitAt '/' init ++ [[]] := by
          rw [pieces, hinit, Text.splitAt_append_cons]
          rfl
        have hq : (⟨p.text ++ x⟩ : Path).pieces = Text.splitAt '/' init ++ [x.toList] := by
          rw [pieces, String.toList_append, hinit, List.append_assoc, List.singleton_append,
            Text.splitAt_append_cons, hsplit]
        rw [components_concat (Text.splitAt_ne_nil _ _) hidle (.inr hp) hq, String.ofList_toList]
    · have hq : (⟨p.text ++ "/" ++ x⟩ : Path).pieces = p.pieces ++ [x.toList] := by
        rw [pieces, String.toList_append, String.toList_append, List.append_assoc]
        change Text.splitAt '/' (p.text.toList ++ '/' :: x.toList) = _
        rw [Text.splitAt_append_cons, hsplit, pieces]
      rw [components_concat p.pieces_ne_nil hidle (.inl rfl) hq, String.ofList_toList]

theorem fileName?_eq_some (h : p.fileName? = some x) : x ∈ p.components := by
  unfold fileName? at h
  split at h
  · next name hname =>
      split at h
      · cases h
      · rw [← Option.some.inj h]
        exact List.mem_of_getLast? hname
  · cases h

theorem fileName?_joinText (hx : IsPlain x) : (p.joinText x).fileName? = some x := by
  rw [fileName?, components_joinText hx, List.getLast?_concat]
  exact if_neg (fun h => h.elim hx.1.2.1 hx.1.2.2)

theorem not_mem_of_mem_names (h : c ∈ p.names) : '/' ∉ c.toList := by
  obtain ⟨piece, hpiece, rfl⟩ := List.mem_map.mp h
  rw [String.toList_ofList]
  exact Text.not_mem_of_mem_splitAt '/' (List.mem_filter.mp hpiece).1

end Path

/-! ### Following names -/

namespace FileSystem

/-- Where names lead from a directory if there are no links. -/
def follow : Place → List String → Place
  | dir, [] => dir
  | dir, name :: rest =>
    if name = "" ∨ name = "." then follow dir rest
    else if name = ".." then follow dir.dropLast rest
    else follow (dir ++ [name]) rest

variable {fs : FileSystem} {p q : Path} {dir : Place}

theorem stop_of_noLinks (hlinks : Archive.NoLinks fs []) (n : Nat) (names : List String) :
    ∀ dir, (fs.routeSteps n dir names).stop = some (follow dir names, n) := by
  induction names with
  | nil =>
      intro dir
      rw [routeSteps_nil, follow]
  | cons name rest ih =>
      intro dir
      rw [follow]
      split
      · next hidle => rw [routeSteps_idle hidle, ih]
      · next hidle =>
          split
          · next hup =>
              subst hup
              rw [routeSteps_up, ih]
          · next hup =>
              have hname : IsName name :=
                ⟨fun h => hidle (.inl h), fun h => hidle (.inr h), hup⟩
              rw [routeSteps_down hname (fun l => hlinks _ l rfl)]
              exact ih (dir ++ [name])

theorem goal?_join_of_noLinks (hlinks : Archive.NoLinks fs []) (hq : q.isAbsolute = false)
    (hgoal : fs.goal? p = some dir) : fs.goal? (p.join q) = some (follow dir q.names) := by
  obtain ⟨⟨_, k⟩, hstop, rfl⟩ := Option.map_eq_some_iff.mp hgoal
  rw [goal?, route, start_join hq, Path.names_join hq, routeSteps_append]
  change (((fs.route p).andThen _).stop.map Prod.fst) = _
  rw [Route.andThen, hstop]
  dsimp only
  rw [stop_of_noLinks hlinks]
  rfl

theorem not_link_of_resolveSteps {lookup : Lookup} {n : Nat} {t : Target}
    (hlinks : Archive.NoLinks fs []) (names : List String) :
    ∀ dir, fs.resolveSteps lookup n dir names = .ok t → ∀ l, t.entry? ≠ some (.link l) := by
  induction names with
  | nil =>
      intro dir h l
      rw [resolveSteps_nil] at h
      cases h
      simp [Target.entry?]
  | cons name rest ih =>
      intro dir h
      by_cases hidle : name = "" ∨ name = "."
      · rw [resolveSteps_idle hidle] at h
        exact ih dir h
      by_cases hup : name = ".."
      · subst hup
        rw [resolveSteps_up] at h
        exact ih _ h
      have hname : IsName name := ⟨fun h => hidle (.inl h), fun h => hidle (.inr h), hup⟩
      obtain ⟨_, ⟨_, _, hentry⟩ | ⟨_, h⟩⟩ := resolveSteps_down_ok hname (fun l => hlinks _ l rfl) h
      · intro l
        rw [← hentry]
        exact hlinks _ l rfl
      · exact ih _ h

/-- Names lead up some of the way back, and from there down by some of the names. -/
theorem follow_eq (names : List String) : ∀ dir : Place, ∃ above below, above <+: dir ∧
    (∀ name ∈ below, name ∈ names) ∧ follow dir names = above ++ below := by
  induction names with
  | nil =>
      intro dir
      exact ⟨dir, [], List.prefix_refl dir, fun _ h => h, (List.append_nil dir).symm⟩
  | cons name rest ih =>
      intro dir
      have hrest : ∀ {start above below : Place}, above <+: start → start <+: dir →
          (∀ name ∈ below, name ∈ rest) → follow start rest = above ++ below →
          ∃ above below, above <+: dir ∧ (∀ n ∈ below, n ∈ name :: rest) ∧
            follow start rest = above ++ below :=
        fun habove hstart hbelow heq => ⟨_, _, habove.trans hstart,
          fun n hn => List.mem_cons_of_mem _ (hbelow n hn), heq⟩
      rw [follow]
      split
      · obtain ⟨above, below, habove, hbelow, heq⟩ := ih dir
        exact hrest habove (List.prefix_refl dir) hbelow heq
      · split
        · obtain ⟨above, below, habove, hbelow, heq⟩ := ih dir.dropLast
          exact hrest habove (List.dropLast_prefix dir) hbelow heq
        · obtain ⟨above, below, habove, hbelow, heq⟩ := ih (dir ++ [name])
          rcases List.prefix_concat_iff.mp habove with rfl | habove
          · -- the name itself is part of the way down
            refine ⟨dir, name :: below, List.prefix_refl dir, ?_, ?_⟩
            · intro n hn
              rcases List.mem_cons.mp hn with rfl | hn
              · exact List.mem_cons_self
              · exact List.mem_cons_of_mem _ (hbelow n hn)
            · rw [heq, List.append_assoc, List.singleton_append]
          · exact ⟨above, below, habove, fun n hn => List.mem_cons_of_mem _ (hbelow n hn), heq⟩

theorem mem_of_follow_eq {names : List String} {x : String} (h : follow dir names = dir ++ [x]) :
    x ∈ names := by
  obtain ⟨above, below, habove, hbelow, heq⟩ := follow_eq names dir
  rw [h] at heq
  rcases List.eq_nil_or_concat below with rfl | ⟨init, last, rfl⟩
  · have hlength := habove.length_le
    rw [List.append_nil] at heq
    rw [← heq, List.length_append, List.length_singleton] at hlength
    omega
  · have hlast := congrArg List.getLast? heq
    rw [List.concat_eq_append, ← List.append_assoc, List.getLast?_concat, List.getLast?_concat] at hlast
    rw [Option.some.inj hlast]
    exact hbelow last (by simp)

end FileSystem

/-! ### Archives -/

namespace Depot

open DataDirectory

variable {d : Depot} {version : Version} {dir : Place} {s : Session}

theorem mem_archiveName_iff {c : Char} (hc : c ∉ "wordpress-".toList ∧ c ∉ ".zip".toList) :
    c ∈ (archiveName version).toList ↔ c ∈ version.text.toList := by
  simp only [archiveName, String.toList_append, List.mem_append, hc.1, hc.2, false_or, or_false]

/-- Names lead to the entry of the data directory that is named after the version exactly if the
version has no slash. -/
theorem follow_archiveName_iff :
    follow dir (⟨archiveName version⟩ : Path).names = dir ++ [archiveName version] ↔
      '/' ∉ version.text.toList := by
  constructor
  · intro h hslash
    refine Path.not_mem_of_mem_names (mem_of_follow_eq h) ?_
    exact (mem_archiveName_iff (by decide)).mpr hslash
  · intro hv
    have hplain := isPlain_archiveName hv
    have hidle : ¬(archiveName version = "" ∨ archiveName version = ".") :=
      fun h => h.elim hplain.1.1 hplain.1.2.1
    rw [hplain.names, follow, if_neg hidle, if_neg hplain.1.2.2, follow]

/-- Supplying an archive writes a file at the end of its path, and makes directories on the way. -/
theorem get?_supply_of_goal {goal : Place}
    (hgoal : s.files.goal? (d.directory.archive version) = some goal) (place : Place) :
    ((d.supply version).outcome.run s).2.files.get? place = s.files.get? place ∨
      (place = goal ∧
        ∃ content, ((d.supply version).outcome.run s).2.files.get? place = some (.file content)) ∨
      (place ∈ s.files.way (d.directory.archive version) ∧ s.files.get? place = none ∧
        ((d.supply version).outcome.run s).2.files.get? place = some .directory) := by
  have hstores : s.files.Stores (d.directory.archive version)
      ((d.supply version).outcome.run s).2.files := stores_supply s (.refl s.files)
  rcases hstores.entry place with hkeep | hmade | ⟨⟨_, hplace⟩, _, hfile⟩
  · exact .inl hkeep
  · exact .inr (.inr hmade)
  · exact .inr (.inl ⟨Option.some.inj (hplace.symm.trans hgoal), hfile⟩)

theorem get?_finish_of_goal {goal : Place} (hlinks : Archive.NoLinks s.files [])
    (hgoal : s.files.goal? (d.directory.archive version) = some goal) (place : Place) :
    ((d.finish version).outcome.run s).2.files.get? place = s.files.get? place ∨
      (place = goal ∧ ((d.finish version).outcome.run s).2.files.get? place = none) := by
  rcases files_finish d version s with hsame | hremove
  · rw [hsame]
    exact .inl rfl
  · obtain ⟨gone, entry, hresolve, _, hget⟩ := removeFile_eq hremove
    have hgone : s.files.goal? (d.directory.archive version) = some gone :=
      (resolve_goal hresolve (not_link_of_resolveSteps hlinks _ _ (resolve_ok hresolve).2.2.2)).1
    obtain rfl : gone = goal := Option.some.inj (hgone.symm.trans hgoal)
    exact hget place

/-- **An archive stands in the data directory exactly if the version has no slash.**  The path of the
archive is that of the data directory with one more component, which is named after the version, only if
the text of the version has no slash, and then it always is; the same holds of the last component.
Without a slash, nothing but this entry of the data directory changes when the archive is supplied, and
when it is removed in the end, apart from directories that are made on the way to the data directory.
Where there are no links, the archive of any version is written at, and removed from, the place to which
the names in the path lead from the data directory, which is this entry only if there is no slash. -/
theorem archive_inside_iff (d : Depot) (version : Version) :
    ((d.directory.archive version).components =
      d.directory.path.components ++ [archiveName version] ↔ '/' ∉ version.text.toList) ∧
    ((d.directory.archive version).fileName? = some (archiveName version) ↔
      '/' ∉ version.text.toList) ∧
    (∀ dir s, Found d.directory dir s.files → '/' ∉ version.text.toList →
      Changes d.directory dir [archiveName version] s.files
        ((d.supply version).outcome.run s).2.files ∧
      Changes d.directory dir [archiveName version] s.files
        ((d.finish version).outcome.run s).2.files) ∧
    ∀ dir s, Archive.NoLinks s.files [] → s.files.goal? d.directory.path = some dir →
      let goal := follow dir (⟨archiveName version⟩ : Path).names
      (goal = dir ++ [archiveName version] ↔ '/' ∉ version.text.toList) ∧
      (∀ place, ((d.supply version).outcome.run s).2.files.get? place = s.files.get? place ∨
        (place = goal ∧
          ∃ content, ((d.supply version).outcome.run s).2.files.get? place = some (.file content)) ∨
        (place ∈ s.files.way (d.directory.archive version) ∧ s.files.get? place = none ∧
          ((d.supply version).outcome.run s).2.files.get? place = some .directory)) ∧
      ∀ place, ((d.finish version).outcome.run s).2.files.get? place = s.files.get? place ∨
        (place = goal ∧ ((d.finish version).outcome.run s).2.files.get? place = none) := by
  have hslash : archiveName version ∈ (d.directory.archive version).components →
      '/' ∉ version.text.toList := by
    intro hmem h
    exact Path.not_mem_of_mem_components hmem ((mem_archiveName_iff (by decide)).mpr h)
  refine ⟨⟨fun h => ?_, fun hv => ?_⟩, ⟨fun h => ?_, fun hv => ?_⟩, ?_, ?_⟩
  · exact hslash (by rw [h]; simp)
  · exact Path.components_joinText (isPlain_archiveName hv)
  · exact hslash (Path.fileName?_eq_some h)
  · exact Path.fileName?_joinText (isPlain_archiveName hv)
  · intro dir s hfound hv
    have hstores : s.files.Stores (d.directory.archive version)
        ((d.supply version).outcome.run s).2.files := stores_supply s (.refl s.files)
    exact ⟨changes_of_stores_entry hfound (isPlain_archiveName hv) hstores, changes_finish hfound hv⟩
  · intro dir s hlinks hgoal goal
    have hat : s.files.goal? (d.directory.archive version) = some goal :=
      goal?_join_of_noLinks hlinks (isAbsolute_archiveName version) hgoal
    exact ⟨follow_archiveName_iff, get?_supply_of_goal hat, get?_finish_of_goal hlinks hat⟩

/-- A version without slashes, and one whose archive is written outside of the data directory. -/
theorem archive_inside_iff_outside :
    let plain : Version := ⟨[6, 7, 1], none⟩
    let odd : Version := ⟨[6, 7], some ⟨.other, 0, "a/../../out"⟩⟩
    let d : Depot := ⟨⟨⟨"d"⟩⟩, ⟨⟨[], .ok odd⟩, fun _ => ⟨[], ⟨some (.archive []), none⟩⟩,
      fun failed _ => failed⟩, true, false⟩
    let s := Session.start (FileSystem.empty.put ["d"] .directory)
    Version.parse "6.7-a/../../out" = .ok odd ∧
      (d.directory.archive plain).fileName? = some "wordpress-6.7.1.zip" ∧
      Found d.directory ["d"] s.files ∧
      Changes d.directory ["d"] ["wordpress-6.7.1.zip"] s.files
        ((d.supply plain).outcome.run s).2.files ∧
      (d.directory.archive odd).fileName? ≠ some (archiveName odd) ∧
      Archive.NoLinks s.files [] ∧ s.files.goal? d.directory.path = some ["d"] ∧
      ((d.supply odd).outcome.run s).2.files.get? ["out.zip"] = some (.file (.archive [])) ∧
      ∀ place content, ((d.supply odd).outcome.run s).2.files.get? place = some (.file content) →
        place = ["out.zip"] := by
  intro plain odd d s
  have hlinks : Archive.NoLinks s.files [] :=
    (Archive.noLinks_empty _).put (List.cons_ne_nil _ _) (fun l hl => by cases hl)
  have hgoal : s.files.goal? d.directory.path = some ["d"] := by decide +kernel
  have hfound : Found d.directory ["d"] s.files := ⟨hgoal, fun place l _ => hlinks place l rfl⟩
  have hplain : '/' ∉ plain.text.toList := by decide +kernel
  have hfiles : ∀ place content, s.files.get? place ≠ some (.file content) := by
    intro place content h
    change (FileSystem.empty.put ["d"] .directory).get? place = _ at h
    rw [get?_put _ (List.cons_ne_nil _ _)] at h
    split at h
    · cases h
    · by_cases hroot : place = []
      · rw [hroot] at h
        cases h
      · rw [get?_of_ne_nil _ hroot] at h
        cases h
  obtain ⟨_, hname, hchanges, _⟩ := archive_inside_iff d plain
  obtain ⟨_, hname', _, hplace⟩ := archive_inside_iff d odd
  obtain ⟨_, hsupply, _⟩ := hplace ["d"] s hlinks hgoal
  refine ⟨by cbv, hname.mpr hplain, hfound, (hchanges ["d"] s hfound hplain).1, fun h => ?_, hlinks, hgoal,
    by decide +kernel, fun place content hfile => ?_⟩
  · exact absurd (hname'.mp h) (by decide +kernel)
  · rcases hsupply place with hkeep | ⟨heq, _⟩ | ⟨_, _, hdir⟩
    · rw [hfile] at hkeep
      exact absurd hkeep.symm (hfiles place content)
    · rw [heq]
      decide +kernel
    · rw [hfile] at hdir
      cases hdir

end Depot

end RequiredVersion
