import RequiredVersion.Proofs.DataDirectory

/-! # Operations that succeed

What must stand where for an operation to succeed.  Directories are made along the names behind a path
that leads into a directory, if nothing but directories is in their way (`makeDirectories_joinNames`), and
a file is written, if no directory has its name (`write_child`).  So a file can be stored in a directory
that is there (`Run.store_child`). -/

namespace RequiredVersion

/-! ### Paths and names -/

namespace Path

/-- A path with names put behind it. -/
def joinNames (p : Path) (names : List String) : Path := names.foldl joinText p

theorem joinNames_concat (p : Path) (names : List String) (x : String) :
    p.joinNames (names ++ [x]) = (p.joinNames names).joinText x := by
  rw [joinNames, List.foldl_append]
  rfl

theorem join_eq {p q : Path} (hempty : p.text.isEmpty = false)
    (hlast : p.text.toList.getLast? ≠ some '/') (hq : q.isAbsolute = false) :
    p.join q = ⟨p.text ++ "/" ++ q.text⟩ := by
  rw [join, hq, hempty, if_neg (by simp), if_neg hlast]

/-- What comes before a name that is put behind a path is the same for all names. -/
theorem exists_text_joinText (p : Path) : ∃ before : String, ∀ x : String,
    (⟨x⟩ : Path).isAbsolute = false → (p.joinText x).text = before ++ x := by
  by_cases hempty : p.text.isEmpty = true
  · refine ⟨"", fun x _ => ?_⟩
    rw [joinText, join, hempty, Bool.or_true, if_pos rfl]
    exact String.empty_append.symm
  by_cases hslash : p.text.toList.getLast? = some '/'
  · refine ⟨p.text, fun x hx => ?_⟩
    rw [joinText, join, hx, if_neg (by simpa using hempty), if_pos hslash]
  · refine ⟨p.text ++ "/", fun x hx => ?_⟩
    rw [joinText, join, hx, if_neg (by simpa using hempty), if_neg hslash]

theorem isAbsolute_ofPieces {ps : List (List Char)} (hne : ps ≠ [])
    (hps : ∀ piece ∈ ps, piece ≠ [] ∧ '/' ∉ piece) : (ofPieces ps).isAbsolute = false := by
  rw [Bool.eq_false_iff, ne_eq, isAbsolute_iff,
    pieces_ofPieces hne (fun piece hpiece => (hps piece hpiece).2)]
  rintro ⟨piece, more, rfl⟩
  exact (hps [] List.mem_cons_self).1 rfl

/-- A path of which each piece is a name is put behind another one name by name. -/
theorem join_eq_joinNames : ∀ {ps : List (List Char)}, ps ≠ [] →
    (∀ piece ∈ ps, piece ≠ [] ∧ '/' ∉ piece) → ∀ {base : Path}, base.text.isEmpty = false →
      base.text.toList.getLast? ≠ some '/' →
        base.join (ofPieces ps) = base.joinNames (ps.map String.ofList)
  | [], hne, _, _, _, _ => absurd rfl hne
  | [c], _, _, base, _, _ => by simp [ofPieces, joinNames, joinText]
  | c :: c' :: rest, _, hps, base, hempty, hlast => by
      obtain ⟨⟨hc, hslash⟩, hrest⟩ := List.forall_mem_cons.mp hps
      rw [← String.toList_ofList (l := c)] at hc hslash
      have htext : (ofPieces (c :: c' :: rest)).text =
          String.ofList c ++ "/" ++ (ofPieces (c' :: rest)).text := by
        rw [← String.toList_inj]
        simp [ofPieces, List.intersperse]
      have hempty' : (base.joinText (String.ofList c)).text.isEmpty = false :=
        isEmpty_joinText (fun e => hc (String.toList_eq_nil_iff.mpr e))
      have hlast' : (base.joinText (String.ofList c)).text.toList.getLast? ≠ some '/' := by
        have hsame : (base.joinText (String.ofList c)).text.toList.getLast? =
            (String.ofList c).toList.getLast? := getLast?_join hc
        rw [hsame]
        exact fun e => hslash (List.mem_of_getLast? e)
      have ih := join_eq_joinNames (List.cons_ne_nil c' rest) hrest hempty' hlast'
      rw [List.map_cons, joinNames, List.foldl_cons, ← joinNames, ← ih,
        join_eq hempty' hlast' (isAbsolute_ofPieces (List.cons_ne_nil _ _) hrest), joinText,
        join_eq hempty hlast (isAbsolute_of_not_mem hslash),
        join_eq hempty hlast (isAbsolute_ofPieces (List.cons_ne_nil _ _) hps), htext]
      simp only [String.append_assoc]

theorem flatten_intersperse_initial (qs : List (List Char)) : ∀ ps : List (List Char),
    (ps.intersperse ['/']).flatten <+: ((ps ++ qs).intersperse ['/']).flatten
  | [] => List.nil_prefix
  | [c] => by
      cases qs with
      | nil => exact List.prefix_refl _
      | cons d more => simp [List.intersperse]
  | c :: c' :: rest => by
      have ih := flatten_intersperse_initial qs (c' :: rest)
      simpa [List.intersperse] using ih

theorem text_parent? {p q : Path} (h : p.parent? = some q) : q.text.toList <+: p.text.toList := by
  unfold parent? at h
  split at h
  · cases h
  · obtain ⟨more, hmore⟩ := pieces_above p
    generalize trimPieces (trimPieces p.pieces).dropLast = ps at h hmore
    split at h
    · split at h
      · next habs =>
          obtain rfl := Option.some.inj h
          unfold isAbsolute at habs
          obtain ⟨cs, hcs⟩ := List.head?_eq_some_iff.mp (eq_of_beq habs)
          rw [hcs]
          exact ⟨cs, rfl⟩
      · obtain rfl := Option.some.inj h
        exact List.nil_prefix
    · obtain rfl := Option.some.inj h
      have htext : p.text.toList = ((ps ++ more).intersperse ['/']).flatten := by
        rw [hmore, ← String.toList_ofList (l := (p.pieces.intersperse ['/']).flatten)]
        exact congrArg (fun q => q.text.toList) (ofPieces_pieces p).symm
      rw [htext, ofPieces, String.toList_ofList]
      exact flatten_intersperse_initial more ps

end Path

namespace FileSystem

section usable
variable {fs : FileSystem} {p q : Path} {x : String}

/-- A first part of the text of a path that can be asked for can be asked for too. -/
theorem isUsable_of_initial (hempty : p.text.isEmpty = false) (h : IsUsable q)
    (htext : p.text.toList <+: q.text.toList) : IsUsable p := by
  obtain ⟨more, hmore⟩ := htext
  have htext : q.text = p.text ++ String.ofList more := by
    rw [← String.toList_inj, String.toList_append, String.toList_ofList, hmore]
  obtain ⟨_, hnul, hlimit⟩ := h
  rw [htext] at hnul hlimit
  refine ⟨hempty, ?_, ?_⟩
  · rw [hasNul, String.toList_append, List.contains_append, Bool.or_eq_false_iff] at hnul
    exact hnul.1
  · rw [String.utf8ByteSize_append] at hlimit
    omega

theorem isUsable_of_join (hempty : p.text.isEmpty = false) (hq : q.isAbsolute = false)
    (h : IsUsable (p.join q)) : IsUsable p := by
  refine isUsable_of_initial hempty h ?_
  unfold Path.join
  rw [hq, hempty, if_neg (by simp)]
  split
  · rw [String.toList_append]
    exact List.prefix_append _ _
  · rw [String.toList_append, String.toList_append, List.append_assoc]
    exact List.prefix_append _ _

theorem getLast?_joinText (hx : IsPlain x) : (p.joinText x).text.toList.getLast? ≠ some '/' := by
  have hchars : x.toList ≠ [] := fun e => hx.1.1 (String.toList_eq_nil_iff.mp e)
  rw [Path.joinText, Path.getLast?_join hchars]
  exact fun e => hx.2 (List.mem_of_getLast? e)

theorem withoutSlashes_joinText (hx : IsPlain x) :
    withoutSlashes (p.joinText x) = p.joinText x := by
  have hsame : Text.dropEndWhile (· == '/') (p.joinText x).text.toList =
      (p.joinText x).text.toList := by
    refine Text.dropEndWhile_of_getLast (fun c hc => ?_)
    rw [beq_eq_false_iff_ne]
    rintro rfl
    exact getLast?_joinText hx hc
  unfold withoutSlashes
  rw [hsame]
  split
  · rfl
  · rw [String.ofList_toList]

end usable

/-! ### One name in a directory -/

instance (x : String) : Decidable (IsFileName x) :=
  decidable_of_iff (IsName x ∧ '/' ∉ x.toList ∧ x.utf8ByteSize ≤ nameLimit)
    ⟨fun ⟨h₁, h₂, h₃⟩ => ⟨h₁, h₂, h₃⟩, fun ⟨h₁, h₂, h₃⟩ => ⟨h₁, h₂, h₃⟩⟩

instance (p : Path) : Decidable (IsUsable p) := inferInstanceAs (Decidable (_ ∧ _))

theorem IsFileName.isPlain {x : String} (hx : IsFileName x) : IsPlain x := ⟨hx.isName, hx.no_slash⟩

section child
variable {fs : FileSystem} {p : Path} {dir : Place} {x : String}

theorem ensureDirectory_child (hx : IsFileName x) (hleads : fs.LeadsInto p dir)
    (husable : IsUsable (p.joinText x))
    (hget : fs.get? (dir ++ [x]) = none ∨ fs.get? (dir ++ [x]) = some .directory) :
    ∃ fs', fs.ensureDirectory (p.joinText x) = .ok fs' ∧
      ∀ place, fs'.get? place = if place = dir ++ [x] then some .directory else fs.get? place := by
  have hresolve : fs.resolve (withoutSlashes (p.joinText x)) .entry = .ok (fs.child dir x) := by
    rw [withoutSlashes_joinText hx.isPlain]
    exact resolve_child hx hleads husable
  rcases hget with hnone | hdir
  · refine ⟨fs.put (dir ++ [x]) .directory, ?_, get?_put fs (by simp) .directory⟩
    rw [ensureDirectory, makeDirectory, hresolve, child, hnone]
  · refine ⟨fs, ?_, fun place => ?_⟩
    · have hisdir : fs.isDirectory (p.joinText x) = true := by
        rw [isDirectory, resolve_child_of hx hleads husable (.inr (by simp [hdir])), child, hdir]
      rw [ensureDirectory, makeDirectory, hresolve, child, hdir]
      simp only [hisdir, if_true]
    · split
      · next hplace => rw [hplace, hdir]
      · rfl

theorem none_or_file {place : Place} (hdir : fs.get? place ≠ some .directory)
    (hlink : ∀ l, fs.get? place ≠ some (.link l)) :
    fs.get? place = none ∨ ∃ c, fs.get? place = some (.file c) := by
  cases hget : fs.get? place with
  | none => exact .inl rfl
  | some entry =>
      cases entry with
      | file c => exact .inr ⟨c, rfl⟩
      | directory => exact absurd hget hdir
      | link l => exact absurd hget (hlink l)

theorem write_child {content : Content} (hx : IsFileName x) (hleads : fs.LeadsInto p dir)
    (husable : IsUsable (p.joinText x))
    (hget : fs.get? (dir ++ [x]) = none ∨ ∃ c, fs.get? (dir ++ [x]) = some (.file c)) :
    fs.write (p.joinText x) content = .ok (fs.put (dir ++ [x]) (.file content)) := by
  have hlink : ∀ l, fs.get? (dir ++ [x]) ≠ some (.link l) := by
    intro l hl
    rcases hget with h | ⟨c, h⟩ <;> rw [h] at hl <;> cases hl
  rw [write, resolve_child_of hx hleads husable (.inr hlink), child]
  rcases hget with hnone | ⟨c, hfile⟩
  · rw [hnone]
  · rw [hfile]

theorem read_child {content : Content} (hx : IsFileName x) (hleads : fs.LeadsInto p dir)
    (husable : IsUsable (p.joinText x)) (hget : fs.get? (dir ++ [x]) = some (.file content)) :
    fs.read (p.joinText x) = .ok content := by
  rw [read, resolve_child_of hx hleads husable (.inr (by simp [hget])), child, hget]

end child

/-! ### Directories that are there -/

section there
variable {fs : FileSystem} {p q : Path} {dir : Place} {n k : Nat}

theorem Arrives.resolveSteps_target {names : List String} {goal : Place}
    (h : fs.Arrives n dir names goal k) :
    fs.resolveSteps .target n dir names = .ok (.found goal .directory) := by
  induction n, dir, names using steps_induction fs with
  | nil n dir =>
      have hstop := h.stop_eq
      rw [routeSteps_nil] at hstop
      cases hstop
      exact resolveSteps_nil
  | idle n dir name rest hidle ih =>
      obtain ⟨hstop, hpass⟩ := h
      rw [routeSteps_idle hidle] at hstop hpass
      rw [resolveSteps_idle hidle]
      exact ih ⟨hstop, hpass⟩
  | up n dir rest ih =>
      obtain ⟨hstop, hpass⟩ := h
      rw [routeSteps_up] at hstop hpass
      rw [resolveSteps_up]
      exact ih ⟨hstop, hpass⟩
  | down n dir name rest hname hlink ih =>
      obtain ⟨hstop, hpass⟩ := h
      rw [routeSteps_down hname hlink] at hstop hpass
      obtain ⟨hget, hlimit⟩ := hpass _ List.mem_cons_self
      rw [resolveSteps_name hname, if_neg (by simp),
        if_neg (Nat.not_lt.mpr (hlimit name List.getLast?_concat)),
        hget.resolve_right (fun ⟨l, hl⟩ => hlink l hl)]
      exact ih ⟨hstop, fun place hp => hpass place (List.mem_cons_of_mem _ hp)⟩
  | blocked dir name rest t hname ht =>
      have hstop := h.stop_eq
      rw [routeSteps_blocked hname ht] at hstop
      cases hstop
  | link n dir name rest l hname hl ih =>
      obtain ⟨hstop, hpass⟩ := h
      rw [routeSteps_link hname hl] at hstop hpass
      obtain ⟨_, hlimit⟩ := hpass _ List.mem_cons_self
      rw [resolveSteps_name hname, if_neg (by simp),
        if_neg (Nat.not_lt.mpr (hlimit name List.getLast?_concat)), hl]
      simp only [reduceCtorEq, and_false, if_false]
      exact ih ⟨hstop, fun place hp => hpass place (List.mem_cons_of_mem _ hp)⟩

theorem LeadsInto.isDirectory (h : fs.LeadsInto p dir) (husable : IsUsable p) :
    fs.isDirectory p = true := by
  obtain ⟨k, hstop, hpass⟩ := h
  have harrives : fs.Arrives linkLimit (fs.start p) (steps p.text) dir k := by
    refine ⟨?_, ?_⟩
    · rw [routeSteps_text, hstop]
    · rw [routeSteps_text]
      exact hpass
  have hresolve : fs.resolve p .target = .ok (.found dir .directory) := by
    rw [resolve, if_neg (by simp [husable.1]), if_neg (by simp [husable.2.1]),
      if_neg (Nat.not_lt.mpr husable.2.2)]
    exact harrives.resolveSteps_target
  rw [FileSystem.isDirectory, hresolve]

theorem LeadsInto.above (h : fs.LeadsInto p dir) (hnames : q.names <+: p.names)
    (hstart : q.isAbsolute = p.isAbsolute) : ∃ dir', fs.LeadsInto q dir' := by
  obtain ⟨k, hstop, hpass⟩ := h
  obtain ⟨more, hmore⟩ := hnames
  have hsame : fs.start q = fs.start p := by rw [start, start, hstart]
  rw [← hmore] at hstop hpass
  have hpass' : ∀ place ∈ (routeSteps fs linkLimit (fs.start p) q.names).way, fs.Passable place :=
    fun place hplace => hpass place ((way_prefix_append q.names more).subset hplace)
  rw [routeSteps_append, Route.andThen] at hstop
  cases hq : (routeSteps fs linkLimit (fs.start p) q.names).stop with
  | none =>
      rw [hq] at hstop
      dsimp only at hstop
      rw [hq] at hstop
      cases hstop
  | some stop => exact ⟨stop.1, stop.2, by rw [hsame, hq], by rw [hsame]; exact hpass'⟩

theorem makeDirectories_of_isDirectory (h : fs.isDirectory p = true) :
    ∃ fs', fs.makeDirectories p = (.ok (), fs') := by
  rw [makeDirectories, makeDirectoriesFrom]
  split
  · exact ⟨fs, rfl⟩
  · rw [ensureDirectory]
    cases fs.makeDirectory p with
    | ok fs' => exact ⟨fs', rfl⟩
    | error e =>
        refine ⟨fs, ?_⟩
        simp only [h, if_true]

end there

/-! ### Names one behind the other -/

section names
variable {fs : FileSystem} {p : Path} {dir : Place} {k : Nat}

/-- Nothing but directories stands in the way of the names. -/
def IsOpen (fs : FileSystem) (dir : Place) (names : List String) : Prop :=
  ∀ init x, init ++ [x] <+: names →
    fs.get? (dir ++ (init ++ [x])) = none ∨ fs.get? (dir ++ (init ++ [x])) = some .directory

theorem IsOpen.of_initial {names names' : List String} (h : fs.IsOpen dir names)
    (hinitial : names' <+: names) : fs.IsOpen dir names' :=
  fun init x hx => h init x (hx.trans hinitial)

theorem IsOpen.not_link {names : List String} (h : fs.IsOpen dir names) :
    ∀ init x, init ++ [x] <+: names → ∀ l, fs.get? (dir ++ (init ++ [x])) ≠ some (.link l) := by
  intro init x hx l hl
  rcases h init x hx with h | h <;> rw [h] at hl <;> cases hl

theorem IsOpen.of_grows {fs' : FileSystem} {made : Place → Prop} {names : List String}
    (h : fs.IsOpen dir names) (hgrows : Grows made (fun _ => False) fs fs') : fs'.IsOpen dir names := by
  intro init x hx
  rcases hgrows.entry (dir ++ (init ++ [x])) with hkeep | ⟨_, _, hdir⟩ | ⟨hfalse, _⟩
  · rw [hkeep]
    exact h init x hx
  · exact .inr hdir
  · exact hfalse.elim

theorem IsOpen.last {init : List String} {x : String} (h : fs.IsOpen dir (init ++ [x])) :
    fs.get? (dir ++ init ++ [x]) = none ∨ fs.get? (dir ++ init ++ [x]) = some .directory := by
  rw [List.append_assoc]
  exact h init x (List.prefix_refl _)

theorem names_joinNames {names : List String} (hnames : ∀ x ∈ names, IsFileName x) :
    (p.joinNames names).names = p.names ++ names ∧
      (p.joinNames names).isAbsolute = p.isAbsolute := by
  induction names using List.reverseRecOn with
  | nil => exact ⟨(List.append_nil _).symm, rfl⟩
  | append_singleton init x ih =>
      have hx : IsFileName x := hnames x (by simp)
      obtain ⟨ihnames, ihstart⟩ := ih (fun y hy => hnames y (List.mem_append_left _ hy))
      rw [Path.joinNames_concat, names_joinText hx.isPlain, ihnames, List.append_assoc]
      exact ⟨rfl, (Path.isAbsolute_join hx.isPlain.isAbsolute).trans ihstart⟩

theorem parent?_joinNames {names : List String} {x : String} (hne : names ≠ [])
    (hnames : ∀ y ∈ names, IsFileName y) (hx : IsFileName x) :
    ((p.joinNames names).joinText x).parent? = some (p.joinNames names) ∧
      (p.joinNames names).text.isEmpty = false := by
  rcases List.eq_nil_or_concat names with rfl | ⟨init, y, rfl⟩
  · exact absurd rfl hne
  · have hy : IsFileName y := hnames y (by simp)
    rw [List.concat_eq_append, Path.joinNames_concat]
    exact ⟨Path.parent?_joinText ⟨hy.isName.1, hy.isName.2.1, hy.no_slash⟩
      ⟨hx.isName.1, hx.isName.2.1, hx.no_slash⟩, Path.isEmpty_joinText hy.isName.1⟩

/-- Names with nothing but directories in their way lead to a directory, or else what is behind them is
not found. -/
theorem arrives_or_notFound : ∀ {names : List String} {dir : Place},
    (∀ x ∈ names, IsFileName x) → fs.IsOpen dir names →
      fs.Arrives k dir names (dir ++ names) k ∨
        ∀ lookup more, (∃ name ∈ more, name ≠ "") →
          fs.resolveSteps lookup k dir (names ++ more) = .error .notFound
  | [], dir, _, _ => by
      refine .inl ⟨?_, ?_⟩
      · rw [routeSteps_nil, List.append_nil]
      · rw [routeSteps_nil]
        exact fun place hplace => absurd hplace List.not_mem_nil
  | x :: rest, dir, hnames, hopen => by
      obtain ⟨hx, hrest⟩ := List.forall_mem_cons.mp hnames
      have hfirst := hopen [] x ⟨rest, rfl⟩
      rw [List.nil_append] at hfirst
      rcases hfirst with hnone | hdir
      · refine .inr (fun lookup more hmore => ?_)
        obtain ⟨hasks, hempty⟩ := asksForDirectory_append hmore rest
        rw [List.cons_append, resolveSteps_name hx.isName, hasks, if_neg (by simp),
          if_neg (Nat.not_lt.mpr hx.size_le), hnone]
        simp only [hempty, Bool.false_eq_true, if_false]
      · have hopen' : fs.IsOpen (dir ++ [x]) rest := by
          intro init y hinitial
          have hstep := hopen (x :: init) y (List.cons_prefix_cons.mpr ⟨rfl, hinitial⟩)
          rwa [List.cons_append, List.append_cons] at hstep
        have hlink : ∀ l, fs.get? (dir ++ [x]) ≠ some (.link l) := by simp [hdir]
        rcases arrives_or_notFound hrest hopen' with ⟨hstop, hpass⟩ | hmissing
        · refine .inl ⟨?_, ?_⟩
          · rw [List.append_assoc, List.singleton_append] at hstop
            rw [routeSteps_down hx.isName hlink]
            exact hstop
          · rw [routeSteps_down hx.isName hlink]
            intro place hplace
            rcases List.mem_cons.mp hplace with rfl | hplace
            · refine ⟨.inl hdir, fun name hname => ?_⟩
              rw [List.getLast?_concat] at hname
              rw [← Option.some.inj hname]
              exact hx.size_le
            · exact hpass place hplace
        · refine .inr (fun lookup more hmore => ?_)
          obtain ⟨hasks, _⟩ := asksForDirectory_append hmore rest
          rw [List.cons_append, resolveSteps_name hx.isName, hasks, if_neg (by simp),
            if_neg (Nat.not_lt.mpr hx.size_le), hdir]
          exact hmissing lookup more hmore

theorem LeadsInto.joinNames {names : List String} (hnames : ∀ x ∈ names, IsFileName x)
    (h : fs.Arrives linkLimit (fs.start p) p.names dir k)
    (hmore : fs.Arrives k dir names (dir ++ names) k) :
    fs.LeadsInto (p.joinNames names) (dir ++ names) := by
  obtain ⟨hsame, hstart⟩ := names_joinNames (p := p) hnames
  have hroute : fs.routeSteps linkLimit (fs.start p) (p.names ++ names) =
      ⟨(fs.routeSteps linkLimit (fs.start p) p.names).way ++ (fs.routeSteps k dir names).way,
        some (dir ++ names, k)⟩ := by
    rw [routeSteps_append, Route.andThen, h.stop_eq, ← hmore.stop_eq]
  have hstart' : fs.start (p.joinNames names) = fs.start p := by rw [start, start, hstart]
  refine ⟨k, ?_, ?_⟩
  · rw [hstart', hsame, hroute]
  · rw [hstart', hsame, hroute]
    intro place hplace
    rcases List.mem_append.mp hplace with hplace | hplace
    · exact h.passable place hplace
    · exact hmore.passable place hplace

theorem ensureDirectory_notFound {x : String} (hx : IsPlain x)
    (h : ∀ lookup, fs.resolve (p.joinText x) lookup = .error .notFound) :
    fs.ensureDirectory (p.joinText x) = .error .notFound := by
  have hisdir : fs.isDirectory (p.joinText x) = false := by rw [isDirectory, h]
  rw [ensureDirectory, makeDirectory, withoutSlashes_joinText hx, h]
  simp only [hisdir, Bool.false_eq_true, if_false]

/-- A directory that is missing with the one above it is made after that. -/
theorem makeDirectoriesFrom_above {fs₁ fs₂ : FileSystem} {fuel : Nat} {above : Path}
    (hempty : p.text.isEmpty = false) (hmissing : fs.ensureDirectory p = .error .notFound)
    (hparent : p.parent? = some above) (habove : makeDirectoriesFrom fuel fs above = (.ok (), fs₁))
    (hlast : fs₁.ensureDirectory p = .ok fs₂) : makeDirectoriesFrom (fuel + 1) fs p = (.ok (), fs₂) := by
  rw [makeDirectoriesFrom, if_neg (by simp [hempty])]
  simp only [hmissing, hparent, habove, hlast]

/-- Where nothing but directories is in their way, all of the names become directories. -/
theorem makeDirectoriesFrom_joinNames {names : List String} (hne : names ≠ [])
    (hnames : ∀ x ∈ names, IsFileName x) (hleads : fs.LeadsInto p dir) (hopen : fs.IsOpen dir names)
    (husable : IsUsable (p.joinNames names)) {fuel : Nat} (hfuel : names.length ≤ fuel) :
    ∃ fs', makeDirectoriesFrom fuel fs (p.joinNames names) = (.ok (), fs') ∧
      fs'.LeadsInto (p.joinNames names) (dir ++ names) := by
  -- the last name is made in the directory of those before it, which may have to be made first
  induction names using List.reverseRecOn generalizing fuel with
  | nil => exact absurd rfl hne
  | append_singleton init x ih =>
      have hx : IsFileName x := hnames x (by simp)
      have hinit : ∀ y ∈ init, IsFileName y := fun y hy => hnames y (List.mem_append_left _ hy)
      have hopen' : fs.IsOpen dir init := hopen.of_initial (List.prefix_append _ _)
      rw [Path.joinNames_concat] at husable ⊢
      rw [← List.append_assoc]
      have hmake : ∀ {fs' : FileSystem}, fs'.LeadsInto (p.joinNames init) (dir ++ init) →
          (fs'.get? (dir ++ init ++ [x]) = none ∨ fs'.get? (dir ++ init ++ [x]) = some .directory) →
          ∃ fs'', fs'.ensureDirectory ((p.joinNames init).joinText x) = .ok fs'' ∧
            fs''.LeadsInto ((p.joinNames init).joinText x) (dir ++ init ++ [x]) := by
        intro fs' hleads' hget
        obtain ⟨fs'', hensure, hentry⟩ := ensureDirectory_child hx hleads' husable hget
        refine ⟨fs'', hensure, leadsInto_child hx ((ensureDirectory_grows hensure).leadsInto hleads') ?_⟩
        rw [hentry, if_pos rfl]
      obtain ⟨fuel, rfl⟩ : ∃ m, fuel = m + 1 := by
        rw [List.length_append, List.length_singleton] at hfuel
        exact ⟨fuel - 1, by omega⟩
      have hdone : fs.LeadsInto (p.joinNames init) (dir ++ init) →
          ∃ fs', makeDirectoriesFrom (fuel + 1) fs ((p.joinNames init).joinText x) = (.ok (), fs') ∧
            fs'.LeadsInto ((p.joinNames init).joinText x) (dir ++ init ++ [x]) := by
        intro hthere
        obtain ⟨fs', hensure, hleads'⟩ := hmake hthere hopen.last
        refine ⟨fs', ?_, hleads'⟩
        rw [makeDirectoriesFrom, if_neg (by simp [husable.1]), hensure]
      obtain ⟨k, harrives⟩ := hleads
      rcases arrives_or_notFound (k := k) hinit hopen' with hthere | hmissing
      · exact hdone (LeadsInto.joinNames hinit harrives hthere)
      · by_cases hnil : init = []
        · rw [hnil, List.append_nil] at hdone
          rw [hnil, List.append_nil]
          exact hdone ⟨k, harrives⟩
        obtain ⟨hpnames, hpstart⟩ := names_joinNames (p := p) hnames
        rw [Path.joinNames_concat] at hpnames hpstart
        have hensure : fs.ensureDirectory ((p.joinNames init).joinText x) = .error .notFound := by
          refine ensureDirectory_notFound hx.isPlain (fun lookup => ?_)
          rw [resolve_behind hpnames hpstart ⟨x, by simp, hx.isName.1⟩
            (getLast?_joinText hx.isPlain) husable harrives]
          exact hmissing lookup [x] ⟨x, by simp, hx.isName.1⟩
        obtain ⟨hparent, hempty⟩ := parent?_joinNames (p := p) hnil hinit hx
        have hlength : init.length ≤ fuel := by
          rw [List.length_append, List.length_singleton] at hfuel
          omega
        obtain ⟨fs₁, hfrom, hleads₁⟩ := ih hnil hinit hopen'
          (isUsable_of_join hempty hx.isPlain.isAbsolute husable) hlength
        have hgrows := makeDirectoriesFrom_grows fuel fs (p.joinNames init)
        rw [hfrom] at hgrows
        obtain ⟨fs₂, hensure₁, hleads₂⟩ := hmake hleads₁ (hopen.of_grows hgrows).last
        exact ⟨fs₂, makeDirectoriesFrom_above husable.1 hensure hparent hfrom hensure₁, hleads₂⟩

/-- The way of names behind a path, where no links are, and where it ends. -/
theorem way_joinNames {names : List String} (hnames : ∀ x ∈ names, IsFileName x)
    (hgoal : fs.goal? p = some dir)
    (hlinks : ∀ init x, init ++ [x] <+: names → ∀ l, fs.get? (dir ++ (init ++ [x])) ≠ some (.link l)) :
    fs.goal? (p.joinNames names) = some (dir ++ names) ∧
      ∀ place, place ∈ fs.way (p.joinNames names) ↔ place ∈ fs.way p ∨
        ∃ init x, init ++ [x] <+: names ∧ place = dir ++ (init ++ [x]) := by
  induction names using List.reverseRecOn with
  | nil => exact ⟨by rw [List.append_nil]; exact hgoal, fun place => by simp [Path.joinNames]⟩
  | append_singleton init x ih =>
      have hbefore : init <+: init ++ [x] := List.prefix_append _ _
      obtain ⟨ihgoal, ihway⟩ := ih (fun y hy => hnames y (List.mem_append_left _ hy))
        (fun i y hy => hlinks i y (hy.trans hbefore))
      have hlink : ∀ l, fs.get? (dir ++ init ++ [x]) ≠ some (.link l) := by
        rw [List.append_assoc]
        exact hlinks init x (List.prefix_refl _)
      obtain ⟨hway, hend⟩ := route_joinText (hnames x (by simp)).isPlain ihgoal hlink
      rw [Path.joinNames_concat, hway, hend, List.append_assoc]
      refine ⟨rfl, fun place => ?_⟩
      rw [List.mem_append, ihway, List.mem_singleton, or_assoc]
      refine or_congr_right ⟨?_, ?_⟩
      · rintro (⟨i, y, hy, hplace⟩ | hplace)
        · exact ⟨i, y, hy.trans hbefore, hplace⟩
        · exact ⟨init, x, List.prefix_refl _, hplace⟩
      · rintro ⟨i, y, hy, hplace⟩
        rcases List.prefix_concat_iff.mp hy with hlast | hy
        · exact .inr (by rw [hplace, hlast])
        · exact .inl ⟨i, y, hy, hplace⟩

theorem LeadsInto.directory {names : List String} {goal : Place}
    (hnames : ∀ x ∈ names, IsFileName x) (hleads : fs.LeadsInto p dir)
    (h : fs.LeadsInto (p.joinNames names) goal)
    (hlinks : ∀ init x, init ++ [x] <+: names → ∀ l, fs.get? (dir ++ (init ++ [x])) ≠ some (.link l)) :
    ∀ init x, init ++ [x] <+: names → fs.get? (dir ++ (init ++ [x])) = some .directory := by
  intro init x hx
  obtain ⟨k, harrives⟩ := h
  have hway := ((way_joinNames hnames hleads.goal?_eq hlinks).2 _).mpr (.inr ⟨init, x, hx, rfl⟩)
  exact (harrives.passable _ hway).1.resolve_right (fun ⟨l, hl⟩ => hlinks init x hx l hl)

/-- Making directories along names puts directories there, and nothing anywhere else. -/
theorem makeDirectories_joinNames {names : List String} (hne : names ≠ [])
    (hnames : ∀ x ∈ names, IsFileName x) (hleads : fs.LeadsInto p dir) (hopen : fs.IsOpen dir names)
    (husable : IsUsable (p.joinNames names)) :
    ∃ fs', fs.makeDirectories (p.joinNames names) = (.ok (), fs') ∧
      fs'.LeadsInto (p.joinNames names) (dir ++ names) ∧
      (∀ init x, init ++ [x] <+: names → fs'.get? (dir ++ (init ++ [x])) = some .directory) ∧
      Grows (fun place => ∃ init x, init ++ [x] <+: names ∧ place = dir ++ (init ++ [x]))
        (fun _ => False) fs fs' := by
  have hfuel : names.length ≤ (p.joinNames names).components.length + 1 := by
    have hkept : names.filter (· != ".") = names := by
      rw [List.filter_eq_self]
      exact fun x hx => by simpa using (hnames x hx).isName.2.1
    have hparts : (p.joinNames names).components.filter (· != ".") =
        p.names.filter (· != ".") ++ names := by
      rw [Path.filter_components, ← Path.filter_names, (names_joinNames hnames).1, List.filter_append,
        hkept]
    have hlength := List.length_filter_le (· != ".") (p.joinNames names).components
    rw [hparts, List.length_append] at hlength
    omega
  obtain ⟨fs', hmake, hleads'⟩ :=
    makeDirectoriesFrom_joinNames hne hnames hleads hopen husable hfuel
  have hgrows := makeDirectoriesFrom_grows ((p.joinNames names).components.length + 1) fs
    (p.joinNames names)
  rw [hmake] at hgrows
  have hdirs := LeadsInto.directory hnames (hgrows.leadsInto hleads) hleads'
    (hopen.of_grows hgrows).not_link
  refine ⟨fs', hmake, hleads', hdirs, hgrows.cwd_eq, fun place => ?_⟩
  rcases hgrows.entry place with hkeep | ⟨hway, hnone, hdir⟩ | ⟨hfalse, _⟩
  · exact .inl hkeep
  · rcases ((way_joinNames hnames hleads.goal?_eq hopen.not_link).2 place).mp hway with hway | hplace
    · -- all of the way before is there
      exact absurd hnone (hleads.get?_ne_none hway)
    · exact .inr (.inl ⟨hplace, hnone, hdir⟩)
  · exact hfalse.elim

end names

end FileSystem

open FileSystem

/-- **A file is stored in a directory that is there**, unless a directory has its name. -/
theorem Run.store_child {ε : Type} (onError : Path → Cause → ε) (content : Content) {p : Path}
    {x : String} {dir : Place} {s : Session} (hx : IsFileName x) (hleads : s.files.LeadsInto p dir)
    (husable : IsUsable (p.joinText x))
    (hget : s.files.get? (dir ++ [x]) = none ∨ ∃ c, s.files.get? (dir ++ [x]) = some (.file c)) :
    ∃ s', (Run.store onError (p.joinText x) content).outcome.run s = (.ok (), s') := by
  obtain ⟨init, hpieces, _⟩ := Path.pieces_joinText (p := p) hx.no_slash
  obtain ⟨q, hparent⟩ : ∃ q, (p.joinText x).parent? = some q :=
    ⟨_, Path.parent?_of_concat hpieces (Path.isIdle_toList hx.isName.1 hx.isName.2.1)⟩
  have hnames : q.names <+: p.names :=
    Path.names_parent?_joinText hx.isName.1 hx.isName.2.1 hx.no_slash hparent
  have hstart : q.isAbsolute = p.isAbsolute :=
    (Path.names_parent? hparent).2.trans (Path.isAbsolute_join hx.isPlain.isAbsolute)
  have hmake : ∃ fs₁, s.files.makeDirectories q = (.ok (), fs₁) := by
    cases hempty : q.text.isEmpty with
    | true => exact ⟨s.files, by rw [FileSystem.makeDirectories, makeDirectoriesFrom, if_pos hempty]⟩
    | false =>
        obtain ⟨dir', hleads'⟩ := hleads.above hnames hstart
        exact makeDirectories_of_isDirectory
          (hleads'.isDirectory (isUsable_of_initial hempty husable (Path.text_parent? hparent)))
  obtain ⟨fs₁, hmake⟩ := hmake
  have hgrows := makeDirectories_grows s.files q
  rw [hmake] at hgrows
  have hget₁ : fs₁.get? (dir ++ [x]) = s.files.get? (dir ++ [x]) := by
    rcases hgrows.entry (dir ++ [x]) with hkeep | ⟨hway, hnone, _⟩ | ⟨hfalse, _⟩
    · exact hkeep
    · exact absurd hnone (hleads.get?_ne_none ((way_of_names hnames hstart).subset hway))
    · exact hfalse.elim
  rw [← hget₁] at hget
  rw [Run.store_of_parent hparent, Run.run_bind, Run.run_makeDirectories, hmake]
  dsimp only
  rw [Run.run_change]
  dsimp only
  rw [write_child hx (hgrows.leadsInto hleads) husable hget]
  exact ⟨_, rfl⟩

end RequiredVersion
