import RequiredVersion.FileSystem.Walk
import RequiredVersion.Proofs.ArchivePlaces
import RequiredVersion.Proofs.ByteOrder
import RequiredVersion.Proofs.UsablePaths

/-! # The PHP files below a directory

A walk goes through each directory in the order of its names and through a subdirectory at its place.
Said without paths and failures, it lists the names that lead from the directory to the files
(`FileSystem.sourcesBelow`).  In a tree without links a walk comes to this list
(`FileSystem.phpFilesFrom_eq_ok`), or to a path that is refused (`FileSystem.phpFilesFrom_eq_error`).

The list is in the order of paths name by name, which is not that of their texts, and it has all PHP files
that are not in a directory with an ignored name (`FileSystem.phpFiles_lists`). -/

namespace RequiredVersion

open FileSystem

/-! ### Extensions -/

/-- The name ends in a dot and `php`, in upper or lower case, and something comes before the dot. -/
def HasPhpExtension (name : String) : Prop :=
  ∃ stem ext, stem ≠ [] ∧ name.toList = stem ++ '.' :: ext ∧ Text.lowerAscii ext = ['p', 'h', 'p']

namespace Path

theorem extension?_eq_some_iff {p : Path} {name ext : String} (h : p.fileName? = some name) :
    p.extension? = some ext ↔
      ∃ stem, stem ≠ [] ∧ name.toList = stem ++ '.' :: ext.toList ∧ '.' ∉ ext.toList := by
  unfold extension?
  rw [h]
  dsimp only
  constructor
  · intro hext
    split at hext
    · cases hext
    next hlength =>
    obtain rfl := Option.some.inj hext
    rw [List.length_reverse] at hlength
    have hsplit := List.takeWhile_append_dropWhile (p := (· != '.')) (l := name.toList.reverse)
    have hbefore : ∀ c ∈ name.toList.reverse.takeWhile (· != '.'), c ≠ '.' := fun c hc => by
      simpa using List.mem_takeWhile_imp hc
    have hlast : ∀ c, (name.toList.reverse.dropWhile (· != '.')).head? = some c → c = '.' :=
      fun c hc => by simpa using Text.head?_dropWhile_eq hc
    generalize name.toList.reverse.takeWhile (· != '.') = ext at hsplit hlength hbefore ⊢
    generalize name.toList.reverse.dropWhile (· != '.') = rest at hsplit hlast
    have hchars : name.toList = rest.reverse ++ ext.reverse := by
      rw [← List.reverse_append, hsplit, List.reverse_reverse]
    cases rest with
    | nil =>
        rw [hchars] at hlength
        simp at hlength
    | cons c stem =>
        obtain rfl := hlast c rfl
        refine ⟨stem.reverse, ?_, ?_, ?_⟩
        · rintro hstem
          rw [hchars, List.reverse_cons, hstem] at hlength
          simp at hlength
        · rw [hchars, String.toList_ofList]
          simp
        · rw [String.toList_ofList, List.mem_reverse]
          exact fun hdot => hbefore _ hdot rfl
  · rintro ⟨stem, hstem, hchars, hdot⟩
    have hext : name.toList.reverse.takeWhile (· != '.') = ext.toList.reverse := by
      rw [hchars, List.reverse_append, List.reverse_cons, List.append_assoc]
      refine Text.takeWhile_append_of_head (fun c hc => ?_) (fun c hc => ?_)
      · rw [bne_iff_ne]
        rintro rfl
        exact hdot (List.mem_reverse.mp hc)
      · obtain rfl : '.' = c := Option.some.inj hc
        rfl
    rw [hext, List.reverse_reverse, String.ofList_toList, if_neg]
    have hpos := List.length_pos_of_ne_nil hstem
    rw [hchars, List.length_append, List.length_cons]
    omega

end Path

namespace FileSystem

theorem isPhpPath_iff {p : Path} {name : String} (h : p.fileName? = some name) :
    isPhpPath p = true ↔ HasPhpExtension name := by
  unfold isPhpPath
  constructor
  · intro hphp
    split at hphp
    · next ext hext =>
        obtain ⟨stem, hstem, hchars, _⟩ := (Path.extension?_eq_some_iff h).mp hext
        exact ⟨stem, ext.toList, hstem, hchars, eq_of_beq hphp⟩
    · cases hphp
  · rintro ⟨stem, ext, hstem, hchars, hlower⟩
    have hdot : '.' ∉ ext := by
      intro hmem
      have hmem' : '.' ∈ Text.lowerAscii ext := List.mem_map.mpr ⟨'.', hmem, by decide⟩
      rw [hlower] at hmem'
      exact absurd hmem' (by decide)
    have hext : p.extension? = some (String.ofList ext) :=
      (Path.extension?_eq_some_iff h).mpr ⟨stem, hstem, by rw [hchars, String.toList_ofList],
        by rwa [String.toList_ofList]⟩
    rw [hext]
    dsimp only
    rw [String.toList_ofList, hlower]
    rfl

/-! ### Trees -/

/-- A directory with proper names in it, and no links: each entry stands in a directory. -/
structure IsTree (fs : FileSystem) (dir : Place) : Prop where
  noLinks : Archive.NoLinks fs dir
  closed : ∀ below x, fs.get? (dir ++ (below ++ [x])) ≠ none → fs.get? (dir ++ below) = some .directory
  names : ∀ below x, fs.get? (dir ++ (below ++ [x])) ≠ none → IsFileName x

/-- A whole file system is a tree if each of its entries stands in a directory under a proper name. -/
theorem isTree_of_entries {fs : FileSystem} (hlinks : Archive.NoLinks fs [])
    (h : ∀ e ∈ fs.entries.entries,
      fs.get? e.1.dropLast = some .directory ∧ ∀ x ∈ e.1.getLast?, IsFileName x) : fs.IsTree [] := by
  have hentry : ∀ below x, fs.get? ([] ++ (below ++ [x])) ≠ none →
      ∃ entry, (below ++ [x], entry) ∈ fs.entries.entries := by
    intro below x hget
    obtain ⟨entry, hentry⟩ := Option.ne_none_iff_exists'.mp hget
    rw [List.nil_append, get?_of_ne_nil _ (by simp)] at hentry
    exact ⟨entry, SortedMap.mem_entries_iff.mpr hentry⟩
  refine ⟨hlinks, fun below x hget => ?_, fun below x hget => ?_⟩
  · obtain ⟨entry, hmem⟩ := hentry below x hget
    have hdir := (h _ hmem).1
    rwa [List.dropLast_concat] at hdir
  · obtain ⟨entry, hmem⟩ := hentry below x hget
    exact (h _ hmem).2 x List.getLast?_concat

section trees
variable {fs : FileSystem} {dir : Place} {x : String} {below : List String}

theorem IsTree.child (h : fs.IsTree dir) (x : String) : fs.IsTree (dir ++ [x]) := by
  refine ⟨fun place l hplace => ?_, fun below y => ?_, fun below y => ?_⟩
  · obtain ⟨rest, rfl⟩ := List.isPrefixOf_iff_prefix.mp hplace
    rw [List.append_assoc]
    exact h.noLinks _ l (isWithin_append dir _)
  · rw [List.append_assoc, List.append_assoc]
    exact h.closed (x :: below) y
  · rw [List.append_assoc]
    exact h.names (x :: below) y

theorem IsTree.directory (h : fs.IsTree dir) (below : List String) {more : List String} (hmore : more ≠ [])
    (hget : fs.get? (dir ++ (below ++ more)) ≠ none) : fs.get? (dir ++ below) = some .directory := by
  induction more using List.reverseRecOn with
  | nil => exact absurd rfl hmore
  | append_singleton init y ih =>
      rw [← List.append_assoc below] at hget
      have habove := h.closed (below ++ init) y hget
      by_cases hinit : init = []
      · rwa [hinit, List.append_nil] at habove
      · refine ih hinit ?_
        rw [habove]
        exact Option.some_ne_none _

theorem IsTree.directory_or_file (h : fs.IsTree dir) (hget : fs.get? (dir ++ [x]) ≠ none) :
    fs.get? (dir ++ [x]) = some .directory ∨ ∃ content, fs.get? (dir ++ [x]) = some (.file content) := by
  cases hentry : fs.get? (dir ++ [x]) with
  | none => exact absurd hentry hget
  | some entry =>
      cases entry with
      | directory => exact .inl rfl
      | file content => exact .inr ⟨content, rfl⟩
      | link l => exact absurd hentry (h.noLinks _ l (isWithin_append dir [x]))

theorem IsTree.isFileName_of_mem (h : fs.IsTree dir) (hget : fs.get? (dir ++ below) ≠ none) :
    ∀ x ∈ below, IsFileName x := by
  intro x hx
  obtain ⟨init, rest, rfl⟩ := List.append_of_mem hx
  refine h.names init x ?_
  by_cases hrest : rest = []
  · rwa [hrest] at hget
  · rw [h.directory (init ++ [x]) hrest (by rwa [List.append_assoc])]
    exact Option.some_ne_none _

/-- No entry is deeper than there are entries. -/
theorem IsTree.length_le (h : fs.IsTree dir) (hget : fs.get? (dir ++ below) ≠ none) :
    below.length ≤ fs.entries.size := by
  -- the places on the way to the entry are all different, and all of them are keys
  have hlength : ∀ {k}, k < below.length → (dir ++ below.take (k + 1)).length = dir.length + (k + 1) := by
    intro k hk
    rw [List.length_append, List.length_take, Nat.min_eq_left hk]
  have hnodup : ((List.range below.length).map (fun k => dir ++ below.take (k + 1))).Nodup := by
    refine List.Nodup.map_on (fun j hj k hk hsame => ?_) List.nodup_range
    have hlengths := congrArg List.length hsame
    rw [hlength (List.mem_range.mp hj), hlength (List.mem_range.mp hk)] at hlengths
    omega
  have hkeys : (List.range below.length).map (fun k => dir ++ below.take (k + 1)) ⊆ fs.entries.keys := by
    intro place hplace
    obtain ⟨k, hk, rfl⟩ := List.mem_map.mp hplace
    have hne : dir ++ below.take (k + 1) ≠ [] := by
      intro hnil
      have hzero := hlength (List.mem_range.mp hk)
      rw [hnil, List.length_nil] at hzero
      omega
    rw [SortedMap.mem_keys_iff, ← Option.ne_none_iff_exists', ← get?_of_ne_nil _ hne]
    by_cases hrest : below.drop (k + 1) = []
    · rwa [List.take_of_length_le (List.drop_eq_nil_iff.mp hrest)]
    · rw [h.directory _ hrest (by rwa [List.take_append_drop])]
      exact Option.some_ne_none _
  have hle := (hnodup.subperm hkeys).length_le
  rw [List.length_map, List.length_range, SortedMap.keys, List.length_map] at hle
  exact hle

end trees

/-! ### The names in a directory -/

section names
variable {fs : FileSystem} {dir : Place} {x : String}

theorem mem_names_iff : x ∈ fs.names dir ↔ fs.get? (dir ++ [x]) ≠ none := by
  rw [get?_of_ne_nil _ (by simp), Option.ne_none_iff_exists', ← SortedMap.mem_keys_iff, names,
    List.mem_filterMap]
  constructor
  · rintro ⟨place, hplace, hlast⟩
    split at hlast
    · next hdir =>
        obtain ⟨init, rfl⟩ := List.getLast?_eq_some_iff.mp hlast
        rw [List.dropLast_concat] at hdir
        rwa [← hdir]
    · cases hlast
  · intro hplace
    exact ⟨dir ++ [x], hplace, by rw [List.dropLast_concat, if_pos rfl, List.getLast?_concat]⟩

theorem compare_append (x y : String) : ∀ dir : Place, compare (dir ++ [x]) (dir ++ [y]) = compare x y
  | [] => by
      change List.compareLex compare [x] [y] = compare x y
      rw [List.compareLex_cons_cons]
      cases compare x y <;> rfl
  | name :: dir => by
      have hself : compare name name = .eq := Std.ReflOrd.compare_self
      change List.compareLex compare (name :: (dir ++ [x])) (name :: (dir ++ [y])) = compare x y
      rw [List.compareLex_cons_cons, hself]
      exact compare_append x y dir

theorem pairwise_names (fs : FileSystem) (dir : Place) :
    (fs.names dir).Pairwise (fun x y => Text.bytes x < Text.bytes y) := by
  have hkeys : fs.entries.keys.Pairwise (fun a b => compare a b = .lt) := by
    rw [SortedMap.keys, List.pairwise_map]
    exact fs.entries.sorted
  refine hkeys.filterMap _ (fun a b hab x hx y hy => ?_)
  split at hx
  · next ha =>
      split at hy
      · next hb =>
          obtain ⟨init, rfl⟩ := List.getLast?_eq_some_iff.mp hx
          obtain ⟨init', rfl⟩ := List.getLast?_eq_some_iff.mp hy
          rw [List.dropLast_concat] at ha hb
          rw [ha, hb, compare_append] at hab
          exact (Text.compare_eq_lt_iff x y).mp hab
      · cases hy
  · cases hx

end names

/-! ### What a walk comes to -/

/-- The names lead to an entry below the directory, and no directory on the way has an ignored name. -/
structure IsSeen (fs : FileSystem) (ignored : List String) (dir : Place) (below : List String) : Prop where
  ne_nil : below ≠ []
  present : fs.get? (dir ++ below) ≠ none
  kept : ∀ name ∈ below.dropLast, name ∉ ignored

/-- The same of a file with the extension of PHP files. -/
structure IsSource (fs : FileSystem) (ignored : List String) (dir : Place) (below : List String) : Prop
    extends fs.IsSeen ignored dir below where
  isFile : ∃ content, fs.get? (dir ++ below) = some (.file content)
  extension : ∃ x ∈ below.getLast?, HasPhpExtension x

section seen
variable {fs : FileSystem} {ignored : List String} {dir : Place} {below : List String} {x : String}

theorem isSeen_singleton : fs.IsSeen ignored dir [x] ↔ fs.get? (dir ++ [x]) ≠ none :=
  ⟨fun h => h.present, fun h => ⟨List.cons_ne_nil x [], h, fun _ hname => by cases hname⟩⟩

theorem isSeen_cons (htree : fs.IsTree dir) (hne : below ≠ []) : fs.IsSeen ignored dir (x :: below) ↔
    fs.get? (dir ++ [x]) = some .directory ∧ x ∉ ignored ∧ fs.IsSeen ignored (dir ++ [x]) below := by
  have hplace : dir ++ x :: below = dir ++ [x] ++ below := by rw [List.append_assoc]; rfl
  constructor
  · rintro ⟨_, hget, hkept⟩
    rw [List.dropLast_cons_of_ne_nil hne, List.forall_mem_cons] at hkept
    exact ⟨htree.directory [x] hne hget, hkept.1, hne, hplace ▸ hget, hkept.2⟩
  · rintro ⟨_, hx, hseen⟩
    refine ⟨List.cons_ne_nil _ _, hplace ▸ hseen.present, ?_⟩
    rw [List.dropLast_cons_of_ne_nil hne, List.forall_mem_cons]
    exact ⟨hx, hseen.kept⟩

theorem isSource_singleton : fs.IsSource ignored dir [x] ↔
    (∃ content, fs.get? (dir ++ [x]) = some (.file content)) ∧ HasPhpExtension x := by
  constructor
  · rintro ⟨_, hfile, y, hy, hphp⟩
    obtain rfl : x = y := Option.some.inj hy
    exact ⟨hfile, hphp⟩
  · rintro ⟨⟨content, hfile⟩, hphp⟩
    exact ⟨isSeen_singleton.mpr (by simp [hfile]), ⟨content, hfile⟩, x, rfl, hphp⟩

theorem isSource_cons (htree : fs.IsTree dir) (hne : below ≠ []) :
    fs.IsSource ignored dir (x :: below) ↔
      fs.get? (dir ++ [x]) = some .directory ∧ x ∉ ignored ∧ fs.IsSource ignored (dir ++ [x]) below := by
  have hplace : dir ++ x :: below = dir ++ [x] ++ below := by rw [List.append_assoc]; rfl
  have hlast : (x :: below).getLast? = below.getLast? := by
    rw [List.getLast?_cons, List.getLast?_eq_some_getLast hne]
    rfl
  constructor
  · rintro ⟨hseen, hfile, hphp⟩
    obtain ⟨hdir, hx, hseen⟩ := (isSeen_cons htree hne).mp hseen
    exact ⟨hdir, hx, hseen, hplace ▸ hfile, hlast ▸ hphp⟩
  · rintro ⟨hdir, hx, hseen, hfile, hphp⟩
    exact ⟨(isSeen_cons htree hne).mpr ⟨hdir, hx, hseen⟩, hplace ▸ hfile, hlast ▸ hphp⟩

end seen

/-! ### What a walk lists -/

/-- What one name of a directory brings, given what is listed in a directory. -/
def entrySources (fs : FileSystem) (ignored : List String) (inner : Place → List (List String))
    (dir : Place) (x : String) : List (List String) :=
  match fs.get? (dir ++ [x]) with
  | some .directory => if ignored.contains x then [] else (inner (dir ++ [x])).map (x :: ·)
  | some (.file _) => if isPhpPath ⟨x⟩ then [[x]] else []
  | _ => []

/-- The names that lead from a directory to the PHP files below it, as far down as the given number. -/
def sourcesBelow (fs : FileSystem) (ignored : List String) : Nat → Place → List (List String)
  | 0, _ => []
  | depth + 1, dir => (fs.names dir).flatMap (fs.entrySources ignored (fs.sourcesBelow ignored depth) dir)

section listing
variable {fs : FileSystem} {ignored : List String} {dir : Place} {below : List String} {x : String}

theorem fileName?_text (hx : IsFileName x) : (⟨x⟩ : Path).fileName? = some x := by
  have hjoin := Path.fileName?_joinText (p := ⟨""⟩) hx.isPlain
  rwa [Path.joinText, Path.join, if_pos (by simp)] at hjoin

theorem mem_entrySources_iff {inner : Place → List (List String)} (hx : IsFileName x) :
    below ∈ fs.entrySources ignored inner dir x ↔
      (below = [x] ∧ (∃ content, fs.get? (dir ++ [x]) = some (.file content)) ∧ HasPhpExtension x) ∨
      (∃ more, below = x :: more ∧ fs.get? (dir ++ [x]) = some .directory ∧ x ∉ ignored ∧
        more ∈ inner (dir ++ [x])) := by
  rw [entrySources, ← isPhpPath_iff (fileName?_text hx)]
  cases fs.get? (dir ++ [x]) with
  | none => simp
  | some entry =>
      cases entry with
      | directory =>
          by_cases hmem : x ∈ ignored
          · simp [hmem]
          · simp only [List.contains_eq_mem, hmem, decide_false, Bool.false_eq_true, if_false, List.mem_map,
              reduceCtorEq, Option.some.injEq, exists_false, false_and, and_false, false_or, not_false_iff,
              true_and]
            exact exists_congr (fun more => and_comm.trans (and_congr_left' eq_comm))
      | file content => by_cases hphp : isPhpPath ⟨x⟩ = true <;> simp [hphp]
      | link l => simp

/-- All sources are listed, down to the given depth, and nothing else. -/
theorem mem_sourcesBelow_iff : ∀ {depth : Nat} {dir : Place} {below : List String}, fs.IsTree dir →
    (below ∈ fs.sourcesBelow ignored depth dir ↔ fs.IsSource ignored dir below ∧ below.length ≤ depth)
  | 0, dir, below, htree => by
      have hnone : ¬(fs.IsSource ignored dir below ∧ below.length ≤ 0) := fun ⟨hsource, hlength⟩ =>
        hsource.ne_nil (List.length_eq_zero_iff.mp (Nat.le_zero.mp hlength))
      exact ⟨fun hmem => absurd hmem List.not_mem_nil, fun hsource => absurd hsource hnone⟩
  | depth + 1, dir, below, htree => by
      rw [sourcesBelow, List.mem_flatMap]
      constructor
      · rintro ⟨x, hx, hmem⟩
        have hname := htree.names [] x (mem_names_iff.mp hx)
        rcases (mem_entrySources_iff hname).mp hmem with ⟨rfl, hsource⟩ | ⟨more, rfl, hdir, hkept, hmore⟩
        · exact ⟨isSource_singleton.mpr hsource, Nat.succ_le_succ (Nat.zero_le depth)⟩
        · obtain ⟨hsource, hlength⟩ := (mem_sourcesBelow_iff (htree.child x)).mp hmore
          exact ⟨(isSource_cons htree hsource.ne_nil).mpr ⟨hdir, hkept, hsource⟩,
            Nat.succ_le_succ hlength⟩
      · rintro ⟨hsource, hlength⟩
        cases below with
        | nil => exact absurd rfl hsource.ne_nil
        | cons x more =>
            by_cases hmore : more = []
            · subst hmore
              have hget := hsource.present
              exact ⟨x, mem_names_iff.mpr hget, (mem_entrySources_iff (htree.names [] x hget)).mpr
                (.inl ⟨rfl, isSource_singleton.mp hsource⟩)⟩
            · obtain ⟨hdir, hkept, hinner⟩ := (isSource_cons htree hmore).mp hsource
              have hget : fs.get? (dir ++ [x]) ≠ none := by simp [hdir]
              exact ⟨x, mem_names_iff.mpr hget, (mem_entrySources_iff (htree.names [] x hget)).mpr
                (.inr ⟨more, rfl, hdir, hkept, (mem_sourcesBelow_iff (htree.child x)).mpr
                  ⟨hinner, Nat.le_of_succ_le_succ hlength⟩⟩)⟩

/-- The listing is in the order of the names, name by name. -/
theorem pairwise_sourcesBelow : ∀ {depth : Nat} {dir : Place}, fs.IsTree dir →
    (fs.sourcesBelow ignored depth dir).Pairwise (fun a b => a.map Text.bytes < b.map Text.bytes)
  | 0, _, _ => .nil
  | depth + 1, dir, htree => by
      have hname : ∀ x ∈ fs.names dir, IsFileName x := fun x hx => htree.names [] x (mem_names_iff.mp hx)
      rw [sourcesBelow, List.pairwise_flatMap]
      refine ⟨fun x hx => ?_, ?_⟩
      · rw [entrySources]
        split
        · split
          · exact .nil
          · rw [List.pairwise_map]
            exact (pairwise_sourcesBelow (htree.child x)).imp (fun hab => List.Lex.cons hab)
        · split
          · exact List.pairwise_singleton _ _
          · exact .nil
        · exact .nil
      · -- what two names bring starts with them
        have hhead : ∀ x ∈ fs.names dir,
            ∀ a ∈ fs.entrySources ignored (fs.sourcesBelow ignored depth) dir x,
            ∃ more, a = x :: more := fun x hx a ha => by
          rcases (mem_entrySources_iff (hname x hx)).mp ha with ⟨rfl, _⟩ | ⟨more, rfl, _⟩
          · exact ⟨[], rfl⟩
          · exact ⟨more, rfl⟩
        refine (pairwise_names fs dir).imp_of_mem (fun {x y} hx hy hxy a ha b hb => ?_)
        obtain ⟨more, rfl⟩ := hhead x hx a ha
        obtain ⟨more', rfl⟩ := hhead y hy b hb
        exact List.Lex.rel hxy

end listing

/-! ### Walks -/

section walks
variable {fs : FileSystem} {ignored : List String} {dir : Place} {p : Path}

theorem mapM_eq_ok {α β ε : Type} {f : α → Except ε β} {g : α → β} :
    ∀ {l : List α}, (∀ a ∈ l, f a = .ok (g a)) → l.mapM f = .ok (l.map g)
  | [], _ => rfl
  | a :: l, h => by
      rw [List.mapM_cons, h a List.mem_cons_self, mapM_eq_ok (fun b hb => h b (List.mem_cons_of_mem _ hb))]
      rfl

theorem mapM_eq_error {α β ε : Type} {f : α → Except ε β} : ∀ {l : List α},
    (∃ a ∈ l, ∃ e, f a = .error e) → ∃ e, l.mapM f = .error e
  | [], h => by
      obtain ⟨a, ha, _⟩ := h
      cases ha
  | a :: l, h => by
      rw [List.mapM_cons]
      cases hfirst : f a with
      | error e => exact ⟨e, rfl⟩
      | ok b =>
          obtain ⟨a', ha', e', he'⟩ := h
          rcases List.mem_cons.mp ha' with rfl | hrest
          · rw [hfirst] at he'
            cases he'
          · obtain ⟨e, he⟩ := mapM_eq_error ⟨a', hrest, e', he'⟩
            exact ⟨e, by rw [he]; rfl⟩

theorem stopAt_error (fs : FileSystem) (inside : List (Place × Path)) (h : ¬IsUsable p) :
    ∃ e, fs.stopAt inside p = .error e := by
  rw [stopAt]
  cases hresolve : fs.resolve p .entry with
  | error e => exact ⟨_, rfl⟩
  | ok t =>
      obtain ⟨hempty, hnul, hlimit, _⟩ := resolve_ok hresolve
      exact absurd ⟨hempty, hnul, hlimit⟩ h

theorem stopAt_child (inside : List (Place × Path)) {x : String} (htree : fs.IsTree dir)
    (hleads : fs.LeadsInto p dir) (hget : fs.get? (dir ++ [x]) ≠ none) (husable : IsUsable (p.joinText x)) :
    fs.stopAt inside (p.joinText x) =
      .ok (if fs.get? (dir ++ [x]) = some .directory then .directory (dir ++ [x]) else .file) := by
  rw [stopAt, resolve_child (htree.names [] x hget) hleads husable, child]
  rcases htree.directory_or_file hget with hdir | ⟨content, hfile⟩
  · rw [hdir, if_pos rfl]
  · rw [hfile, if_neg (by simp)]

theorem phpFilesFrom_directory {fuel : Nat} {inside : List (Place × Path)}
    (hstop : fs.stopAt inside p = .ok (.directory dir))
    (hkept : inside = [] ∨ ∀ x ∈ p.fileName?, x ∉ ignored) :
    fs.phpFilesFrom ignored (fuel + 1) inside p =
      ((fs.names dir).mapM (fun x =>
        fs.phpFilesFrom ignored fuel ((dir, p) :: inside) (p.joinText x))).map List.flatten := by
  have hpass : (!inside.isEmpty && p.fileName?.any ignored.contains) = false := by
    rcases hkept with rfl | hname
    · rfl
    · rw [Bool.and_eq_false_iff]
      refine .inr ?_
      cases hfile : p.fileName? with
      | none => rfl
      | some x => simpa using hname x hfile
  rw [phpFilesFrom, hstop]
  dsimp only
  rw [hpass, if_neg Bool.false_ne_true]

section child
variable {inside : List (Place × Path)} {depth : Nat} {x : String}

/-- What a walk lists at a name, given what it lists in a directory. -/
theorem phpFilesFrom_child (htree : fs.IsTree dir) (hleads : fs.LeadsInto p dir)
    (hget : fs.get? (dir ++ [x]) ≠ none) (husable : IsUsable (p.joinText x)) (hne : inside ≠ [])
    (hinner : fs.get? (dir ++ [x]) = some .directory → x ∉ ignored →
      fs.phpFilesFrom ignored (depth + 1) inside (p.joinText x) =
        .ok ((fs.sourcesBelow ignored depth (dir ++ [x])).map (p.joinText x).joinNames)) :
    fs.phpFilesFrom ignored (depth + 1) inside (p.joinText x) =
      .ok ((fs.entrySources ignored (fs.sourcesBelow ignored depth) dir x).map p.joinNames) := by
  have hname := htree.names [] x hget
  have hfile := Path.fileName?_joinText (p := p) hname.isPlain
  have hstop := stopAt_child inside htree hleads hget husable
  rcases htree.directory_or_file hget with hdir | ⟨content, hcontent⟩
  · by_cases hmem : x ∈ ignored
    · rw [if_pos hdir] at hstop
      rw [phpFilesFrom, hstop, entrySources, hdir]
      simp [hfile, hmem, hne]
    · rw [hinner hdir hmem, entrySources, hdir]
      simp [hmem, Path.joinNames]
  · rw [if_neg (by simp [hcontent])] at hstop
    have hphp : isPhpPath (p.joinText x) = isPhpPath ⟨x⟩ := by
      rw [Bool.eq_iff_iff, isPhpPath_iff hfile, isPhpPath_iff (fileName?_text hname)]
    rw [phpFilesFrom, hstop, entrySources, hcontent]
    dsimp only
    rw [hphp]
    split <;> rfl

end child

/-- The walk in a tree where no path is refused, with the depth that remains and the directories that it
is in.  By induction on the depth: the names of a directory bring what they list. -/
theorem phpFilesFrom_eq_ok : ∀ {depth : Nat} {dir : Place} {p : Path} {inside : List (Place × Path)},
    fs.IsTree dir → fs.LeadsInto p dir → fs.stopAt inside p = .ok (.directory dir) →
    (inside = [] ∨ ∀ x ∈ p.fileName?, x ∉ ignored) →
    (∀ below, fs.IsSeen ignored dir below → IsUsable (p.joinNames below)) →
    fs.phpFilesFrom ignored (depth + 1) inside p = .ok ((fs.sourcesBelow ignored depth dir).map p.joinNames)
  | 0, dir, p, inside, _, _, hstop, hkept, _ => by
      have hchild : ∀ x ∈ fs.names dir,
          fs.phpFilesFrom ignored 0 ((dir, p) :: inside) (p.joinText x) = .ok [] := fun _ _ => rfl
      rw [phpFilesFrom_directory hstop hkept, mapM_eq_ok hchild]
      simp [Except.map, sourcesBelow]
  | depth + 1, dir, p, inside, htree, hleads, hstop, hkept, husable => by
      have hchild : ∀ x ∈ fs.names dir,
          fs.phpFilesFrom ignored (depth + 1) ((dir, p) :: inside) (p.joinText x) =
            .ok ((fs.entrySources ignored (fs.sourcesBelow ignored depth) dir x).map p.joinNames) := by
        intro x hx
        have hget := mem_names_iff.mp hx
        have hname := htree.names [] x hget
        have hchild : IsUsable (p.joinText x) := husable [x] (isSeen_singleton.mpr hget)
        refine phpFilesFrom_child htree hleads hget hchild (List.cons_ne_nil _ _) (fun hdir hmem => ?_)
        refine phpFilesFrom_eq_ok (htree.child x) (leadsInto_child hname hleads hdir) ?_ (.inr ?_) ?_
        · rw [stopAt_child _ htree hleads hget hchild, if_pos hdir]
        · rw [Path.fileName?_joinText hname.isPlain]
          rintro y ⟨⟩
          exact hmem
        · exact fun below hseen =>
            husable (x :: below) ((isSeen_cons htree hseen.ne_nil).mpr ⟨hdir, hmem, hseen⟩)
      rw [phpFilesFrom_directory hstop hkept, mapM_eq_ok hchild, sourcesBelow, List.map_flatMap,
        List.flatMap_def]
      rfl

/-- The walk fails where a path is refused that it comes to. -/
theorem phpFilesFrom_eq_error : ∀ {depth : Nat} {dir : Place} {p : Path} {inside : List (Place × Path)}
    {below : List String}, fs.IsTree dir → fs.LeadsInto p dir → fs.stopAt inside p = .ok (.directory dir) →
    (inside = [] ∨ ∀ x ∈ p.fileName?, x ∉ ignored) →
    fs.IsSeen ignored dir below → below.length ≤ depth → ¬IsUsable (p.joinNames below) →
    ∃ e, fs.phpFilesFrom ignored (depth + 1) inside p = .error e
  | 0, _, _, _, below, _, _, _, _, hseen, hlength, _ =>
      absurd (List.length_eq_zero_iff.mp (Nat.le_zero.mp hlength)) hseen.ne_nil
  | depth + 1, dir, p, inside, [], _, _, _, _, hseen, _, _ => absurd rfl hseen.ne_nil
  | depth + 1, dir, p, inside, x :: more, htree, hleads, hstop, hkept, hseen, hlength, hunusable => by
      have hget : fs.get? (dir ++ [x]) ≠ none := by
        by_cases hmore : more = []
        · rw [hmore, isSeen_singleton] at hseen
          exact hseen
        · rw [((isSeen_cons htree hmore).mp hseen).1]
          exact Option.some_ne_none _
      have hname := htree.names [] x hget
      have hchild : ∃ e,
          fs.phpFilesFrom ignored (depth + 1) ((dir, p) :: inside) (p.joinText x) = .error e := by
        by_cases husable : IsUsable (p.joinText x)
        · have hmore : more ≠ [] := by
            rintro rfl
            exact hunusable husable
          obtain ⟨hdir, hmem, hinner⟩ := (isSeen_cons htree hmore).mp hseen
          refine phpFilesFrom_eq_error (htree.child x) (leadsInto_child hname hleads hdir) ?_ (.inr ?_)
            hinner (Nat.le_of_succ_le_succ hlength) hunusable
          · rw [stopAt_child _ htree hleads hget husable, if_pos hdir]
          · rw [Path.fileName?_joinText hname.isPlain]
            rintro y ⟨⟩
            exact hmem
        · obtain ⟨e, he⟩ := stopAt_error fs ((dir, p) :: inside) husable
          exact ⟨e, by rw [phpFilesFrom, he]⟩
      obtain ⟨e, he⟩ := mapM_eq_error (f := fun x =>
        fs.phpFilesFrom ignored (depth + 1) ((dir, p) :: inside) (p.joinText x))
          ⟨x, mem_names_iff.mpr hget, hchild⟩
      exact ⟨e, by rw [phpFilesFrom_directory hstop hkept, he]; rfl⟩

end walks

theorem components_joinNames {names : List String} (hnames : ∀ x ∈ names, IsFileName x) (p : Path) :
    (p.joinNames names).components = p.components ++ names := by
  induction names using List.reverseRecOn with
  | nil => exact (List.append_nil _).symm
  | append_singleton init x ih =>
      rw [Path.joinNames_concat, Path.components_joinText (hnames x (by simp)).isPlain,
        ih (fun y hy => hnames y (List.mem_append_left _ hy)), List.append_assoc]

/-- A walk in a directory without links below it lists the PHP files there that are not in a directory with
an ignored name, in the order of the bytes of the names, name by name; the name of the directory itself does
not count.  It fails only where a path that it comes to is refused. -/
theorem phpFiles_lists (fs : FileSystem) (ignored : List String) {root : Path} {dir : Place}
    (hroot : fs.resolve root .entry = .ok (.found dir .directory)) (htree : fs.IsTree dir) :
    (∀ files, fs.phpFiles root ignored = .ok files →
      files.Pairwise (fun p q => p.components.map Text.bytes < q.components.map Text.bytes) ∧
      files.Nodup ∧
      ∀ p, p ∈ files ↔ ∃ below, fs.IsSource ignored dir below ∧ p = root.joinNames below) ∧
    ((∃ files, fs.phpFiles root ignored = .ok files) ↔
      ∀ below, fs.IsSeen ignored dir below → IsUsable (root.joinNames below)) := by
  have hleads := leadsInto_of_resolve hroot
  have hstop : fs.stopAt [] root = .ok (.directory dir) := by rw [stopAt, hroot]
  have hok : (∀ below, fs.IsSeen ignored dir below → IsUsable (root.joinNames below)) →
      fs.phpFiles root ignored =
        .ok ((fs.sourcesBelow ignored (fs.entries.size + 1) dir).map root.joinNames) :=
    phpFilesFrom_eq_ok htree hleads hstop (.inl rfl)
  have husable : (∃ files, fs.phpFiles root ignored = .ok files) →
      ∀ below, fs.IsSeen ignored dir below → IsUsable (root.joinNames below) := by
    rintro ⟨files, hfiles⟩ below hseen
    by_contra hunusable
    obtain ⟨e, he⟩ := phpFilesFrom_eq_error htree hleads hstop (.inl rfl) hseen
      (Nat.le_succ_of_le (htree.length_le hseen.present)) hunusable
    rw [phpFiles, he] at hfiles
    cases hfiles
  refine ⟨fun files hfiles => ?_, husable, fun h => ⟨_, hok h⟩⟩
  obtain rfl : _ = files := Except.ok.inj ((hok (husable ⟨files, hfiles⟩)).symm.trans hfiles)
  have hsource : ∀ below, below ∈ fs.sourcesBelow ignored (fs.entries.size + 1) dir ↔
      fs.IsSource ignored dir below := fun below => by
    rw [mem_sourcesBelow_iff htree]
    exact ⟨And.left, fun h => ⟨h, Nat.le_succ_of_le (htree.length_le h.present)⟩⟩
  have hcomponents : ∀ below ∈ fs.sourcesBelow ignored (fs.entries.size + 1) dir,
      (root.joinNames below).components = root.components ++ below := fun below hmem =>
    components_joinNames (htree.isFileName_of_mem ((hsource below).mp hmem).present) root
  have hpairwise : ((fs.sourcesBelow ignored (fs.entries.size + 1) dir).map root.joinNames).Pairwise
      (fun p q => p.components.map Text.bytes < q.components.map Text.bytes) := by
    rw [List.pairwise_map]
    refine (pairwise_sourcesBelow htree).imp_of_mem (fun {a b} ha hb hab => ?_)
    rw [hcomponents a ha, hcomponents b hb, List.map_append, List.map_append]
    exact List.Lex.append_left _ hab _
  refine ⟨hpairwise, hpairwise.imp (fun hlt heq => ?_), fun p => ?_⟩
  · rw [heq] at hlt
    exact List.lt_irrefl _ hlt
  · rw [List.mem_map]
    constructor
    · rintro ⟨below, hmem, rfl⟩
      exact ⟨below, (hsource below).mp hmem, rfl⟩
    · rintro ⟨below, hbelow, rfl⟩
      exact ⟨below, (hsource below).mpr hbelow, rfl⟩

/-- A directory comes before a file whose name goes on with a dot, although the slash comes behind the dot;
a name that is an extension only does not count, and neither does the name of the root. -/
theorem phpFiles_lists_vendor :
    let source := Entry.file (.bytes "<?php".toUTF8)
    let fs := ((((((FileSystem.empty.put ["r"] .directory).put ["r", "a"] .directory).put
      ["r", "vendor"] .directory).put ["r", ".php"] source).put ["r", "a.php"] source).put
      ["r", "a", "x.PHP"] source).put ["r", "vendor", "y.php"] source
    let files : List Path := [⟨"r/a/x.PHP"⟩, ⟨"r/a.php"⟩]
    fs.resolve ⟨"r"⟩ .entry = .ok (.found ["r"] .directory) ∧ fs.IsTree ["r"] ∧
      fs.phpFiles ⟨"r"⟩ ["vendor", "r"] = .ok files ∧
      files.Pairwise (fun p q => p.components.map Text.bytes < q.components.map Text.bytes) ∧
      (∀ p, p ∈ files ↔ ∃ below, fs.IsSource ["vendor", "r"] ["r"] below ∧ p = Path.joinNames ⟨"r"⟩ below) ∧
      ∀ below, fs.IsSeen ["vendor", "r"] ["r"] below → IsUsable (Path.joinNames ⟨"r"⟩ below) := by
  intro source fs files
  have hroot : fs.resolve ⟨"r"⟩ .entry = .ok (.found ["r"] .directory) := by decide +kernel
  have hlinks : Archive.NoLinks fs [] :=
    (((((((Archive.noLinks_empty _).put (by decide) (by simp)).put (by decide) (by simp)).put (by decide)
      (by simp)).put (by decide) (by simp [source])).put (by decide) (by simp [source])).put (by decide)
      (by simp [source])).put (by decide) (by simp [source])
  have htree : fs.IsTree [] := isTree_of_entries hlinks (by decide +kernel)
  have hfiles : fs.phpFiles ⟨"r"⟩ ["vendor", "r"] = .ok files := by decide +kernel
  obtain ⟨hlists, husable⟩ := phpFiles_lists fs ["vendor", "r"] hroot (htree.child "r")
  obtain ⟨hpairwise, _, hmem⟩ := hlists files hfiles
  exact ⟨hroot, htree.child "r", hfiles, hpairwise, hmem, husable.mp ⟨files, hfiles⟩⟩

end FileSystem

end RequiredVersion
