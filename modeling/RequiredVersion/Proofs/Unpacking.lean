import RequiredVersion.Proofs.FileChanges
import RequiredVersion.Proofs.Runs
import RequiredVersion.Release.Archive

/-! # Where archives are unpacked to

A member is written along the way of the destination and of its own path behind that
(`unpacks_extract`).  Where no link stands, the way behind the destination stays at or below it as
long as the path of the member does not go above its start (`way_within`).

This is not what is asked of a member: its whole name, with the top directory in it, may not go above
its start, and so its path may do so by one level (`staysBelow_memberPath`).  `extract_contained` says
what follows from this. -/

namespace RequiredVersion

/-! ### Names that stay below their start -/

namespace Archive

section staysBelow
variable {depth : Nat} {c : String} {cs : List String}

theorem staysBelow_up_succ : staysBelow (depth + 1) (".." :: cs) = staysBelow depth cs := rfl

theorem staysBelow_name (hdot : c ≠ ".") (hup : c ≠ "..") :
    staysBelow depth (c :: cs) = staysBelow (depth + 1) cs := by
  rw [staysBelow.eq_def]
  simp [hdot, hup]

end staysBelow

theorem staysBelow_succ : ∀ (cs : List String) (depth : Nat), staysBelow depth cs = true →
    staysBelow (depth + 1) cs = true
  | [], _, _ => rfl
  | c :: cs, depth, h => by
      by_cases hdot : c = "."
      · subst hdot
        exact staysBelow_succ cs depth h
      · by_cases hup : c = ".."
        · subst hup
          match depth, h with
          | 0, h => cases h
          | depth + 1, h => exact staysBelow_succ cs depth h
        · rw [staysBelow_name hdot hup] at h ⊢
          exact staysBelow_succ cs (depth + 1) h

theorem staysBelow_filter : ∀ (cs : List String) (depth : Nat),
    staysBelow depth (cs.filter (· != ".")) = staysBelow depth cs
  | [], _ => rfl
  | c :: cs, depth => by
      by_cases hdot : c = "."
      · subst hdot
        exact staysBelow_filter cs depth
      · rw [List.filter_cons_of_pos (by simpa using hdot)]
        by_cases hup : c = ".."
        · subst hup
          match depth with
          | 0 => rfl
          | depth + 1 => exact staysBelow_filter cs depth
        · rw [staysBelow_name hdot hup, staysBelow_name hdot hup]
          exact staysBelow_filter cs (depth + 1)

end Archive

namespace Path

/-- The names of a path without the dots. -/
def parts (p : Path) : List String := (p.pieces.filter (fun c => !isIdle c)).map String.ofList

theorem filter_ne_dot (ps : List (List Char)) :
    (ps.map String.ofList).filter (· != ".") = (ps.filter (· != ['.'])).map String.ofList := by
  rw [List.filter_map]
  congr 1
  apply List.filter_congr
  intro c _
  have hdot : String.ofList c = "." ↔ c = ['.'] := by
    rw [← String.toList_inj, String.toList_ofList]
    rfl
  rw [Bool.eq_iff_iff]
  simp [hdot]

theorem filter_names (p : Path) : p.names.filter (· != ".") = p.parts := by
  rw [names, filter_ne_dot, List.filter_filter, parts]
  congr 1
  apply List.filter_congr
  intro c _
  rw [isIdle, Bool.not_or, Bool.and_comm]
  rfl

theorem filter_components (p : Path) : p.components.filter (· != ".") = p.parts := by
  have hbelow : ∀ ps : List (List Char), ((ps.filter (fun c => !isIdle c)).map String.ofList).filter
      (· != ".") = (ps.filter (fun c => !isIdle c)).map String.ofList := by
    intro ps
    rw [filter_ne_dot, List.filter_filter]
    congr 1
    apply List.filter_congr
    intro c _
    by_cases hc : c = ['.'] <;> simp [isIdle, hc]
  unfold components parts
  cases p.pieces with
  | nil => rfl
  | cons first rest =>
      dsimp only
      by_cases hfirst : first = []
      · rw [if_pos hfirst, hbelow, List.filter_cons_of_neg (by simp [hfirst, isIdle])]
      · rw [if_neg hfirst]
        by_cases hdot : first = ['.']
        · subst hdot
          exact hbelow rest
        · have hkept : String.ofList first ≠ "." := by
            rw [ne_eq, ← String.toList_inj, String.toList_ofList]
            exact hdot
          rw [List.filter_cons_of_pos (by simpa using hkept), hbelow,
            List.filter_cons_of_pos (by simp [isIdle, hfirst, hdot]), List.map_cons]

end Path

namespace FileSystem

/-! ### The way behind a path -/

/-- The way of a path behind that of another one. -/
def wayBehind (fs : FileSystem) (p q : Path) : List Place :=
  match (fs.route p).stop with
  | none => []
  | some (dir, n) => (fs.routeSteps n dir q.names).way

section wayBehind
variable {fs fs' : FileSystem} {p q : Path}

theorem way_join (hq : q.isAbsolute = false) :
    fs.way (p.join q) = fs.way p ++ fs.wayBehind p q := by
  rw [way, route, start_join hq, Path.names_join hq, routeSteps_append]
  change ((fs.route p).andThen _).way = (fs.route p).way ++ _
  unfold Route.andThen wayBehind
  cases (fs.route p).stop with
  | none => exact (List.append_nil _).symm
  | some _ => rfl

theorem Grows.wayBehind_eq {made written : Place → Prop} (h : Grows made written fs fs')
    (p q : Path) : fs'.wayBehind p q = fs.wayBehind p q := by
  unfold wayBehind
  simp only [h.route_eq, h.routeSteps_eq]

theorem write_join_grows {content : Content} (hq : q.isAbsolute = false) (hne : q.names ≠ [])
    (h : fs.write (p.join q) content = .ok fs') :
    Grows (fun _ => False) (· ∈ fs.wayBehind p q) fs fs' := by
  refine (write_grows h).mono (fun _ => id) ?_
  rintro place ⟨_, hgoal⟩
  obtain ⟨t, hresolve, hgoal', _, _, hentry, _⟩ := write_eq h
  obtain rfl : t.place = place := Option.some.inj (hgoal'.symm.trans hgoal)
  obtain ⟨dir, k, more, harrives, hmore, hsteps⟩ := resolve_join_ok hq hne hresolve
  have hbehind : fs.wayBehind p q = (fs.routeSteps k dir more).way := by
    rw [wayBehind, route, harrives.stop_eq]
    rcases hmore with rfl | rfl
    · rfl
    · rw [routeSteps_slash]
  obtain ⟨_, ⟨hmem, _⟩ | hdir⟩ := resolveSteps_ok more hsteps (fun l hl => by
    rcases hentry with h | ⟨c, h⟩ <;> rw [h] at hl <;> cases hl)
  · rwa [hbehind]
  · rw [hdir] at hentry
    rcases hentry with h | ⟨c, h⟩ <;> cases h

end wayBehind

/-! ### Ways that stay below a place -/

theorem isWithin_append (root below : Place) : isWithin root (root ++ below) = true :=
  List.isPrefixOf_iff_prefix.mpr (List.prefix_append root below)

theorem isWithin_self (root : Place) : isWithin root root = true := by
  simpa using isWithin_append root []

/-- Where no links stand, names that never go above their start lead through places below it. -/
theorem way_within {fs : FileSystem} {root : Place}
    (hlinks : ∀ place l, isWithin root place = true → fs.get? place ≠ some (.link l)) (n : Nat) :
    ∀ (names : List String) (below : Place), "" ∉ names →
      Archive.staysBelow below.length names = true →
        ∀ place ∈ (fs.routeSteps n (root ++ below) names).way, isWithin root place = true
  | [], below, _, _ => by
      rw [routeSteps_nil]
      exact fun place h => absurd h List.not_mem_nil
  | name :: rest, below, hempty, hstays => by
      have hrest : "" ∉ rest := fun h => hempty (List.mem_cons_of_mem _ h)
      by_cases hdot : name = "."
      · subst hdot
        rw [routeSteps_idle (.inr rfl)]
        exact way_within hlinks n rest below hrest hstays
      · by_cases hup : name = ".."
        · subst hup
          rcases List.eq_nil_or_concat below with rfl | ⟨init, last, rfl⟩
          · cases hstays
          · rw [List.concat_eq_append] at hstays ⊢
            rw [List.length_append, List.length_singleton, Archive.staysBelow_up_succ] at hstays
            rw [routeSteps_up, ← List.append_assoc, List.dropLast_concat]
            exact way_within hlinks n rest init hrest hstays
        · have hname : IsName name := ⟨fun e => hempty (e ▸ List.mem_cons_self), hdot, hup⟩
          have hplace : isWithin root (root ++ below ++ [name]) = true := by
            rw [List.append_assoc]
            exact isWithin_append root _
          rw [routeSteps_down hname (fun l => hlinks _ l hplace)]
          rw [Archive.staysBelow_name hdot hup] at hstays
          intro place h
          rcases List.mem_cons.mp h with rfl | h
          · exact hplace
          · refine way_within hlinks n rest (below ++ [name]) hrest ?_ place ?_
            · rwa [List.length_append]
            · rwa [← List.append_assoc]

end FileSystem

namespace Path

theorem names_ne_nil {p : Path} (hrel : p.isAbsolute = false) (hne : p.text.isEmpty = false) :
    p.names ≠ [] := by
  unfold isAbsolute at hrel
  unfold names pieces
  match htext : p.text.toList with
  | [] =>
      rw [String.toList_eq_nil_iff] at htext
      rw [htext] at hne
      cases hne
  | c :: cs =>
      have hc : c ≠ '/' := by
        rintro rfl
        rw [htext] at hrel
        exact absurd hrel (by simp)
      rw [Text.splitAt, if_neg hc]
      cases Text.splitAt '/' cs with
      | nil => exact List.cons_ne_nil _ _
      | cons piece pieces => exact List.cons_ne_nil _ _

theorem empty_not_mem_names (p : Path) : "" ∉ p.names := by
  intro h
  obtain ⟨piece, hpiece, hempty⟩ := List.mem_map.mp h
  rw [← String.toList_inj, String.toList_ofList] at hempty
  simpa [hempty] using (List.mem_filter.mp hpiece).2

theorem filter_dropWhile_idle (ps : List (List Char)) :
    (ps.dropWhile isIdle).filter (fun c => !isIdle c) = ps.filter (fun c => !isIdle c) := by
  have hnone : (ps.takeWhile isIdle).filter (fun c => !isIdle c) = [] := by
    rw [List.filter_eq_nil_iff]
    intro c hc
    simp [List.mem_takeWhile_imp hc]
  have happend := congrArg (List.filter (fun c => !isIdle c))
    (List.takeWhile_append_dropWhile (p := isIdle) (l := ps))
  rwa [List.filter_append, hnone, List.nil_append] at happend

theorem dropFirst?_eq {p q : Path} {name : String} (hidle : isIdle name.toList = false)
    (h : p.dropFirst? name = some q) : q.isAbsolute = false ∧ p.parts = name :: q.parts := by
  obtain ⟨first, rest, hp⟩ := List.exists_cons_of_ne_nil p.pieces_ne_nil
  rw [dropFirst?, hp, trimPieces] at h
  dsimp only at h
  split at h
  · next hfirst =>
      have hclean : ∀ piece ∈ (rest.reverse.dropWhile isIdle).reverse.dropWhile isIdle,
          '/' ∉ piece := by
        intro piece hpiece
        have hmem := (List.dropWhile_suffix isIdle).subset hpiece
        rw [List.mem_reverse] at hmem
        have hmem := (List.dropWhile_suffix isIdle).subset hmem
        rw [List.mem_reverse] at hmem
        have hmem : piece ∈ p.pieces := by
          rw [hp]
          exact List.mem_cons_of_mem _ hmem
        exact Text.not_mem_of_mem_splitAt '/' hmem
      have hparts : p.parts = name ::
          (((rest.reverse.dropWhile isIdle).reverse.dropWhile isIdle).filter
            (fun c => !isIdle c)).map String.ofList := by
        rw [filter_dropWhile_idle, List.filter_reverse, filter_dropWhile_idle, List.filter_reverse,
          List.reverse_reverse, parts, hp, hfirst.1, List.filter_cons_of_pos (by simp [hidle]),
          List.map_cons, String.ofList_toList]
      have hhead := List.head?_dropWhile_not isIdle (rest.reverse.dropWhile isIdle).reverse
      generalize (rest.reverse.dropWhile isIdle).reverse.dropWhile isIdle = ps
        at h hclean hparts hhead
      obtain rfl := Option.some.inj h
      by_cases hps : ps = []
      · subst hps
        exact ⟨rfl, hparts⟩
      · have hpieces := pieces_ofPieces hps hclean
        refine ⟨?_, by rw [hparts, parts, hpieces]⟩
        rw [← Bool.not_eq_true, isAbsolute_iff, hpieces]
        rintro ⟨_, _, rfl⟩
        exact absurd hhead (by simp [isIdle])
  · cases h

end Path

namespace Archive

open FileSystem

/-! ### Paths of members -/

theorem staysBelow_names (p : Path) (depth : Nat) :
    staysBelow depth p.names = staysBelow depth p.components := by
  rw [← staysBelow_filter, Path.filter_names, ← Path.filter_components, staysBelow_filter]

/-- The path of a member is relative, and goes above its start by one level at most. -/
theorem staysBelow_memberPath {name : String} (h : isSafe name = true) :
    (memberPath name).isAbsolute = false ∧ staysBelow 1 (memberPath name).names = true := by
  rw [isSafe, Bool.and_eq_true, Bool.and_eq_true, Bool.not_eq_true', Bool.not_eq_true'] at h
  obtain ⟨⟨_, hrel⟩, hstays⟩ := h
  rw [← staysBelow_names] at hstays
  unfold memberPath
  cases hdrop : (⟨name⟩ : Path).dropFirst? topName with
  | none => exact ⟨hrel, staysBelow_succ _ 0 hstays⟩
  | some q =>
      obtain ⟨hq, hparts⟩ := Path.dropFirst?_eq (by decide) hdrop
      refine ⟨hq, ?_⟩
      rw [← staysBelow_filter, Path.filter_names, hparts,
        staysBelow_name (by decide) (by decide)] at hstays
      rwa [Option.getD_some, ← staysBelow_filter, Path.filter_names]

theorem mem_names_addMember (members : List (String × Member)) (m : String × Member)
    (name : String) :
    name ∈ (addMember members m).map Prod.fst ↔ name ∈ members.map Prod.fst ∨ name = m.1 := by
  unfold addMember
  split
  · next hany =>
      have hsame : (members.map (fun n => if n.1 = m.1 then m else n)).map Prod.fst =
          members.map Prod.fst := by
        rw [List.map_map]
        refine List.map_congr_left (fun n _ => ?_)
        by_cases hn : n.1 = m.1 <;> simp [hn]
      obtain ⟨n, hn, heq⟩ := List.any_eq_true.mp hany
      have hmem : m.1 ∈ members.map Prod.fst := of_decide_eq_true heq ▸ List.mem_map_of_mem hn
      rw [hsame]
      exact ⟨.inl, fun h => h.elim id (fun e => e ▸ hmem)⟩
  · rw [List.map_append, List.mem_append, List.map_singleton, List.mem_singleton]

theorem mem_names_foldl_addMember (name : String) : ∀ members acc : List (String × Member),
    name ∈ (members.foldl addMember acc).map Prod.fst ↔
      name ∈ acc.map Prod.fst ∨ name ∈ members.map Prod.fst
  | [], acc => by simp
  | m :: members, acc => by
      rw [List.foldl_cons, mem_names_foldl_addMember name members, mem_names_addMember,
        List.map_cons, List.mem_cons, or_assoc]

/-- Of every name a member is left. -/
theorem mem_names_distinct (name : String) (members : List (String × Member)) :
    name ∈ (distinct members).map Prod.fst ↔ name ∈ members.map Prod.fst := by
  rw [distinct, mem_names_foldl_addMember, List.map_nil]
  simp only [List.not_mem_nil, false_or]

/-! ### Writing members -/

/-- A member with this name leads to a file or a directory. -/
def IsUnpacked (name : String) : Prop :=
  isSafe name = true ∧ (memberPath name).text.isEmpty = false

/-- What has been done for a member that was written. -/
inductive Wrote (dest : Path) (name : String) (data : ByteArray) (fs fs' : FileSystem) : Prop
  /-- Nothing, since it leads to nothing. -/
  | skipped (hname : ¬IsUnpacked name) (hfiles : fs' = fs)
  /-- Its directory was made. -/
  | directory (hname : IsUnpacked name) (hdir : isDirectoryName name = true)
      (hmake : fs.makeDirectories (dest.join (memberPath name)) = (.ok (), fs'))
  /-- Its file was written, and before that the directories above it were made. -/
  | file (fs₁ : FileSystem) (hname : IsUnpacked name) (hfile : isDirectoryName name = false)
      (hgrows : Grows (· ∈ fs.way (dest.join (memberPath name))) (fun _ => False) fs fs₁)
      (hwrite : fs₁.write (dest.join (memberPath name)) (.bytes data) = .ok fs')

section written
variable {archive dest : Path} {s s' : Session} {n : Nat}

/-- A file is written and counted only if the data can be read to its end. -/
theorem writeData_ok {target : Path} {data : ByteArray} {failure : Option Cause}
    (h : (writeData target data failure).outcome.run s = (.ok n, s')) :
    failure = none ∧ s.files.write target (.bytes data) = .ok s'.files := by
  unfold writeData at h
  obtain ⟨_, s₁, hchange, hend⟩ := Run.run_bind_ok h
  split at hend
  · cases hend
  · cases hend
    exact ⟨rfl, Run.run_change_ok hchange⟩

theorem wrote_of_writeMember {name : String} {member : Member}
    (h : (writeMember archive dest name member).outcome.run s = (.ok n, s')) :
    Wrote dest name member.data s.files s'.files := by
  unfold writeMember at h
  split at h
  · cases h
  dsimp only at h
  split at h
  · next hunsafe =>
      cases h
      exact .skipped (fun hname => by rw [hname.1] at hunsafe; cases hunsafe) rfl
  next hsafe =>
  split at h
  · next hempty =>
      cases h
      exact .skipped (fun hname => by rw [hname.2] at hempty; cases hempty) rfl
  next htext =>
  have hname : IsUnpacked name := ⟨by simpa using hsafe, by simpa using htext⟩
  split at h
  · next hdir =>
      obtain ⟨_, s₁, hmake, hpure⟩ := Run.run_bind_ok h
      cases hpure
      exact .directory hname hdir (Run.run_makeDirectories_ok hmake)
  next hfile =>
  rw [Bool.not_eq_true] at hfile
  split at h
  · next above habove =>
      obtain ⟨_, s₁, hmake, h⟩ := Run.run_bind_ok h
      have hgrows := makeDirectories_grows s.files above
      rw [Run.run_makeDirectories_ok hmake] at hgrows
      exact .file s₁.files hname hfile
        (hgrows.mono (fun place hplace => (way_parent? habove).subset hplace) (fun _ => id))
        (writeData_ok h).2
  · exact .file s.files hname hfile (.refl s.files) (writeData_ok h).2

theorem writeMembers_cons_ok {m : String × Member} {rest : List (String × Member)}
    (h : (writeMembers archive dest (m :: rest)).outcome.run s = (.ok n, s')) :
    ∃ k l s₁, (writeMember archive dest m.1 m.2).outcome.run s = (.ok k, s₁) ∧
      (writeMembers archive dest rest).outcome.run s₁ = (.ok l, s') := by
  unfold writeMembers at h
  obtain ⟨k, s₁, hfirst, h⟩ := Run.run_bind_ok h
  obtain ⟨l, s₂, hrest, hpure⟩ := Run.run_bind_ok h
  cases hpure
  exact ⟨k, l, s₁, hfirst, hrest⟩

theorem extract_ok (h : (extract archive dest).outcome.run s = (.ok n, s')) :
    ∃ members s₁ s₂, s.files.read archive = .ok (.archive members) ∧ s₁.files = s.files ∧
      (writeMembers archive dest (distinct members)).outcome.run s₁ = (.ok n, s₂) ∧ s'.files = s₂.files := by
  unfold extract at h
  rw [Run.run_bind, Run.run_note] at h
  dsimp only at h
  rw [Run.run_bind, Run.run_files] at h
  dsimp only at h
  split at h
  · cases h
  · cases h
  · cases h
  · next members hread =>
      obtain ⟨k, s₁, hmembers, hnote⟩ := Run.run_bind_ok h
      cases hnote
      refine ⟨members, _, s₁, hread, ?_, hmembers, rfl⟩
      rfl

end written

section kept
variable {P : FileSystem → Prop} {archive dest : Path}

theorem keeps_writeData {target : Path} {data : ByteArray} (failure : Option Cause)
    (hwrite : ∀ fs fs', P fs → fs.write target (.bytes data) = .ok fs' → P fs') :
    Run.Keeps P (writeData target data failure) := by
  unfold writeData
  refine .bind (.change hwrite) (fun _ => ?_)
  split
  · exact .throw _
  · exact .pure 1

/-- Writing a member keeps what making directories on its path and writing its file keep. -/
theorem keeps_writeMember {name : String} {member : Member}
    (hmake : IsUnpacked name → ∀ q fs,
      q = dest.join (memberPath name) ∨ (dest.join (memberPath name)).parent? = some q →
        P fs → P (fs.makeDirectories q).2)
    (hwrite : IsUnpacked name → ∀ fs fs', P fs →
      fs.write (dest.join (memberPath name)) (.bytes member.data) = .ok fs' → P fs') :
    Run.Keeps P (writeMember archive dest name member) := by
  unfold writeMember
  split
  · exact .throw _
  dsimp only
  split
  · exact .bind (.note _ _ _) (fun _ => .pure 0)
  next hsafe =>
  split
  · exact .pure 0
  next htext =>
  have hname : IsUnpacked name := ⟨by simpa using hsafe, by simpa using htext⟩
  split
  · exact .bind (.makeDirectories (fun fs => hmake hname _ fs (.inl rfl))) (fun _ => .pure 0)
  split
  · next above habove =>
      exact .bind (.makeDirectories (fun fs => hmake hname above fs (.inr habove)))
        (fun _ => keeps_writeData _ (hwrite hname))
  · exact keeps_writeData _ (hwrite hname)

theorem keeps_writeMembers {members : List (String × Member)}
    (h : ∀ m ∈ members, Run.Keeps P (writeMember archive dest m.1 m.2)) :
    Run.Keeps P (writeMembers archive dest members) := by
  induction members with
  | nil => exact .pure 0
  | cons m rest ih =>
      obtain ⟨hm, hrest⟩ := List.forall_mem_cons.mp h
      unfold writeMembers
      exact .bind hm (fun n => .bind (ih hrest) (fun k => .pure (n + k)))

/-- Unpacking changes nothing but by the members of an archive that can be read. -/
theorem files_extract (archive dest : Path) (s : Session) :
    ((extract archive dest).outcome.run s).2.files = s.files ∨
      ∃ members s₁, s.files.read archive = .ok (.archive members) ∧ s₁.files = s.files ∧
        ((extract archive dest).outcome.run s).2.files =
          ((writeMembers archive dest (distinct members)).outcome.run s₁).2.files := by
  unfold extract
  rw [Run.run_bind, Run.run_note]
  obtain ⟨s₁, hs₁⟩ : ∃ s₁ : Session, s₁ = { s with log := s.log ++
    [⟨area, .info, "Extracting " ++ archive.quoted ++ " to " ++ dest.quoted⟩] } := ⟨_, rfl⟩
  have hsame : s₁.files = s.files := by rw [hs₁]
  dsimp only
  rw [← hs₁, ← hsame, Run.run_bind, Run.run_files]
  dsimp only
  split
  · exact .inl rfl
  · exact .inl rfl
  · exact .inl rfl
  · next members hread =>
      refine .inr ⟨members, s₁, hread, rfl, ?_⟩
      rw [Run.run_bind]
      rcases (writeMembers archive dest (distinct members)).outcome.run s₁ with ⟨e | n, s'⟩ <;> rfl

end kept

/-! ### Unpacking -/

/-- A place that a member with one of the names leads to behind the destination. -/
def Reached (fs : FileSystem) (dest : Path) (names : List String) (place : Place) : Prop :=
  ∃ name ∈ names, isSafe name = true ∧ place ∈ fs.wayBehind dest (memberPath name)

/-- Directories are made on the way of the destination, and behind it directories and files where
members with the given names lead to. -/
def Unpacks (fs : FileSystem) (dest : Path) (names : List String) : FileSystem → Prop :=
  Grows (fun place => place ∈ fs.way dest ∨ Reached fs dest names place) (Reached fs dest names) fs

section unpacks
variable {fs : FileSystem} {archive dest : Path} {names : List String}

theorem unpacks_writeMember {name : String} (hname : name ∈ names) (member : Member) :
    Run.Keeps (Unpacks fs dest names) (writeMember archive dest name member) := by
  refine keeps_writeMember (fun hunpacked q fs' hq hgrows => hgrows.trans ?_)
    (fun hunpacked fs₁ fs₂ hgrows h => hgrows.trans ?_)
  · have hrel := (staysBelow_memberPath hunpacked.1).1
    have hpath : ∀ place ∈ fs'.way q, place ∈ fs'.way (dest.join (memberPath name)) := by
      rcases hq with rfl | habove
      · exact fun _ hplace => hplace
      · exact fun _ hplace => (way_parent? habove).subset hplace
    refine (makeDirectories_grows fs' q).mono (fun place hplace => ?_) (fun _ => False.elim)
    have hway := hpath place hplace
    rw [hgrows.way_eq, way_join hrel] at hway
    exact (List.mem_append.mp hway).imp id (fun h => ⟨name, hname, hunpacked.1, h⟩)
  · have hrel := (staysBelow_memberPath hunpacked.1).1
    refine (write_join_grows hrel (Path.names_ne_nil hrel hunpacked.2) h).mono (fun _ => False.elim)
      (fun place hplace => ?_)
    rw [hgrows.wayBehind_eq] at hplace
    exact ⟨name, hname, hunpacked.1, hplace⟩

theorem unpacks_writeMembers (members : List (String × Member))
    (h : ∀ m ∈ members, m.1 ∈ names) :
    Run.Keeps (Unpacks fs dest names) (writeMembers archive dest members) :=
  keeps_writeMembers (fun m hm => unpacks_writeMember (h m hm) m.2)

end unpacks

/-- Unpacking changes nothing unless an archive is read, and then no more than its members ask for. -/
theorem unpacks_extract (archive dest : Path) (s : Session) :
    ((extract archive dest).outcome.run s).2.files = s.files ∨
      ∃ members, s.files.read archive = .ok (.archive members) ∧
        Unpacks s.files dest (members.map Prod.fst)
          ((extract archive dest).outcome.run s).2.files := by
  refine (files_extract archive dest s).imp id (fun ⟨members, s₁, hread, hsame, hfiles⟩ => ?_)
  have hmembers : ∀ m ∈ distinct members, m.1 ∈ members.map Prod.fst := fun m hm =>
    (mem_names_distinct m.1 members).mp (List.mem_map_of_mem hm)
  have hstart : Unpacks s.files dest (members.map Prod.fst) s₁.files := by
    rw [hsame]
    exact .refl s.files
  rw [hfiles]
  exact ⟨members, hread, unpacks_writeMembers _ hmembers s₁ hstart⟩

/-! ### The destination exists -/

section destination
variable {archive dest : Path} {s s' : Session} {n : Nat}

theorem leadsInto_of_writeMember {name : String} {member : Member} (hname : IsUnpacked name)
    (h : (writeMember archive dest name member).outcome.run s = (.ok n, s')) :
    ∃ dir, s'.files.LeadsInto dest dir := by
  have hrel := (staysBelow_memberPath hname.1).1
  have hnames := Path.names_ne_nil hrel hname.2
  cases wrote_of_writeMember h with
  | skipped hnot hfiles => exact absurd hname hnot
  | directory _ _ hmake =>
      exact makeDirectories_leadsInto (Path.names_join hrel) (Path.isAbsolute_join hrel) hnames hmake
  | file fs₁ _ _ _ hwrite =>
      obtain ⟨t, hresolve, _⟩ := write_eq hwrite
      obtain ⟨dir, k, _, harrives, _⟩ := resolve_join_ok hrel hnames hresolve
      exact ⟨dir, (write_grows hwrite).leadsInto ⟨k, harrives⟩⟩

theorem leadsInto_of_writeMembers : ∀ {members : List (String × Member)} {s : Session} {n : Nat},
    (∃ name ∈ members.map Prod.fst, IsUnpacked name) →
      (writeMembers archive dest members).outcome.run s = (.ok n, s') → ∃ dir, s'.files.LeadsInto dest dir
  | [], _, _, ⟨_, hm, _⟩, _ => absurd hm List.not_mem_nil
  | m :: rest, s, n, ⟨name, hname, hunpacked⟩, h => by
      obtain ⟨_, _, s₁, hfirst, hrest⟩ := writeMembers_cons_ok h
      rcases List.mem_cons.mp hname with rfl | hname
      · -- the other members leave the directory where it is
        obtain ⟨dir, hdir⟩ := leadsInto_of_writeMember hunpacked hfirst
        have hkeeps : Unpacks s₁.files dest (rest.map Prod.fst)
            ((writeMembers archive dest rest).outcome.run s₁).2.files :=
          unpacks_writeMembers rest (fun _ => List.mem_map_of_mem) s₁ (.refl s₁.files)
        rw [hrest] at hkeeps
        exact ⟨dir, hkeeps.leadsInto hdir⟩
      · exact leadsInto_of_writeMembers ⟨name, hname, hunpacked⟩ hrest

/-- An archive that was unpacked has left a directory, if it has a member that leads to something. -/
theorem leadsInto_of_extract
    (h : (extract archive dest).outcome.run s = (.ok n, s')) :
    ∃ members, s.files.read archive = .ok (.archive members) ∧
      ((∃ name ∈ members.map Prod.fst, IsUnpacked name) → ∃ dir, s'.files.LeadsInto dest dir) := by
  obtain ⟨members, s₁, s₂, hread, _, hwrite, hfiles⟩ := extract_ok h
  refine ⟨members, hread, fun ⟨name, hname, hunpacked⟩ => ?_⟩
  rw [hfiles]
  exact leadsInto_of_writeMembers
    ⟨name, (mem_names_distinct name members).mpr hname, hunpacked⟩ hwrite

end destination

/-! ### Staying at the destination -/

/-- No link stands at a place or below it. -/
def NoLinks (fs : FileSystem) (root : Place) : Prop :=
  ∀ place l, isWithin root place = true → fs.get? place ≠ some (.link l)

theorem noLinks_empty (root : Place) : NoLinks .empty root := by
  intro place l _ hl
  rw [FileSystem.get?] at hl
  split at hl <;> cases hl

theorem NoLinks.put {fs : FileSystem} {root place : Place} {entry : Entry} (h : NoLinks fs root)
    (hne : place ≠ []) (hentry : ∀ l, entry ≠ .link l) : NoLinks (fs.put place entry) root := by
  intro q l hq hl
  rw [get?_put _ hne] at hl
  split at hl
  · exact hentry l (Option.some.inj hl)
  · exact h q l hq hl

theorem wayBehind_within {fs : FileSystem} {dest q : Path} {root below place : Place}
    (hgoal : fs.goal? dest = some (root ++ below)) (hlinks : NoLinks fs root)
    (hstays : staysBelow below.length q.names = true) (h : place ∈ fs.wayBehind dest q) :
    isWithin root place = true := by
  obtain ⟨⟨dir, n⟩, hstop, rfl⟩ := Option.map_eq_some_iff.mp hgoal
  rw [wayBehind, hstop] at h
  exact way_within hlinks n q.names below q.empty_not_mem_names hstays place h

/-- A place that a member with one of the names leads to, by a path that goes above its start. -/
def Escaped (fs : FileSystem) (dest : Path) (names : List String) (place : Place) : Prop :=
  ∃ name ∈ names, isSafe name = true ∧ staysBelow 0 (memberPath name).components = false ∧
    place ∈ fs.wayBehind dest (memberPath name)

section reached
variable {fs : FileSystem} {dest : Path} {names : List String} {dir place : Place}

theorem Reached.goal? (h : Reached fs dest names place) : ∃ dir, fs.goal? dest = some dir := by
  obtain ⟨m, _, _, hplace⟩ := h
  unfold wayBehind at hplace
  unfold FileSystem.goal?
  cases hstop : (fs.route dest).stop with
  | none =>
      rw [hstop] at hplace
      exact absurd hplace List.not_mem_nil
  | some stop => exact ⟨stop.1, rfl⟩

/-- A place that a member leads to is below the destination, unless the path of the member goes
above its start. -/
theorem Reached.within_or_escaped (hgoal : fs.goal? dest = some dir) (hlinks : NoLinks fs dir)
    (h : Reached fs dest names place) :
    isWithin dir place = true ∨ Escaped fs dest names place := by
  obtain ⟨name, hname, hsafe, hplace⟩ := h
  cases hstays : staysBelow 0 (memberPath name).components with
  | true =>
      rw [← staysBelow_names] at hstays
      rw [← List.append_nil dir] at hgoal
      exact .inl (wayBehind_within hgoal hlinks hstays hplace)
  | false => exact .inr ⟨name, hname, hsafe, hstays, hplace⟩

/-- No member leads further than one level above the destination. -/
theorem Escaped.within_dropLast (hgoal : fs.goal? dest = some dir)
    (hlinks : NoLinks fs dir.dropLast) (h : Escaped fs dest names place) :
    isWithin dir.dropLast place = true := by
  obtain ⟨m, _, hsafe, _, hplace⟩ := h
  rcases List.eq_nil_or_concat dir with rfl | ⟨above, last, rfl⟩
  · rfl
  · rw [List.concat_eq_append] at hgoal hlinks ⊢
    rw [List.dropLast_concat] at hlinks ⊢
    exact wayBehind_within hgoal hlinks (staysBelow_memberPath hsafe).2 hplace

end reached

/-- **Where an archive is unpacked to.**  Unpacking, whether it fails or not, changes a place only
at or below the destination, or makes a directory on the way of the destination, unless a member has
a path that goes above its start.  Such a member can change places beside the destination, but none
that is not below the directory that holds the destination. -/
theorem extract_contained (archive dest : Path) (s : Session)
    (hlinks : ∀ dir, s.files.goal? dest = some dir → NoLinks s.files dir) (place : Place) :
    let after := ((extract archive dest).outcome.run s).2.files
    after.get? place = s.files.get? place ∨
      (∃ dir, s.files.goal? dest = some dir ∧ isWithin dir place = true) ∨
      (place ∈ s.files.way dest ∧ s.files.get? place = none ∧ after.get? place = some .directory) ∨
      ∃ dir members, s.files.goal? dest = some dir ∧
        s.files.read archive = .ok (.archive members) ∧
        Escaped s.files dest (members.map Prod.fst) place ∧
        (NoLinks s.files dir.dropLast → isWithin dir.dropLast place = true) := by
  intro after
  rcases unpacks_extract archive dest s with hsame | ⟨members, hread, hgrows⟩
  · exact .inl (by rw [← hsame])
  · rcases hgrows.entry place with hkeep | ⟨hway | hreached, hnone, hdir⟩ | ⟨hreached, _⟩
    · exact .inl hkeep
    · exact .inr (.inr (.inl ⟨hway, hnone, hdir⟩))
    all_goals
      obtain ⟨dir, hgoal⟩ := hreached.goal?
      rcases hreached.within_or_escaped hgoal (hlinks dir hgoal) with hwithin | hescaped
      · exact .inr (.inl ⟨dir, hgoal, hwithin⟩)
      · exact .inr (.inr (.inr
          ⟨dir, members, hgoal, hread, hescaped, fun h => hescaped.within_dropLast hgoal h⟩))

/-- A member whose path goes above its start is written beside the destination. -/
theorem extract_contained_beside :
    let s := Session.start
      (FileSystem.empty.put ["z"] (.file (.archive [("wordpress/../x", .whole ⟨#[1]⟩)])))
    (∀ dir, s.files.goal? ⟨"out"⟩ = some dir → NoLinks s.files dir) ∧
      ((extract ⟨"z"⟩ ⟨"out"⟩).outcome.run s).2.files.get? ["x"] = some (.file (.bytes ⟨#[1]⟩)) ∧
      ∃ members, s.files.read ⟨"z"⟩ = .ok (.archive members) ∧
        Escaped s.files ⟨"out"⟩ (members.map Prod.fst) ["x"] := by
  intro s
  have hlinks : ∀ dir, s.files.goal? ⟨"out"⟩ = some dir → NoLinks s.files dir := by
    intro dir _ place l _ hl
    have hl := (get?_put .empty (List.cons_ne_nil "z" []) _ place).symm.trans hl
    rw [FileSystem.get?] at hl
    split at hl
    · cases hl
    · split at hl <;> cases hl
  have hwritten : ((extract ⟨"z"⟩ ⟨"out"⟩).outcome.run s).2.files.get? ["x"] =
      some (.file (.bytes ⟨#[1]⟩)) := by decide +kernel
  have hgoal : s.files.goal? ⟨"out"⟩ = some ["out"] := by decide +kernel
  refine ⟨hlinks, hwritten, ?_⟩
  rcases extract_contained ⟨"z"⟩ ⟨"out"⟩ s hlinks ["x"] with
    hkeep | ⟨dir, hdir, hwithin⟩ | ⟨_, _, hmade⟩ | ⟨_, members, _, hread, hescaped, _⟩
  · rw [hwritten] at hkeep
    cases hkeep
  · rw [hgoal] at hdir
    cases hdir
    exact absurd hwithin (by decide)
  · rw [hwritten] at hmade
    cases hmade
  · exact ⟨members, hread, hescaped⟩

end Archive

end RequiredVersion
