import RequiredVersion.Proofs.ReleaseContents

/-! # All that an archive leaves behind

What stands where below the destination once an archive was unpacked can be told from its members alone:
each of them puts its file, or its directory, at its path and directories above that (`Archive.placed`),
and the last one counts (`Archive.contents?`).

One member that was written puts these entries there and leaves all else as it was
(`Archive.get?_writeMember`), hence so do all of them (`Archive.get?_writeMembers`). -/

namespace RequiredVersion

namespace FileSystem

/-! ### Ways behind a path -/

section ways
variable {fs : FileSystem} {root : Place}

/-- Where no links stand, names that do not go up lead through all places down to their end. -/
theorem mem_way_iff_of_not_mem (hlinks : Archive.NoLinks fs root) (n : Nat) {place : Place} :
    ∀ (names : List String) (dir : Place), isWithin root dir = true → "" ∉ names → ".." ∉ names →
      (place ∈ (fs.routeSteps n dir names).way ↔
        ∃ below, below ≠ [] ∧ below <+: names.filter (· != ".") ∧ place = dir ++ below)
  | [], dir, _, _, _ => by
      rw [routeSteps_nil]
      refine ⟨fun h => absurd h List.not_mem_nil, ?_⟩
      rintro ⟨below, hne, hbelow, _⟩
      exact absurd (List.prefix_nil.mp hbelow) hne
  | name :: rest, dir, hdir, hempty, hup => by
      have hempty' := List.not_mem_of_not_mem_cons hempty
      have hup' := List.not_mem_of_not_mem_cons hup
      by_cases hdot : name = "."
      · subst hdot
        rw [routeSteps_idle (.inr rfl)]
        exact mem_way_iff_of_not_mem hlinks n rest dir hdir hempty' hup'
      · have hname : IsName name :=
          ⟨(List.ne_of_not_mem_cons hempty).symm, hdot, (List.ne_of_not_mem_cons hup).symm⟩
        have hwithin : isWithin root (dir ++ [name]) = true := by
          obtain ⟨below, rfl⟩ := List.isPrefixOf_iff_prefix.mp hdir
          rw [List.append_assoc]
          exact isWithin_append root _
        rw [routeSteps_down hname (fun l => hlinks _ l hwithin),
          List.filter_cons_of_pos (by simpa using hdot)]
        refine List.mem_cons.trans ((or_congr_right
          (mem_way_iff_of_not_mem hlinks n rest (dir ++ [name]) hwithin hempty' hup')).trans ⟨?_, ?_⟩)
        · rintro (rfl | ⟨below, _, hbelow, rfl⟩)
          · exact ⟨[name], List.cons_ne_nil _ _, (List.cons_prefix_cons.mpr ⟨rfl, List.nil_prefix⟩), rfl⟩
          · exact ⟨name :: below, List.cons_ne_nil _ _, List.cons_prefix_cons.mpr ⟨rfl, hbelow⟩,
              by rw [List.append_assoc]; rfl⟩
        · rintro ⟨below, hne, hbelow, rfl⟩
          rcases List.prefix_cons_iff.mp hbelow with rfl | ⟨more, rfl, hmore⟩
          · exact absurd rfl hne
          · by_cases hnil : more = []
            · exact .inl (by rw [hnil])
            · exact .inr ⟨more, hnil, hmore, by rw [List.append_assoc]; rfl⟩

theorem mem_wayBehind_iff {p q : Path} {place : Place} (hgoal : fs.goal? p = some root)
    (hlinks : Archive.NoLinks fs root) (hup : ".." ∉ q.parts) :
    place ∈ fs.wayBehind p q ↔ ∃ below, below ≠ [] ∧ below <+: q.parts ∧ place = root ++ below := by
  obtain ⟨⟨_, k⟩, hstop, rfl⟩ := Option.map_eq_some_iff.mp hgoal
  have hnames : ".." ∉ q.names := fun h => by
    rw [← Path.filter_names] at hup
    exact hup (List.mem_filter.mpr ⟨h, by decide⟩)
  rw [wayBehind, hstop, ← Path.filter_names]
  exact mem_way_iff_of_not_mem hlinks k q.names _ (isWithin_self _) q.empty_not_mem_names hnames

end ways

/-! ### Directories that were made -/

section directories
variable {fs fs' : FileSystem} {p : Path} {place : Place}

/-- A directory that was made, or was there, has directories or links on all of its way. -/
theorem way_of_ensureDirectory (h : fs.ensureDirectory p = .ok fs') (hplace : place ∈ fs.way p) :
    fs'.get? place = some .directory ∨ ∃ l, fs'.get? place = some (.link l) := by
  unfold ensureDirectory at h
  split at h
  · next fs₁ hmake =>
      cases h
      unfold makeDirectory at hmake
      split at hmake
      · next dir name hresolve =>
          cases hmake
          rw [get?_put _ (by simp)]
          split
          · exact .inl rfl
          · next hother =>
              have hway : place ∈ fs.way (withoutSlashes p) := by rwa [way, route_withoutSlashes]
              rcases way_of_resolve hresolve (fun l hl => by cases hl) hway with hpass | ⟨hlast, _⟩
              · exact hpass.1
              · exact absurd hlast hother
      · cases hmake
      · cases hmake
  · split at h
    · next hdir =>
        cases h
        unfold isDirectory at hdir
        split at hdir
        · next hresolve =>
            obtain ⟨k, harrives⟩ := leadsInto_of_resolve hresolve
            exact (harrives.passable place hplace).1
        · cases hdir
    · cases h

theorem way_of_makeDirectories (hne : p.text.isEmpty = false)
    (h : fs.makeDirectories p = (.ok (), fs')) (hplace : place ∈ fs.way p) :
    fs'.get? place = some .directory ∨ ∃ l, fs'.get? place = some (.link l) := by
  rw [makeDirectories, makeDirectoriesFrom, hne, if_neg (by simp)] at h
  split at h
  · next fs₁ hensure =>
      cases h
      exact way_of_ensureDirectory hensure hplace
  · split at h
    · cases h
    · next above _ =>
        have hgrows := makeDirectoriesFrom_grows p.components.length fs above
        split at h
        · cases h
        · next fs₁ habove =>
            split at h
            · next fs₂ hensure =>
                cases h
                rw [habove] at hgrows
                rw [← hgrows.way_eq] at hplace
                exact way_of_ensureDirectory hensure hplace
            · cases h
  · cases h

end directories

end FileSystem

open FileSystem

namespace Archive

/-! ### What members put where -/

/-- What a member puts at a path below the destination: its file, or a directory at its path or above. -/
def placed (m : String × Member) (below : List String) : Option Entry :=
  if !isSafe m.1 || (memberPath m.1).text.isEmpty then none
  else if !isDirectoryName m.1 && (memberPath m.1).parts == below then some (.file (.bytes m.2.data))
  else if below.isPrefixOf (memberPath m.1).parts then some .directory
  else none

theorem placed_of_isUnpacked {name : String} (h : IsUnpacked name) (member : Member)
    (below : List String) : placed (name, member) below =
      if isDirectoryName name = false ∧ (memberPath name).parts = below then
        some (.file (.bytes member.data))
      else if below <+: (memberPath name).parts then some .directory else none := by
  simp only [placed, h.1, h.2, Bool.not_true, Bool.or_false, Bool.false_eq_true, if_false, Bool.and_eq_true,
    Bool.not_eq_true', beq_iff_eq, List.isPrefixOf_iff_prefix]

theorem placed_of_not_isUnpacked {name : String} (h : ¬IsUnpacked name) (member : Member)
    (below : List String) : placed (name, member) below = none := by
  have hskipped : (!isSafe name || (memberPath name).text.isEmpty) = true := by
    cases hsafe : isSafe name with
    | false => rfl
    | true =>
        rw [Bool.not_true, Bool.false_or]
        rw [← Bool.not_eq_false]
        exact fun htext => h ⟨hsafe, htext⟩
  rw [placed, if_pos hskipped]

/-- What members put at a path below the destination, one after the other. -/
def contents? : List (String × Member) → List String → Option Entry
  | [], _ => none
  | m :: rest, below => (contents? rest below).or (placed m below)

/-- Where an archive can be unpacked: the path leads there, not through anything below, and no links
are there. -/
structure IsDestination (fs : FileSystem) (dest : Path) (root : Place) : Prop where
  goal : fs.goal? dest = some root
  noLinks : NoLinks fs root
  from_outside : ∀ below, root ++ below ∈ fs.way dest → below = []

section destination
variable {fs fs' : FileSystem} {dest q : Path} {root : Place} {below : List String}

theorem IsDestination.of_grows {made written : Place → Prop} (h : IsDestination fs dest root)
    (hgrows : Grows made written fs fs') : IsDestination fs' dest root := by
  refine ⟨(hgrows.goal?_eq dest).trans h.goal, fun place l hplace hl => ?_, ?_⟩
  · exact h.noLinks place l hplace ((hgrows.link_iff place l).mp hl)
  · rw [hgrows.way_eq]
    exact h.from_outside

theorem IsDestination.mem_way_iff (h : IsDestination fs dest root) (hq : q.isAbsolute = false)
    (hup : ".." ∉ q.parts) (hne : below ≠ []) :
    root ++ below ∈ fs.way (dest.join q) ↔ below <+: q.parts := by
  rw [way_join hq, List.mem_append, mem_wayBehind_iff h.goal h.noLinks hup]
  constructor
  · rintro (hway | ⟨below', _, hbelow, hsame⟩)
    · exact absurd (h.from_outside below hway) hne
    · rwa [List.append_cancel_left hsame]
  · exact fun hbelow => .inr ⟨below, hne, hbelow, rfl⟩

theorem IsDestination.not_link (h : IsDestination fs dest root) (below : List String) (l : String) :
    fs.get? (root ++ below) ≠ some (.link l) := h.noLinks _ l (isWithin_append root below)

theorem IsDestination.get?_makeDirectories (h : IsDestination fs dest root) (hq : q.isAbsolute = false)
    (hup : ".." ∉ q.parts) (htext : q.text.isEmpty = false)
    (hmake : fs.makeDirectories (dest.join q) = (.ok (), fs')) (hne : below ≠ []) :
    fs'.get? (root ++ below) =
      if below <+: q.parts then some .directory else fs.get? (root ++ below) := by
  have hgrows := makeDirectories_grows fs (dest.join q)
  rw [hmake] at hgrows
  have hway := h.mem_way_iff hq hup hne
  split
  · next hbelow =>
      have hjoin : (dest.join q).text.isEmpty = false :=
        Path.isEmpty_joinText (fun e => by simp [e] at htext)
      rcases way_of_makeDirectories hjoin hmake (hway.mpr hbelow) with hdir | ⟨l, hl⟩
      · exact hdir
      · exact absurd hl ((h.of_grows hgrows).not_link below l)
  · next hbelow =>
      exact hgrows.get?_eq (fun hmem => hbelow (hway.mp hmem)) not_false

theorem IsDestination.get?_write {fs₁ : FileSystem} {made : Place → Prop} {content : ByteArray}
    (h : IsDestination fs dest root) (hq : q.isAbsolute = false) (hup : ".." ∉ q.parts)
    (hgrows : Grows made (fun _ => False) fs fs₁) (hmade : ∀ place, made place → place ∈ fs.way (dest.join q))
    (hwrite : fs₁.write (dest.join q) (.bytes content) = .ok fs') (hne : below ≠ []) :
    fs'.get? (root ++ below) =
      if q.parts = below then some (.file (.bytes content))
      else if below <+: q.parts then some .directory else fs.get? (root ++ below) := by
  have h₁ := h.of_grows hgrows
  obtain ⟨t, hresolve, hgoal, _, _, hentry, _⟩ := write_eq hwrite
  obtain ⟨goal, hgoal', _, _, _, hget⟩ := FileSystem.get?_write hwrite
  obtain rfl : t.place = goal := Option.some.inj (hgoal.symm.trans hgoal')
  have hplace : t.place = root ++ q.parts :=
    Option.some.inj (hgoal.symm.trans (goal?_join h₁.goal h₁.noLinks hq hup))
  have hfile : ∀ l, t.entry? ≠ some (.link l) := by
    intro l hl
    rcases hentry with hnone | ⟨c, hc⟩
    · rw [hnone] at hl
      cases hl
    · rw [hc] at hl
      cases hl
  rw [hget, hplace]
  by_cases hlast : q.parts = below
  · rw [if_pos hlast, if_pos (by rw [hlast])]
  · have hother : root ++ below ≠ root ++ q.parts := fun e => hlast (List.append_cancel_left e).symm
    rw [if_neg hother, if_neg hlast]
    split
    · next hbelow =>
        -- the path was resolved, so directories stand above its end
        rcases way_of_resolve hresolve hfile ((h₁.mem_way_iff hq hup hne).mpr hbelow) with
          ⟨hdir | ⟨l, hl⟩, _⟩ | ⟨hend, _⟩
        · exact hdir
        · exact absurd hl (h₁.not_link below l)
        · exact absurd (hend.trans hplace) hother
    · next hbelow =>
        exact hgrows.get?_eq (fun hmem => hbelow ((h.mem_way_iff hq hup hne).mp (hmade _ hmem))) not_false

end destination

/-! ### Unpacking -/

section unpacking
variable {archive dest : Path} {root : Place} {below : List String} {s s' : Session} {n : Nat}

/-- A member that was written has put its entries where they belong, and nothing else. -/
theorem get?_writeMember {name : String} {member : Member} (hdest : IsDestination s.files dest root)
    (hname : ".." ∉ (⟨name⟩ : Path).components)
    (h : (writeMember archive dest name member).outcome.run s = (.ok n, s')) (hne : below ≠ []) :
    s'.files.get? (root ++ below) = (placed (name, member) below).or (s.files.get? (root ++ below)) := by
  have hup := up_not_mem_memberPath hname
  cases wrote_of_writeMember h with
  | skipped hnot hfiles =>
      rw [hfiles, placed_of_not_isUnpacked hnot]
      rfl
  | directory hunpacked hdir hmake =>
      have hrel := (staysBelow_memberPath hunpacked.1).1
      rw [placed_of_isUnpacked hunpacked, hdest.get?_makeDirectories hrel hup hunpacked.2 hmake hne,
        if_neg (c := _ ∧ _) (fun hfile => by rw [hdir] at hfile; cases hfile.1)]
      split <;> rfl
  | file fs₁ hunpacked hfile hgrows hwrite =>
      have hrel := (staysBelow_memberPath hunpacked.1).1
      rw [placed_of_isUnpacked hunpacked, hdest.get?_write hrel hup hgrows (fun _ => id) hwrite hne]
      simp only [hfile, true_and]
      split
      · rfl
      · split <;> rfl

theorem get?_writeMembers (hne : below ≠ []) :
    ∀ {members : List (String × Member)} {s : Session} {n : Nat},
    IsDestination s.files dest root → (∀ m ∈ members, ".." ∉ (⟨m.1⟩ : Path).components) →
    (writeMembers archive dest members).outcome.run s = (.ok n, s') →
    s'.files.get? (root ++ below) = (contents? members below).or (s.files.get? (root ++ below))
  | [], _, _, _, _, h => by
      cases h
      rfl
  | (name, member) :: rest, s, n, hdest, hmembers, h => by
      obtain ⟨hname, hrest⟩ := List.forall_mem_cons.mp hmembers
      obtain ⟨_, _, s₁, hfirst, hothers⟩ := writeMembers_cons_ok h
      have hgrows : Unpacks s.files dest [name]
          ((writeMember archive dest name member).outcome.run s).2.files :=
        unpacks_writeMember (List.mem_singleton_self name) member s (.refl s.files)
      rw [hfirst] at hgrows
      rw [get?_writeMembers hne (hdest.of_grows hgrows) hrest hothers, contents?, Option.or_assoc,
        get?_writeMember hdest hname hfirst hne]

/-- An archive that was unpacked has put its contents below the destination, and nothing else. -/
theorem get?_extract {members : List (String × Member)}
    (hdest : IsDestination s.files dest root) (hread : s.files.read archive = .ok (.archive members))
    (hmembers : ∀ name ∈ members.map Prod.fst, ".." ∉ (⟨name⟩ : Path).components)
    (h : (extract archive dest).outcome.run s = (.ok n, s')) (hne : below ≠ []) :
    s'.files.get? (root ++ below) =
      (contents? (distinct members) below).or (s.files.get? (root ++ below)) := by
  obtain ⟨members', s₁, s₂, hread', hsame, hwrite, hfiles⟩ := extract_ok h
  cases hread.symm.trans hread'
  have hnames : ∀ m ∈ distinct members, ".." ∉ (⟨m.1⟩ : Path).components := fun m hm =>
    hmembers m.1 ((mem_names_distinct m.1 members).mp (List.mem_map_of_mem hm))
  rw [hfiles, ← hsame]
  exact get?_writeMembers hne (hsame.symm ▸ hdest) hnames hwrite

end unpacking

end Archive

end RequiredVersion
