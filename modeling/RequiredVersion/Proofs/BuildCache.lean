import Mathlib.Data.List.Induction
import RequiredVersion.Proofs.Building

/-! # What a build leaves in the cache

Every file of a release comes up in a build, and what was given for it is recorded
(`Index.Recorded`); a file that cannot be parsed leaves no trace, and what it left in the cache at an
earlier time stays there.  In the end the entries of paths that have not come up are dropped, so that
all of these go.

So a build that starts with a cache just opened leaves exactly the entries of the files that can be
parsed (`Index.entries_build`). -/

namespace RequiredVersion.Index

variable {x : ByteArray → Except ParseFailure SymbolTable} {files : List (Path × ByteArray)}
  {c₀ c c' : Cache SymbolTable}

/-! ### What is recorded -/

/-- What was given for files is recorded, and no path has come up but theirs. -/
structure Recorded (x : ByteArray → Except ParseFailure SymbolTable) (c₀ : Cache SymbolTable)
    (files : List (Path × ByteArray)) (c : Cache SymbolTable) : Prop where
  entry : ∀ f ∈ files, ∀ table, c₀.given x f.1 f.2 = .ok table →
    c.entries.get? f.1.text = some ⟨fingerprint f.2, table⟩ ∧ c.touched.contains f.1.text = true
  touched : ∀ k, c.touched.contains k = true → c₀.touched.contains k = true ∨
    ∃ f ∈ files, f.1.text = k ∧ ∃ table, c₀.given x f.1 f.2 = .ok table

namespace Recorded

variable {file : Path × ByteArray} {table : SymbolTable}

theorem insert (h : Recorded x c₀ files c) (hgiven : c₀.given x file.1 file.2 = .ok table)
    (hone : ∀ f ∈ files, f.1 = file.1 → f.2 = file.2) :
    Recorded x c₀ (files ++ [file]) (c.insert file.1 file.2 table) := by
  have htouched : ∀ k, (c.insert file.1 file.2 table).touched.contains k = true ↔
      k = file.1.text ∨ c.touched.contains k = true := by
    intro k
    change (c.touched.insert file.1.raw.key ()).contains k = true ↔ _
    rw [Path.key_raw]
    by_cases hk : k = file.1.text
    · subst hk
      simp [SortedMap.contains]
    · simp [SortedMap.contains, SortedMap.get?_insert_of_ne _ _ hk, hk]
  have hself : (c.insert file.1 file.2 table).entries.get? file.1.text =
      some ⟨fingerprint file.2, table⟩ := by
    rw [← Path.key_raw]
    exact SortedMap.get?_insert_self _ _ _
  refine ⟨fun f hf table' hf' => ?_, fun k hk => ?_⟩
  · by_cases hfile : f.1 = file.1
    · have hcontent : f.2 = file.2 := by
        rcases List.mem_append.mp hf with hf | hf
        · exact hone f hf hfile
        · rw [List.mem_singleton.mp hf]
      rw [hfile, hcontent, hgiven] at hf'
      cases hf'
      rw [hfile, hcontent]
      exact ⟨hself, (htouched _).mpr (.inl rfl)⟩
    · have hf : f ∈ files := (List.mem_append.mp hf).resolve_right (fun hf =>
        hfile (by rw [List.mem_singleton.mp hf]))
      obtain ⟨hentry, hcame⟩ := h.entry f hf table' hf'
      refine ⟨?_, (htouched _).mpr (.inr hcame)⟩
      rw [← Path.key_raw] at hentry ⊢
      exact (SortedMap.get?_insert_of_ne _ _ (fun e => hfile (Path.raw_key_inj e))).trans hentry
  · rcases (htouched k).mp hk with rfl | hk
    · exact .inr ⟨file, List.mem_append_right _ List.mem_cons_self, rfl, table, hgiven⟩
    · refine (h.touched k hk).imp id ?_
      rintro ⟨f, hf, hrest⟩
      exact ⟨f, List.mem_append_left _ hf, hrest⟩

theorem skip (h : Recorded x c₀ files c) {e : ParseFailure}
    (hgiven : c₀.given x file.1 file.2 = .error e) : Recorded x c₀ (files ++ [file]) c := by
  refine ⟨fun f hf table hf' => ?_, fun k hk => ?_⟩
  · rcases List.mem_append.mp hf with hf | hf
    · exact h.entry f hf table hf'
    · rw [List.mem_singleton.mp hf, hgiven] at hf'
      cases hf'
  · refine (h.touched k hk).imp id ?_
    rintro ⟨f, hf, hrest⟩
    exact ⟨f, List.mem_append_left _ hf, hrest⟩

/-- When the other entries have been dropped, what was given is left and nothing else. -/
theorem get?_prune (h : Recorded x c₀ files c) (hopened : c₀.touched = .empty) {k : String}
    {e : CacheEntry SymbolTable} :
    c.prune.entries.get? k = some e ↔ ∃ f ∈ files, f.1.text = k ∧
      ∃ table, c₀.given x f.1 f.2 = .ok table ∧ e = ⟨fingerprint f.2, table⟩ := by
  have hprune : c.prune.entries.get? k =
      (c.entries.get? k).filter (fun _ => c.touched.contains k) := SortedMap.get?_filter _ _ _
  rw [hprune, Option.filter_eq_some_iff]
  constructor
  · rintro ⟨hentry, hcame⟩
    rcases h.touched k hcame with hold | ⟨f, hf, rfl, table, hgiven⟩
    · rw [hopened] at hold
      cases hold
    · rw [(h.entry f hf table hgiven).1] at hentry
      exact ⟨f, hf, rfl, table, hgiven, (Option.some.inj hentry).symm⟩
  · rintro ⟨f, hf, rfl, table, hgiven, rfl⟩
    exact h.entry f hf table hgiven

theorem lookup_eq (h : Recorded x c₀ files c) (hone : OneContent files)
    (hopened : c₀.touched = .empty) (hentries : c'.entries = c.prune.entries)
    (henabled : c'.enabled = true) {f : Path × ByteArray} (hf : f ∈ files) :
    c'.lookup f.1 f.2 = (c₀.given x f.1 f.2).toOption := by
  rw [Cache.lookup, if_pos henabled, hentries, Path.key_raw]
  cases hgiven : c₀.given x f.1 f.2 with
  | ok table =>
      rw [(h.get?_prune hopened).mpr ⟨f, hf, rfl, table, hgiven, rfl⟩]
      exact if_pos rfl
  | error e =>
      have hnone : c.prune.entries.get? f.1.text = none := by
        rw [Option.eq_none_iff_forall_ne_some]
        intro entry hentry
        obtain ⟨g, hg, htext, table, htable, _⟩ := (h.get?_prune hopened).mp hentry
        have hpath : g.1 = f.1 := congrArg Path.mk htext
        rw [hpath, hone g hg f hf hpath, hgiven] at htable
        cases htable
      rw [hnone]
      rfl

end Recorded

theorem given_foldl_addFile {g : Path × ByteArray} :
    ∀ {files : List (Path × ByteArray)} (p : Progress), (∀ f ∈ files, g.1 = f.1 → g.2 = f.2) →
      (files.foldl (addFile x) p).cache.given x g.1 g.2 = p.cache.given x g.1 g.2
  | [], _, _ => rfl
  | file :: rest, p, h => by
      obtain ⟨hfile, hrest⟩ := List.forall_mem_cons.mp h
      rw [List.foldl_cons, given_foldl_addFile _ hrest, given_addFile hfile]

theorem recorded_foldl_addFile (p : Progress) (h : OneContent files) :
    Recorded x p.cache files (files.foldl (addFile x) p).cache := by
  induction files using List.reverseRecOn with
  | nil => exact ⟨fun f hf => absurd hf List.not_mem_nil, fun k hk => .inl hk⟩
  | append_singleton files file ih =>
      have hfile : file ∈ files ++ [file] := List.mem_append_right _ List.mem_cons_self
      have hrecorded := ih (fun f hf g hg =>
        h f (List.mem_append_left _ hf) g (List.mem_append_left _ hg))
      have hgiven : (files.foldl (addFile x) p).cache.given x file.1 file.2 =
          p.cache.given x file.1 file.2 :=
        given_foldl_addFile p (fun f hf => h file hfile f (List.mem_append_left _ hf))
      rw [List.foldl_append, List.foldl_cons, List.foldl_nil, addFile, hgiven]
      cases hcase : p.cache.given x file.1 file.2 with
      | ok table => exact hrecorded.insert hcase (fun f hf => h f (List.mem_append_left _ hf) file hfile)
      | error e => exact hrecorded.skip hcase

/-! ### The entries after a build -/

/-- **A build leaves the entries of the files that can be parsed.**  Let the files of a release be
readable, and let the cache have been opened just now, with lookups on or off, and have nothing but what
is extracted for the contents that the files have.  Then the cache that a build leaves, whatever comes of
the build, has an entry for the path of every file that can be parsed, with the fingerprint of its
content and the declarations in it, and no other entries: those of files that are gone or that can no
longer be parsed have been dropped. -/
theorem entries_build (grammar : Grammar) (probe : Probe) (root : Path) (c : Cache SymbolTable)
    (s : Session) (files : List Path) (hlisted : s.files.phpFiles root [] = .ok files)
    (hread : ∀ file ∈ files, ∃ content, s.files.readBytes file = .ok content)
    (hopened : c.touched = .empty) (hc : CacheAgrees grammar probe s.files root c) (k : String)
    (e : CacheEntry SymbolTable) :
    ((build grammar probe root c).run s).1.1.entries.get? k = some e ↔
      ∃ file ∈ files, file.text = k ∧ ∃ content table, s.files.readBytes file = .ok content ∧
        declared grammar probe content = .ok table ∧ e = ⟨fingerprint content, table⟩ := by
  obtain ⟨sources, rfl, hsources⟩ := exists_sources hlisted hread
  have hrecorded := recorded_foldl_addFile (x := declared grammar probe) ⟨c, .empty, 0⟩ hsources.oneContent
  rw [run_build grammar probe c hsources, merged, hrecorded.get?_prune hopened]
  constructor
  · rintro ⟨f, hf, htext, table, hgiven, he⟩
    rw [hc.given_eq hsources hf] at hgiven
    exact ⟨f.1, List.mem_map_of_mem hf, htext, f.2, table, hsources.read f hf, hgiven, he⟩
  · rintro ⟨file, hfile, htext, content, table, hcontent, htable, he⟩
    obtain ⟨f, hf, rfl⟩ := List.mem_map.mp hfile
    obtain rfl : f.2 = content := Except.ok.inj ((hsources.read f hf).symm.trans hcontent)
    exact ⟨f, hf, htext, table, by rw [hc.given_eq hsources hf, htable], he⟩

/-- The cache has the entry of a file that is as it was, of one that can no longer be parsed, and of one
that is gone; a new file has none.  A build leaves the entries of the first and of the new file. -/
theorem entries_build_stale :
    let text := "/** @since 5.0 */ function f()"
    let grammar : Grammar := fun t => if t = text then .ok Declaration.annotatedFunction else .error ⟨""⟩
    let probe := Probe.fixed (.ofNames [] [] [])
    let table := (Declaration.collect probe.inventory.confirms text.toList Declaration.annotatedFunction).symbols
    let entry : CacheEntry SymbolTable := ⟨fingerprint text.toUTF8, table⟩
    let fs := (((FileSystem.empty.put ["r"] .directory).put ["r", "a.php"] (.file (.bytes text.toUTF8))).put
      ["r", "b.php"] (.file (.bytes "(".toUTF8))).put ["r", "n.php"] (.file (.bytes text.toUTF8))
    let files : List Path := [⟨"r/a.php"⟩, ⟨"r/b.php"⟩, ⟨"r/n.php"⟩]
    let c : Cache SymbolTable := ⟨none, .ofList [("r/a.php", entry), ("r/b.php", entry), ("r/z.php", entry)],
      true, .empty⟩
    let left := ((build grammar probe ⟨"r"⟩ c).run (.start fs)).1.1.entries
    fs.phpFiles ⟨"r"⟩ [] = .ok files ∧ (∀ file ∈ files, ∃ content, fs.readBytes file = .ok content) ∧
      CacheAgrees grammar probe fs ⟨"r"⟩ c ∧ left.get? "r/a.php" = some entry ∧
      left.get? "r/n.php" = some entry ∧ ∀ e, left.get? "r/b.php" ≠ some e ∧ left.get? "r/z.php" ≠ some e := by
  intro text grammar probe table entry fs files c left
  have hlisted : fs.phpFiles ⟨"r"⟩ [] = .ok files := by decide +kernel
  have ha : fs.readBytes ⟨"r/a.php"⟩ = .ok text.toUTF8 := by decide +kernel
  have hb : fs.readBytes ⟨"r/b.php"⟩ = .ok "(".toUTF8 := by decide +kernel
  have hn : fs.readBytes ⟨"r/n.php"⟩ = .ok text.toUTF8 := by decide +kernel
  have hread : ∀ file ∈ files, ∃ content, fs.readBytes file = .ok content := by
    intro file hfile
    simp only [files, List.mem_cons, List.not_mem_nil, or_false] at hfile
    rcases hfile with rfl | rfl | rfl
    · exact ⟨_, ha⟩
    · exact ⟨_, hb⟩
    · exact ⟨_, hn⟩
  have htable : declared grammar probe text.toUTF8 = .ok table := by decide +kernel
  have hbroken : (declared grammar probe "(".toUTF8).isOk = false := by decide +kernel
  have hchanged : fingerprint text.toUTF8 ≠ fingerprint "(".toUTF8 := by decide +kernel
  have hcached : c.entries.get? "r/a.php" = some entry ∧ c.entries.get? "r/b.php" = some entry ∧
      c.entries.get? "r/n.php" = none := by decide +kernel
  have hc : CacheAgrees grammar probe fs ⟨"r"⟩ c := by
    intro listed hlisted' file hfile content hcontent table' hlookup
    rw [hlisted] at hlisted'
    cases hlisted'
    have hentry := (Cache.entry_of_lookup hlookup).2
    simp only [files, List.mem_cons, List.not_mem_nil, or_false] at hfile
    rcases hfile with rfl | rfl | rfl
    · have hsame := CacheEntry.mk.inj (Option.some.inj (hcached.1.symm.trans hentry))
      rw [← Except.ok.inj (ha.symm.trans hcontent), ← hsame.2, htable]
    · rw [← Except.ok.inj (hb.symm.trans hcontent)] at hentry
      exact absurd (CacheEntry.mk.inj (Option.some.inj (hcached.2.1.symm.trans hentry))).1 hchanged
    · cases hcached.2.2.symm.trans hentry
  have hleft : ∀ k e, left.get? k = some e ↔ ∃ file ∈ files, file.text = k ∧ ∃ content table,
      fs.readBytes file = .ok content ∧ declared grammar probe content = .ok table ∧
        e = ⟨fingerprint content, table⟩ :=
    entries_build grammar probe ⟨"r"⟩ c (.start fs) files hlisted hread rfl hc
  have hkept : ∀ file ∈ files, fs.readBytes file = .ok text.toUTF8 → left.get? file.text = some entry :=
    fun file hfile htext => (hleft _ _).mpr ⟨file, hfile, rfl, text.toUTF8, table, htext, htable, rfl⟩
  have hdropped : ∀ e, left.get? "r/b.php" ≠ some e := by
    intro e h
    obtain ⟨file, _, htext, content, table', hcontent, htable', _⟩ := (hleft _ _).mp h
    obtain rfl : file = ⟨"r/b.php"⟩ := congrArg Path.mk htext
    rw [Except.ok.inj (hb.symm.trans hcontent), htable'] at hbroken
    cases hbroken
  have hgone : ∀ e, left.get? "r/z.php" ≠ some e := by
    intro e h
    obtain ⟨file, hfile, htext, _⟩ := (hleft _ _).mp h
    obtain rfl : file = ⟨"r/z.php"⟩ := congrArg Path.mk htext
    exact absurd hfile (by decide)
  exact ⟨hlisted, hread, hc, hkept ⟨"r/a.php"⟩ (by simp [files]) ha,
    hkept ⟨"r/n.php"⟩ (by simp [files]) hn, fun e => ⟨hdropped e, hgone e⟩⟩

end RequiredVersion.Index
