import RequiredVersion.Proofs.BuildCache
import RequiredVersion.Proofs.IndexDocument

/-! # Building with the cache of an earlier build

A build leaves in the cache what was given for each file, and nothing for the files that could not be
parsed (`Index.Recorded`).  Saved and loaded again, the cache gives the same for every file of the
release, whatever the probe of the later build confirms: an entry counts by path and content alone.
So a later build of the same release comes to the index of the earlier one
(`Index.build_after_reload`), and not to the one that its own probe would lead to. -/

namespace RequiredVersion.Index

variable {x : ByteArray → Except ParseFailure SymbolTable} {files : List (Path × ByteArray)}
  {c₀ c c' : Cache SymbolTable}

/-! ### The later build -/

section later
variable {grammar : Grammar} {earlier later : Probe} {root : Path}

theorem declared_error {content : ByteArray} {e : ParseFailure}
    (h : declared grammar earlier content = .error e) : declared grammar later content = .error e := by
  unfold declared at h ⊢
  cases hparse : grammar (Text.lossyText content) with
  | error e' =>
      rw [hparse] at h
      cases h
      rfl
  | ok root =>
      rw [hparse] at h
      cases h

/-- The tables that are given are those that were given before. -/
theorem given_later (hlookup : ∀ f ∈ files, c'.lookup f.1 f.2 =
      (c₀.given (declared grammar earlier) f.1 f.2).toOption) {f : Path × ByteArray} (hf : f ∈ files) :
    c'.given (declared grammar later) f.1 f.2 = c₀.given (declared grammar earlier) f.1 f.2 := by
  rw [Cache.given, hlookup f hf]
  cases hgiven : c₀.given (declared grammar earlier) f.1 f.2 with
  | ok table => rfl
  | error e =>
      unfold Cache.given at hgiven
      split at hgiven
      · cases hgiven
      · exact declared_error hgiven

theorem symbols_merged_later (hone : OneContent files) (hlookup : ∀ f ∈ files, c'.lookup f.1 f.2 =
      (c₀.given (declared grammar earlier) f.1 f.2).toOption) :
    (merged grammar later c' files).symbols = (merged grammar earlier c₀ files).symbols := by
  rw [merged, merged, symbols_foldl_addFile _ hone, symbols_foldl_addFile _ hone]
  congr 1
  refine List.filterMap_congr (fun f hf => ?_)
  rw [given_later hlookup hf]

end later

/-- The release in a directory is the same in two file systems: its files, what they hold, and the
version that it says it is. -/
structure SameRelease (root : Path) (fs fs' : FileSystem) : Prop where
  listed : fs'.phpFiles root [] = fs.phpFiles root []
  read : ∀ files, fs.phpFiles root [] = .ok files → ∀ file ∈ files,
    fs'.readBytes file = fs.readBytes file
  version : releaseVersion fs' root = releaseVersion fs root

theorem SameRelease.sources {root : Path} {fs fs' : FileSystem} (h : SameRelease root fs fs')
    (hfiles : Sources fs root files) : Sources fs' root files := by
  refine ⟨h.listed.trans hfiles.listed, fun f hf => ?_⟩
  rw [h.read _ hfiles.listed f.1 (List.mem_map_of_mem hf), hfiles.read f hf]

/-- The cache that a build leaves is loaded once it has been saved. -/
theorem load_built {grammar : Grammar} {probe : Probe} {root path : Path} {i : Index}
    {s₁ s₂ s₃ : Session} (hpath : c₀.path = some path) (hread : CacheIsRead c₀)
    (hbuild : (build grammar probe root c₀).run s₁ = ((c, .ok i), s₂))
    (hsave : (c.save .symbols).outcome.run s₂ = (.ok (), s₃)) :
    ∃ s₄, (Cache.load .symbols path).outcome.run s₃ =
      (.ok ⟨some path, c.entries, true, .empty⟩, s₄) := by
  obtain ⟨_, hc, _, hisRead⟩ := build_ok hbuild
  exact Cache.load_save (hc.trans hpath) hsave (fun k e he =>
    SymbolTable.roundTrips ((hisRead hread).1 k e he))

/-- **A later build comes to the index of the earlier one.**  An index is built with one probe, the
cache of the build is saved and loaded, and with it an index of the same release is built with another
probe: this is the index of the first build again, whatever the other probe confirms.  It is the index
that the other probe leads to from an empty cache if the first build started with an empty cache and
both probes find the same declarations in each file. -/
theorem build_after_reload (grammar : Grammar) (earlier later : Probe) (root path : Path)
    (c₀ c₁ c₂ : Cache SymbolTable) (i : Index) (s₁ s₂ s₃ s₄ s₅ : Session)
    (hpath : c₀.path = some path) (hopened : c₀.touched = .empty) (hread : CacheIsRead c₀)
    (hbuild : (build grammar earlier root c₀).run s₁ = ((c₁, .ok i), s₂))
    (hsave : (c₁.save .symbols).outcome.run s₂ = (.ok (), s₃))
    (hload : (Cache.load .symbols path).outcome.run s₃ = (.ok c₂, s₄))
    (hsame : SameRelease root s₁.files s₅.files) :
    ((build grammar later root c₂).run s₅).1.2 = .ok i ∧
      (c₀.entries = .empty →
        (∀ files, s₁.files.phpFiles root [] = .ok files → ∀ file ∈ files,
          tableIn? grammar later s₁.files file = tableIn? grammar earlier s₁.files file) →
        ((build grammar later root c₂).run s₅).1.2 =
          ((build grammar later root .inMemory).run s₅).1.2) := by
  obtain ⟨files, hfiles⟩ := sources_of_build (show ((build grammar earlier root c₀).run s₁).1.2 = .ok i
    by rw [hbuild])
  have hone := hfiles.oneContent
  -- the cache that the earlier build leaves, and what is loaded of it
  have hrun := run_build grammar earlier c₀ hfiles
  rw [hbuild] at hrun
  have hc₁ : c₁ = (merged grammar earlier c₀ files).cache.prune := congrArg Prod.fst hrun
  have hi : Except.ok i = _ := congrArg Prod.snd hrun
  obtain ⟨_, hloaded⟩ := load_built hpath hread hbuild hsave
  have hc₂ : c₂ = ⟨some path, c₁.entries, true, .empty⟩ :=
    Except.ok.inj (congrArg Prod.fst (hload.symm.trans hloaded))
  have hlookup : ∀ f ∈ files, c₂.lookup f.1 f.2 =
      (c₀.given (declared grammar earlier) f.1 f.2).toOption := fun f hf =>
    (recorded_foldl_addFile ⟨c₀, .empty, 0⟩ hone).lookup_eq hone hopened
      (by rw [hc₂, hc₁]; rfl) (by rw [hc₂]) hf
  have hlater : ((build grammar later root c₂).run s₅).1.2 = .ok i := by
    rw [run_build grammar later c₂ (hsame.sources hfiles), hsame.version, hi,
      symbols_merged_later hone hlookup]
  refine ⟨hlater, fun hempty htables => ?_⟩
  have hsymbols : (merged grammar later .inMemory files).symbols =
      (merged grammar earlier c₀ files).symbols := by
    rw [symbols_merged (cacheAgrees_of_empty rfl) hfiles,
      symbols_merged (cacheAgrees_of_empty hempty) hfiles]
    congr 1
    exact List.filterMap_congr (htables _ hfiles.listed)
  rw [hlater, run_build grammar later .inMemory (hsame.sources hfiles), hsame.version, hi, hsymbols]

/-- A function behind its doc comment, in a guard. -/
def guardedFunction : Node :=
  ⟨"program", true, "", 0, 59, [⟨"if_statement", true, "", 0, 59,
    [⟨"parenthesized_expression", true, "condition", 2, 25,
        [⟨"unary_op_expression", true, "", 3, 24, [⟨"function_call_expression", true, "", 4, 24,
          [⟨"name", true, "function", 4, 19, []⟩, ⟨"arguments", true, "arguments", 19, 24,
            [⟨"argument", true, "", 20, 23, [⟨"string", true, "", 20, 23, []⟩]⟩]⟩]⟩]⟩]⟩,
      ⟨"compound_statement", true, "body", 25, 59,
        [⟨"comment", true, "", 26, 43, []⟩,
          ⟨"function_definition", true, "", 44, 58, [⟨"name", true, "name", 53, 54, []⟩]⟩]⟩]⟩]⟩

/-- The earlier runtime has the function that a file stands in for, the later one has not.  Still the
later build leaves the function out, which it would not do with an empty cache. -/
theorem build_after_reload_other_runtime :
    let text := "if(!function_exists('f')){/** @since 5.0 */ function f(){}}"
    let grammar : Grammar := fun t => if t = text then .ok guardedFunction else .error ⟨""⟩
    let earlier := Probe.fixed (.ofNames ["f"] [] [])
    let later := Probe.fixed .empty
    let fs := ((((FileSystem.empty.put ["r"] .directory).put ["r", "a.php"]
      (.file (.bytes text.toUTF8))).put ["r", "wp-includes"] .directory).put
        ["r", "wp-includes", "version.php"] (.file (.bytes "$wp_version = '6.7';".toUTF8)))
    let c₀ : Cache SymbolTable := ⟨some ⟨"cache.json"⟩, .empty, true, .empty⟩
    ∃ c₁ c₂ i s₂ s₃ s₄,
      (build grammar earlier ⟨"r"⟩ c₀).run (.start fs) = ((c₁, .ok i), s₂) ∧
      (c₁.save .symbols).outcome.run s₂ = (.ok (), s₃) ∧
      (Cache.load .symbols ⟨"cache.json"⟩).outcome.run s₃ = (.ok c₂, s₄) ∧
      SameRelease ⟨"r"⟩ fs s₃.files ∧
      ((build grammar later ⟨"r"⟩ c₂).run s₃).1.2 = .ok i ∧ i.get? (.function "f") = none ∧
      ∃ j, ((build grammar later ⟨"r"⟩ .inMemory).run s₃).1.2 = .ok j ∧
        j.get? (.function "f") = some ⟨⟨[5, 0], none⟩, none⟩ := by
  intro text grammar earlier later fs c₀
  let files : List Path := [⟨"r/a.php"⟩, ⟨"r/wp-includes/version.php"⟩]
  let first := (build grammar earlier ⟨"r"⟩ c₀).run (.start fs)
  let saved := (first.1.1.save .symbols).outcome.run first.2
  have hlisted : fs.phpFiles ⟨"r"⟩ [] = .ok files := by decide +kernel
  have hruns : first.1.2 = .ok ⟨some ⟨[6, 7], none⟩, .empty⟩ ∧ saved.1 = .ok () ∧
      saved.2.files.phpFiles ⟨"r"⟩ [] = fs.phpFiles ⟨"r"⟩ [] ∧
      (∀ file ∈ files, saved.2.files.readBytes file = fs.readBytes file) ∧
      releaseVersion saved.2.files ⟨"r"⟩ = releaseVersion fs ⟨"r"⟩ ∧
      ((build grammar later ⟨"r"⟩ .inMemory).run saved.2).1.2 = .ok ⟨some ⟨[6, 7], none⟩,
        SymbolTable.empty.insert (.function "f") ⟨⟨[5, 0], none⟩, none⟩⟩ := by
    decide +kernel
  obtain ⟨hfirst, hsaved, hfiles, hread, hversion, hfresh⟩ := hruns
  have hbuild : first = ((first.1.1, .ok _), first.2) := Prod.ext (Prod.ext rfl hfirst) rfl
  have hsave : saved = (.ok (), saved.2) := Prod.ext hsaved rfl
  have hempty : CacheIsRead c₀ := SortedMap.ForAll.empty
  obtain ⟨s₄, hload⟩ := load_built rfl hempty hbuild hsave
  have hsame : SameRelease ⟨"r"⟩ fs saved.2.files := by
    refine ⟨hfiles, fun files' hfiles' => ?_, hversion⟩
    rw [hlisted] at hfiles'
    cases hfiles'
    exact hread
  have hlater := (build_after_reload grammar earlier later ⟨"r"⟩ ⟨"cache.json"⟩ c₀ _ _ _ _ _ _ _ _
    rfl rfl hempty hbuild hsave hload hsame).1
  exact ⟨first.1.1, _, _, first.2, saved.2, s₄, hbuild, hsave, hload, hsame, hlater,
    SymbolTable.get?_empty _, _, hfresh, rfl⟩

end RequiredVersion.Index
