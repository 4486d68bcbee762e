import Mathlib.Data.List.Basic
import RequiredVersion.Index.Build
import RequiredVersion.Proofs.CacheHistory
import RequiredVersion.Proofs.TableVersions

/-! # What a build gives

A build leaves the files alone, so it is told by what it gives for given files (`Index.gives_build`).
Every file is asked of the cache, which has its declarations or has them extracted
(`Cache.given`), and what is given is recorded.  Recording changes nothing of what is given for the
files that follow (`Index.given_addFile`), so the tables that are merged can be read off the cache
that the build starts with (`Index.symbols_foldl_addFile`).

If the cache has nothing but what would be extracted, the last file that declares a symbol counts
(`Index.get?_build`). -/

namespace RequiredVersion

/-! ### What a cache gives -/

namespace Cache

variable {α ε : Type} {c : Cache α} {x : ByteArray → Except ε α} {file : RawPath}
  {content : ByteArray} {data : α}

/-- What comes of asking for the data of a file: those that the cache has, or else what is
extracted. -/
def given (c : Cache α) (x : ByteArray → Except ε α) (file : RawPath) (content : ByteArray) :
    Except ε α :=
  match c.lookup file content with
  | some data => .ok data
  | none => x content

theorem insert_of_lookup (h : c.lookup file content = some data) :
    c.insert file content data = c.touch file := by
  have hentries : c.entries.insert file.key ⟨fingerprint content, data⟩ = c.entries := by
    apply SortedMap.ext_get?
    intro k
    by_cases hk : k = file.key
    · rw [hk, SortedMap.get?_insert_self, (entry_of_lookup h).2]
    · rw [SortedMap.get?_insert_of_ne _ _ hk]
  rw [insert, hentries]
  rfl

/-- An extraction comes to what the cache gives, which is then recorded. -/
theorem gives_getOrExtract {fs : FileSystem} {extract : Action (Except ε α)}
    (hextract : extract.Gives fs (x content)) :
    (c.getOrExtract file content extract).Gives fs
      (c.keep file content (c.given x file content), c.given x file content) := by
  unfold getOrExtract given
  cases hlookup : c.lookup file content with
  | some data =>
      rw [keep, insert_of_lookup hlookup]
      exact .bind (.note _ _ _) (.pure _)
  | none =>
      refine .bind (.note _ _ _) (.bind hextract ?_)
      cases x content with
      | ok data => exact .pure _
      | error e => exact .pure _

theorem lookup_insert_of_ne {other : RawPath} (h : other.key ≠ file.key) (content' : ByteArray) :
    (c.insert file content data).lookup other content' = c.lookup other content' := by
  unfold lookup insert touch
  rw [SortedMap.get?_insert_of_ne _ _ h]

/-- What was given once is given again, and for paths with other keys nothing changes. -/
theorem given_insert (h : c.given x file content = .ok data) {other : RawPath} {content' : ByteArray}
    (hsame : other.key = file.key → content' = content) :
    (c.insert file content data).given x other content' = c.given x other content' := by
  by_cases hother : other.key = file.key
  · obtain rfl := hsame hother
    have hlookup : c.lookup other content' = c.lookup file content' := by
      rw [lookup, lookup, hother]
    cases henabled : c.enabled with
    | false =>
        -- nothing is looked up
        unfold given lookup insert touch
        rw [henabled]
        rfl
    | true =>
        have hgiven : c.given x other content' = c.given x file content' := by
          rw [given, given, hlookup]
        rw [hgiven, h]
        unfold given lookup insert touch
        rw [henabled, if_pos rfl, hother, SortedMap.get?_insert_self]
        dsimp only
        rw [if_pos rfl]
  · rw [given, lookup_insert_of_ne hother, given]

end Cache

namespace Index

variable {grammar : Grammar} {probe : Probe} {fs : FileSystem}

/-! ### What a file declares -/

/-- What is extracted from a content: the declarations in it, if it can be parsed. -/
def declared (grammar : Grammar) (probe : Probe) (content : ByteArray) :
    Except ParseFailure SymbolTable :=
  (grammar (Text.lossyText content)).map (fun root =>
    (Declaration.collect probe.inventory.confirms (Text.lossyText content).toList root).symbols)

theorem gives_ask (probe : Probe) : probe.ask.Gives fs () := by
  intro s hs
  have hrun : probe.ask.run s = if s.probed then ((), s) else
      ((), { s with log := s.log ++ probe.detection, probed := true }) := by
    cases s with
    | mk files log queries downloads parses probed => cases probed <;> rfl
  rw [hrun]
  split
  · exact ⟨rfl, hs⟩
  · exact ⟨rfl, hs⟩

theorem gives_logNotes (probe : Probe) : ∀ notes, (logNotes probe notes).Gives fs ()
  | [] => .pure ()
  | .asked :: rest => .bind (gives_ask probe) (gives_logNotes probe rest)
  | .passedOver _ :: rest => .bind (.note _ _ _) (gives_logNotes probe rest)

theorem gives_extract (grammar : Grammar) (probe : Probe) (content : ByteArray) :
    (extract grammar probe (Text.lossyText content)).Gives fs (declared grammar probe content) := by
  unfold extract declared
  refine .bind (.modify (fun _ => rfl)) ?_
  cases grammar (Text.lossyText content) with
  | error e => exact .pure _
  | ok root => exact .bind (gives_logNotes probe _) (.bind (.note _ _ _) (.pure _))

/-! ### Files one after the other -/

/-- What has been done when a file with the given content has been added. -/
def addFile (x : ByteArray → Except ParseFailure SymbolTable) (p : Progress)
    (file : Path × ByteArray) : Progress :=
  match p.cache.given x file.1 file.2 with
  | .ok table =>
    { p with cache := p.cache.insert file.1 file.2 table, symbols := p.symbols.merge table }
  | .error _ => { p with skipped := p.skipped + 1 }

theorem gives_addFiles : ∀ {files : List (Path × ByteArray)} (p : Progress),
    (∀ file ∈ files, fs.readBytes file.1 = .ok file.2) →
      (addFiles grammar probe (files.map Prod.fst) p).Gives fs
        (files.foldl (addFile (declared grammar probe)) p, none)
  | [], p, _ => .pure _
  | file :: rest, p, h => by
      obtain ⟨hfile, hrest⟩ := List.forall_mem_cons.mp h
      rw [List.map_cons, List.foldl_cons, addFile]
      unfold addFiles
      refine .bind .files ?_
      rw [hfile]
      refine .bind (Cache.gives_getOrExtract (gives_extract grammar probe file.2)) ?_
      cases p.cache.given (declared grammar probe) file.1 file.2 with
      | ok table => exact gives_addFiles _ hrest
      | error e => exact .bind (.note _ _ _) (gives_addFiles _ hrest)

theorem gives_addFiles_error (grammar : Grammar) (probe : Probe) : ∀ {files : List Path}
    (p : Progress), (∃ file ∈ files, ∀ content, fs.readBytes file ≠ .ok content) →
      ∃ p' e, (addFiles grammar probe files p).Gives fs (p', some e)
  | [], _, ⟨_, hfile, _⟩ => absurd hfile List.not_mem_nil
  | file :: rest, p, ⟨bad, hbad, hnone⟩ => by
      unfold addFiles
      cases hread : fs.readBytes file with
      | error cause =>
          refine ⟨p, .io file cause, .bind .files ?_⟩
          rw [hread]
          exact .pure _
      | ok content =>
          have hrest : bad ∈ rest := by
            rcases List.mem_cons.mp hbad with rfl | hrest
            · exact absurd hread (hnone content)
            · exact hrest
          have hextract : (p.cache.getOrExtract file content
              (extract grammar probe (Text.lossyText content))).Gives fs _ :=
            Cache.gives_getOrExtract (gives_extract grammar probe content)
          cases hgiven : p.cache.given (declared grammar probe) file content with
          | ok table =>
              obtain ⟨p', e, h⟩ := gives_addFiles_error grammar probe { p with
                cache := p.cache.insert file content table, symbols := p.symbols.merge table }
                ⟨bad, hrest, hnone⟩
              refine ⟨p', e, .bind .files ?_⟩
              rw [hread]
              rw [hgiven] at hextract
              exact .bind hextract h
          | error failure =>
              obtain ⟨p', e, h⟩ := gives_addFiles_error grammar probe { p with skipped := p.skipped + 1 }
                ⟨bad, hrest, hnone⟩
              refine ⟨p', e, .bind .files ?_⟩
              rw [hread]
              rw [hgiven] at hextract
              exact .bind hextract (.bind (.note _ _ _) h)

/-! ### The whole build -/

theorem gives_pruneCache (c : Cache SymbolTable) : (pruneCache c).Gives fs c.prune := by
  unfold pruneCache
  dsimp only
  split
  · exact .bind (.note _ _ _) (.pure _)
  · exact .pure _

section build
variable {root : Path} {c : Cache SymbolTable} {files : List (Path × ByteArray)}

/-- The files of a release, with what they hold. -/
structure Sources (fs : FileSystem) (root : Path) (files : List (Path × ByteArray)) : Prop where
  listed : fs.phpFiles root [] = .ok (files.map Prod.fst)
  read : ∀ file ∈ files, fs.readBytes file.1 = .ok file.2

/-- What a build has done with all files. -/
def merged (grammar : Grammar) (probe : Probe) (c : Cache SymbolTable)
    (files : List (Path × ByteArray)) : Progress :=
  files.foldl (addFile (declared grammar probe)) ⟨c, .empty, 0⟩

theorem gives_build (hfiles : Sources fs root files) :
    (build grammar probe root c).Gives fs ((merged grammar probe c files).cache.prune,
      (releaseVersion fs root).map (fun v => ⟨some v, (merged grammar probe c files).symbols⟩)) := by
  unfold build
  refine .bind (.note _ _ _) (.bind .files ?_)
  rw [hfiles.listed]
  refine .bind (gives_addFiles _ hfiles.read) (.bind (gives_pruneCache _) (.bind .files ?_))
  cases releaseVersion fs root with
  | error e => exact .pure _
  | ok v => exact .bind (.note _ _ _) (.pure _)

theorem run_build (grammar : Grammar) (probe : Probe) (c : Cache SymbolTable) {s : Session}
    (hfiles : Sources s.files root files) : ((build grammar probe root c).run s).1 =
      ((merged grammar probe c files).cache.prune, (releaseVersion s.files root).map
        (fun v => ⟨some v, (merged grammar probe c files).symbols⟩)) :=
  (gives_build hfiles s rfl).1

theorem exists_sources {paths : List Path} (hlisted : fs.phpFiles root [] = .ok paths)
    (hread : ∀ path ∈ paths, ∃ content, fs.readBytes path = .ok content) :
    ∃ files, files.map Prod.fst = paths ∧ Sources fs root files := by
  have hcontents : ∀ paths : List Path, (∀ path ∈ paths, ∃ content, fs.readBytes path = .ok content) →
      ∃ files : List (Path × ByteArray), files.map Prod.fst = paths ∧
        ∀ file ∈ files, fs.readBytes file.1 = .ok file.2 := by
    intro paths
    induction paths with
    | nil => exact fun _ => ⟨[], rfl, fun _ h => absurd h List.not_mem_nil⟩
    | cons path rest ih =>
        intro h
        obtain ⟨⟨content, hcontent⟩, hrest⟩ := List.forall_mem_cons.mp h
        obtain ⟨files, rfl, hfiles⟩ := ih hrest
        exact ⟨(path, content) :: files, rfl, List.forall_mem_cons.mpr ⟨hcontent, hfiles⟩⟩
  obtain ⟨files, rfl, hfiles⟩ := hcontents paths hread
  exact ⟨files, rfl, hlisted, hfiles⟩

/-- A build has files that can all be read, or it fails; the files stay in any case. -/
theorem sources_or_gives_build (grammar : Grammar) (probe : Probe) (root : Path)
    (c : Cache SymbolTable) (fs : FileSystem) : (∃ files, Sources fs root files) ∨
      ∃ c' e, (build grammar probe root c).Gives fs (c', .error e) := by
  cases hlisted : fs.phpFiles root [] with
  | error e =>
      refine .inr ⟨c, .io e.path e.cause, ?_⟩
      unfold build
      refine .bind (.note _ _ _) (.bind .files ?_)
      rw [hlisted]
      exact .pure _
  | ok paths =>
      by_cases hread : ∀ path ∈ paths, ∃ content, fs.readBytes path = .ok content
      · obtain ⟨files, _, hfiles⟩ := exists_sources hlisted hread
        exact .inl ⟨files, hfiles⟩
      · have hbad : ∃ file ∈ paths, ∀ content, fs.readBytes file ≠ .ok content := by
          simpa using hread
        obtain ⟨p, e, hadd⟩ := gives_addFiles_error grammar probe ⟨c, .empty, 0⟩ hbad
        refine .inr ⟨p.cache, e, ?_⟩
        unfold build
        refine .bind (.note _ _ _) (.bind .files ?_)
        rw [hlisted]
        exact .bind hadd (.pure _)

theorem sources_of_build {i : Index} {s : Session}
    (h : ((build grammar probe root c).run s).1.2 = .ok i) : ∃ files, Sources s.files root files := by
  rcases sources_or_gives_build grammar probe root c s.files with hfiles | ⟨c', e, hgives⟩
  · exact hfiles
  · rw [(hgives s rfl).1] at h
    cases h

theorem files_build (grammar : Grammar) (probe : Probe) (root : Path) (c : Cache SymbolTable)
    (s : Session) : ((build grammar probe root c).run s).2.files = s.files := by
  rcases sources_or_gives_build grammar probe root c s.files with ⟨files, hfiles⟩ | ⟨c', e, hgives⟩
  · exact (gives_build hfiles s rfl).2
  · exact (hgives s rfl).2

end build

/-! ### The symbols -/

section symbols
variable {x : ByteArray → Except ParseFailure SymbolTable} {files : List (Path × ByteArray)}

/-- A path comes with one content. -/
def OneContent (files : List (Path × ByteArray)) : Prop :=
  ∀ f ∈ files, ∀ g ∈ files, f.1 = g.1 → f.2 = g.2

theorem Sources.oneContent {root : Path} (h : Sources fs root files) : OneContent files := by
  intro f hf g hg heq
  have hread := h.read f hf
  rw [heq, h.read g hg] at hread
  exact (Except.ok.inj hread).symm

theorem OneContent.tail {file : Path × ByteArray} (h : OneContent (file :: files)) :
    OneContent files := fun f hf g hg =>
  h f (List.mem_cons_of_mem _ hf) g (List.mem_cons_of_mem _ hg)

theorem given_addFile {p : Progress} {file g : Path × ByteArray} (hsame : g.1 = file.1 → g.2 = file.2) :
    (addFile x p file).cache.given x g.1 g.2 = p.cache.given x g.1 g.2 := by
  unfold addFile
  cases hgiven : p.cache.given x file.1 file.2 with
  | ok table => exact Cache.given_insert hgiven (fun hkey => hsame (Path.raw_key_inj hkey))
  | error e => rfl

/-- The tables of the files are merged, as far as there are any. -/
theorem symbols_foldl_addFile : ∀ {files : List (Path × ByteArray)} (p : Progress),
    OneContent files → (files.foldl (addFile x) p).symbols =
      (files.filterMap (fun f => (p.cache.given x f.1 f.2).toOption)).foldl SymbolTable.merge p.symbols
  | [], _, _ => rfl
  | file :: rest, p, h => by
      have hrest : rest.filterMap (fun f => ((addFile x p file).cache.given x f.1 f.2).toOption) =
          rest.filterMap (fun f => (p.cache.given x f.1 f.2).toOption) := by
        refine List.filterMap_congr (fun f hf => ?_)
        rw [given_addFile (h f (List.mem_cons_of_mem _ hf) file List.mem_cons_self)]
      rw [List.foldl_cons, symbols_foldl_addFile _ h.tail, hrest, List.filterMap_cons]
      unfold addFile
      cases p.cache.given x file.1 file.2 with
      | ok table => rfl
      | error e => rfl

/-- The declarations in a file; there are none if it cannot be read or parsed. -/
def tableIn? (grammar : Grammar) (probe : Probe) (fs : FileSystem) (file : Path) :
    Option SymbolTable :=
  match fs.readBytes file with
  | .error _ => none
  | .ok content => (declared grammar probe content).toOption

/-- The lifespan that a file declares for a symbol. -/
def lifespanIn? (grammar : Grammar) (probe : Probe) (fs : FileSystem) (symbol : Symbol)
    (file : Path) : Option Lifespan :=
  (tableIn? grammar probe fs file).bind (·.get? symbol)

/-- What the cache has for the files of a release is what is extracted from them. -/
def CacheAgrees (grammar : Grammar) (probe : Probe) (fs : FileSystem) (root : Path)
    (c : Cache SymbolTable) : Prop :=
  ∀ files, fs.phpFiles root [] = .ok files → ∀ file ∈ files, ∀ content,
    fs.readBytes file = .ok content → ∀ table, c.lookup file content = some table →
      declared grammar probe content = .ok table

theorem cacheAgrees_of_empty {root : Path} {c : Cache SymbolTable} (h : c.entries = .empty) :
    CacheAgrees grammar probe fs root c := by
  intro _ _ file _ content _ table hlookup
  have hentry := (Cache.entry_of_lookup hlookup).2
  rw [h] at hentry
  cases hentry

theorem CacheAgrees.insert {root : Path} {c : Cache SymbolTable}
    (hc : CacheAgrees grammar probe fs root c) {file : Path} {content : ByteArray}
    {table : SymbolTable} (hread : fs.readBytes file = .ok content)
    (htable : declared grammar probe content = .ok table) :
    CacheAgrees grammar probe fs root (c.insert file content table) := by
  intro files hlisted other hother content' hread' table' hlookup
  by_cases hfile : other = file
  · subst hfile
    obtain rfl : content = content' := Except.ok.inj (hread.symm.trans hread')
    have hentry := (Cache.entry_of_lookup hlookup).2
    rw [Cache.insert, SortedMap.get?_insert_self] at hentry
    cases hentry
    exact htable
  · refine hc files hlisted other hother content' hread' table' ?_
    rw [← hlookup, Cache.lookup_insert_of_ne (fun hkey => hfile (Path.raw_key_inj hkey))]

theorem CacheAgrees.given_eq {root : Path} {c : Cache SymbolTable}
    (hc : CacheAgrees grammar probe fs root c) (hfiles : Sources fs root files)
    {f : Path × ByteArray} (hf : f ∈ files) :
    c.given (declared grammar probe) f.1 f.2 = declared grammar probe f.2 := by
  unfold Cache.given
  cases hlookup : c.lookup f.1 f.2 with
  | none => rfl
  | some table =>
      exact (hc _ hfiles.listed f.1 (List.mem_map_of_mem hf) f.2 (hfiles.read f hf) table hlookup).symm

theorem symbols_merged {root : Path} {c : Cache SymbolTable}
    (hc : CacheAgrees grammar probe fs root c) (hfiles : Sources fs root files) :
    (merged grammar probe c files).symbols =
      ((files.map Prod.fst).filterMap (tableIn? grammar probe fs)).foldl SymbolTable.merge .empty := by
  rw [merged, symbols_foldl_addFile _ hfiles.oneContent, List.filterMap_map]
  congr 1
  refine List.filterMap_congr (fun f hf => ?_)
  rw [hc.given_eq hfiles hf, Function.comp_apply, tableIn?, hfiles.read f hf]

end symbols

/-! ### Versions -/

/-- All tables that a cache has are of versions that are read. -/
def CacheIsRead (c : Cache SymbolTable) : Prop := c.entries.ForAll (fun e => e.data.IsRead)

theorem CacheIsRead.given {c : Cache SymbolTable} (hc : CacheIsRead c) {file : Path}
    {content : ByteArray} {table : SymbolTable}
    (h : c.given (declared grammar probe) file content = .ok table) : table.IsRead := by
  unfold Cache.given at h
  split at h
  · next data hlookup =>
      cases h
      exact hc _ _ (Cache.entry_of_lookup hlookup).2
  · unfold declared at h
    cases hparse : grammar (Text.lossyText content) with
    | error e =>
        rw [hparse] at h
        cases h
    | ok root =>
        rw [hparse] at h
        cases h
        exact Declaration.isRead_collect _ _ root

theorem isRead_foldl_addFile : ∀ {files : List (Path × ByteArray)} {p : Progress},
    CacheIsRead p.cache → p.symbols.IsRead →
      CacheIsRead (files.foldl (addFile (declared grammar probe)) p).cache ∧
        (files.foldl (addFile (declared grammar probe)) p).symbols.IsRead
  | [], _, hc, ht => ⟨hc, ht⟩
  | file :: rest, p, hc, ht => by
      rw [List.foldl_cons, addFile]
      cases hgiven : p.cache.given (declared grammar probe) file.1 file.2 with
      | ok table =>
          have htable := hc.given hgiven
          exact isRead_foldl_addFile (SortedMap.ForAll.insert hc _ htable) (ht.merge htable)
      | error e => exact isRead_foldl_addFile hc ht

theorem path_foldl_addFile {x : ByteArray → Except ParseFailure SymbolTable} :
    ∀ {files : List (Path × ByteArray)} {p : Progress},
    (files.foldl (addFile x) p).cache.path = p.cache.path
  | [], _ => rfl
  | file :: rest, p => by
      rw [List.foldl_cons, path_foldl_addFile, addFile]
      cases p.cache.given x file.1 file.2 <;> rfl

theorem isRead_of_releaseVersion {fs : FileSystem} {root : Path} {v : Version}
    (h : releaseVersion fs root = .ok v) : v.IsRead := by
  unfold releaseVersion at h
  dsimp only at h
  split at h
  · cases h
  · split at h
    · next text _ w hw =>
        obtain rfl := Except.ok.inj h
        obtain ⟨cs, _, hcs⟩ := Option.bind_eq_some_iff.mp hw
        exact Version.isRead_of_ofChars? hcs
    · cases h

/-- What a build leaves when it gives an index. -/
theorem build_ok {root : Path} {c c' : Cache SymbolTable} {i : Index} {s s' : Session}
    (h : (build grammar probe root c).run s = ((c', .ok i), s')) :
    s'.files = s.files ∧ c'.path = c.path ∧
      (∃ v, releaseVersion s.files root = .ok v ∧ i.release = some v) ∧
      (CacheIsRead c → CacheIsRead c' ∧ i.IsRead) := by
  obtain ⟨files, hfiles⟩ := sources_of_build (show ((build grammar probe root c).run s).1.2 = .ok i
    by rw [h])
  have hrun := run_build grammar probe c hfiles
  have hsame := files_build grammar probe root c s
  rw [h] at hrun hsame
  have hc : c' = (merged grammar probe c files).cache.prune := congrArg Prod.fst hrun
  have hi : Except.ok i = (releaseVersion s.files root).map _ := congrArg Prod.snd hrun
  cases hversion : releaseVersion s.files root with
  | error e =>
      rw [hversion] at hi
      cases hi
  | ok v =>
      rw [hversion] at hi
      refine ⟨hsame, ?_, ⟨v, rfl, by rw [Except.ok.inj hi]⟩, fun hread => ?_⟩
      · rw [hc]
        exact path_foldl_addFile
      · have hmerged : CacheIsRead (merged grammar probe c files).cache ∧
            (merged grammar probe c files).symbols.IsRead :=
          isRead_foldl_addFile hread SymbolTable.isRead_empty
        rw [hc, Except.ok.inj hi]
        refine ⟨hmerged.1.filter _, fun w hw => ?_, hmerged.2⟩
        rw [← Option.some.inj hw]
        exact isRead_of_releaseVersion hversion

/-- **The last file that declares a symbol counts.**  If the files of a release can be read and the
cache has nothing but what is extracted from them, a build gives an index unless the release does not
say its version.  The index has the lifespan of each symbol, be it a class, one of its methods or
another one, from the last of the files, in their order, that can be parsed and declares it, and has
none where there is no such file. -/
theorem get?_build (grammar : Grammar) (probe : Probe) (root : Path) (c : Cache SymbolTable)
    (s : Session) (files : List Path) (hlisted : s.files.phpFiles root [] = .ok files)
    (hread : ∀ file ∈ files, ∃ content, s.files.readBytes file = .ok content)
    (hc : CacheAgrees grammar probe s.files root c) :
    ∃ symbols, ((build grammar probe root c).run s).1.2 =
        (releaseVersion s.files root).map (fun v => ⟨some v, symbols⟩) ∧
      ∀ symbol,
        (∀ a, symbols.get? symbol = some a ↔ ∃ before file after, files = before ++ file :: after ∧
          lifespanIn? grammar probe s.files symbol file = some a ∧
          ∀ later ∈ after, lifespanIn? grammar probe s.files symbol later = none) ∧
        (symbols.get? symbol = none ↔
          ∀ file ∈ files, lifespanIn? grammar probe s.files symbol file = none) := by
  obtain ⟨sources, rfl, hsources⟩ := exists_sources hlisted hread
  refine ⟨(merged grammar probe c sources).symbols, ?_, fun symbol => ?_⟩
  · rw [run_build grammar probe c hsources]
  · -- the last table that knows the symbol is the first one from the end
    rw [symbols_merged hc hsources, SymbolTable.get?_foldl_merge, SymbolTable.get?_empty, Option.or_none]
    change (∀ a, (sources.map Prod.fst).reverse.findSome? (lifespanIn? grammar probe s.files symbol) =
      some a ↔ _) ∧ ((sources.map Prod.fst).reverse.findSome?
        (lifespanIn? grammar probe s.files symbol) = none ↔ _)
    constructor
    · intro a
      rw [List.findSome?_eq_some_iff]
      constructor
      · rintro ⟨later, file, earlier, hsplit, ha, hlater⟩
        refine ⟨earlier.reverse, file, later.reverse, ?_, ha, fun g hg => hlater g (by simpa using hg)⟩
        rw [← List.reverse_inj, hsplit]
        simp
      · rintro ⟨before, file, after, hsplit, ha, hafter⟩
        refine ⟨after.reverse, file, before.reverse, ?_, ha, fun g hg => hafter g (by simpa using hg)⟩
        rw [hsplit]
        simp
    · rw [List.findSome?_eq_none_iff]
      simp

/-- Two files declare a function, and the cache has what the first of them declares; the third file
cannot be parsed. -/
theorem get?_build_last_file :
    let first := "/** @since 5.0 */ function f()"
    let second := "/** @since 6.1 */ function f()"
    let grammar : Grammar := fun text =>
      if text = first ∨ text = second then .ok Declaration.annotatedFunction else .error ⟨""⟩
    let probe := Probe.fixed (.ofNames [] [] [])
    let fs := (((((FileSystem.empty.put ["r"] .directory).put ["r", "a.php"]
      (.file (.bytes first.toUTF8))).put ["r", "b.php"] (.file (.bytes second.toUTF8))).put
        ["r", "wp-includes"] .directory).put ["r", "wp-includes", "version.php"]
          (.file (.bytes "$wp_version = '6.7';".toUTF8)))
    let files : List Path := [⟨"r/a.php"⟩, ⟨"r/b.php"⟩, ⟨"r/wp-includes/version.php"⟩]
    let c : Cache SymbolTable := Cache.inMemory.insert (⟨"r/a.php"⟩ : Path) first.toUTF8
      (Declaration.collect probe.inventory.confirms first.toList Declaration.annotatedFunction).symbols
    fs.phpFiles ⟨"r"⟩ [] = .ok files ∧
      (∀ file ∈ files, ∃ content, fs.readBytes file = .ok content) ∧
      CacheAgrees grammar probe fs ⟨"r"⟩ c ∧
      ∃ i, ((build grammar probe ⟨"r"⟩ c).run (.start fs)).1.2 = .ok i ∧
        i.get? (.function "f") = some ⟨⟨[6, 1], none⟩, none⟩ := by
  intro first second grammar probe fs files c
  have hlisted : fs.phpFiles ⟨"r"⟩ [] = .ok files := by decide +kernel
  have hread : ∀ file ∈ files, ∃ content, fs.readBytes file = .ok content := by
    intro file hfile
    simp only [files, List.mem_cons, List.not_mem_nil, or_false] at hfile
    rcases hfile with rfl | rfl | rfl
    · exact ⟨first.toUTF8, by decide +kernel⟩
    · exact ⟨second.toUTF8, by decide +kernel⟩
    · exact ⟨"$wp_version = '6.7';".toUTF8, by decide +kernel⟩
  have hc : CacheAgrees grammar probe fs ⟨"r"⟩ c :=
    (cacheAgrees_of_empty rfl).insert (by decide +kernel) (by decide +kernel)
  have hversion : releaseVersion fs ⟨"r"⟩ = .ok ⟨[6, 7], none⟩ := by decide +kernel
  obtain ⟨symbols, hrun, hsymbols⟩ := get?_build grammar probe ⟨"r"⟩ c (.start fs) files hlisted hread hc
  refine ⟨hlisted, hread, hc, ⟨some ⟨[6, 7], none⟩, symbols⟩, ?_, ?_⟩
  · rw [hrun, show (Session.start fs).files = fs from rfl, hversion]
    rfl
  · exact ((hsymbols (.function "f")).1 _).mpr ⟨[⟨"r/a.php"⟩], ⟨"r/b.php"⟩,
      [⟨"r/wp-includes/version.php"⟩], rfl, by decide +kernel, by decide +kernel⟩

end Index

end RequiredVersion
