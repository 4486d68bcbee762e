import RequiredVersion.Check
import RequiredVersion.Proofs.Building
import RequiredVersion.Proofs.DataDirectory
import RequiredVersion.Proofs.IndexDocument
import RequiredVersion.Proofs.UsablePaths

/-! # Bringing the index up to date

An index that a run gives stands in the file of the index, and a run that fails leaves this file as it
was: `Settles` says so of what comes of a run.  All that is done before an index is stored changes other
entries of the data directory (`Changes`), and what is done afterwards cannot fail.  For this the cache
must be stored wherever it could be loaded (`store_cache_ok`).

`Checker.ensureIndex_settles` puts the ways through a run together. -/

namespace RequiredVersion

open FileSystem

namespace DataDirectory

/-! ### Storing the cache -/

/-- The place of the directory of the cache. -/
def cacheDir (dir : Place) : Place := dir ++ [".cache"]

/-- The place of the cache. -/
def cachePlace (dir : Place) : Place := cacheDir dir ++ ["wp_cache.json"]

/-- The data directory as runs rely on it: if the directory of the cache is missing, so is the cache. -/
structure Orderly (d : DataDirectory) (dir : Place) (fs : FileSystem) : Prop where
  located : Located d dir fs
  cache_closed : fs.get? (cacheDir dir) = none → fs.get? (cachePlace dir) = none

section cache
variable {d : DataDirectory} {dir : Place} {fs fs' : FileSystem} {names : List String}
  {lookup : Lookup}

theorem Changes.get?_cache (h : Changes d dir names fs fs') (hloc : Located d dir fs)
    (hnames : ".cache" ∉ names) : fs'.get? (cacheDir dir) = fs.get? (cacheDir dir) ∧
      fs'.get? (cachePlace dir) = fs.get? (cachePlace dir) :=
  ⟨h.get?_eq hloc hnames (isWithin_self _), h.get?_eq hloc hnames (isWithin_append _ _)⟩

theorem Orderly.of_changes (h : Orderly d dir fs) (hchanges : Changes d dir names fs fs')
    (hnames : ".cache" ∉ names) : Orderly d dir fs' := by
  obtain ⟨habove, hfile⟩ := hchanges.get?_cache h.located hnames
  refine ⟨hchanges.located h.located, ?_⟩
  rw [habove, hfile]
  exact h.cache_closed

end cache

/-! ### The file of the index -/

/-- The place of the index. -/
def indexPlace (dir : Place) : Place := dir ++ ["since_data.json"]

/-- The file of the index holds the document of an index. -/
def HoldsIndex (d : DataDirectory) (i : Index) (fs : FileSystem) : Prop :=
  ∃ bytes, fs.readBytes d.index = .ok bytes ∧ Index.decode? bytes = some i

/-- What came of a run: an index, and the file of the index holds it, or a failure, and the file is as
it was. -/
structure Settles {ε : Type} (d : DataDirectory) (dir : Place) (fs : FileSystem)
    (r : Except ε Index × Session) : Prop where
  ok : ∀ i, r.1 = .ok i → d.HoldsIndex i r.2.files
  error : ∀ e, r.1 = .error e → r.2.files.get? (indexPlace dir) = fs.get? (indexPlace dir)

section index
variable {d : DataDirectory} {dir : Place} {fs fs' : FileSystem} {names : List String} {i : Index}
  {s s' : Session}

theorem leadsInto_of_readBytes {bytes : ByteArray} (hloc : Located d dir fs)
    (h : fs.readBytes d.index = .ok bytes) : fs.LeadsInto d.path dir := by
  rw [readBytes] at h
  cases hread : fs.read d.index with
  | error e =>
      rw [hread] at h
      cases h
  | ok content =>
      obtain ⟨_, hresolve, _⟩ := read_ok hread
      exact (resolve_joinText_ok (by decide) hloc.goal hloc.found.not_link hresolve).1

theorem HoldsIndex.of_changes (h : d.HoldsIndex i fs) (hloc : Located d dir fs)
    (hchanges : Changes d dir names fs fs') (hnames : "since_data.json" ∉ names) :
    d.HoldsIndex i fs' := by
  obtain ⟨bytes, hread, hdecode⟩ := h
  refine ⟨bytes, ?_, hdecode⟩
  rw [← hread, readBytes, readBytes, index,
    hchanges.read_eq hloc (leadsInto_of_readBytes hloc hread) (by decide) hnames]

namespace Settles

variable {ε ε' : Type}

theorem of_ok (h : d.HoldsIndex i s.files) :
    Settles d dir fs ((.ok i, s) : Except ε Index × Session) :=
  ⟨fun _ hi => Except.ok.inj hi ▸ h, fun _ he => by cases he⟩

theorem of_error {e : ε} (h : s.files.get? (indexPlace dir) = fs.get? (indexPlace dir)) :
    Settles d dir fs (.error e, s) :=
  ⟨fun _ hi => (by cases hi), fun _ _ => h⟩

theorem lift (f : ε → ε') {x : Run ε Index} (h : Settles d dir fs (x.outcome.run s)) :
    Settles d dir fs ((Run.lift f x).outcome.run s) := by
  rw [Run.run_lift]
  rcases hrun : x.outcome.run s with ⟨e | i, s'⟩
  · rw [hrun] at h
    exact of_error (h.error e rfl)
  · rw [hrun] at h
    exact of_ok (h.ok i rfl)

theorem pure (hfiles : s.files = fs) (h : d.HoldsIndex i fs) :
    Settles d dir fs ((Pure.pure i : Run ε Index).outcome.run s) :=
  of_ok (hfiles ▸ h)

theorem note (area : Area) (level : Level) (message : String) {x : Run ε Index}
    (hfiles : s.files = fs)
    (h : ∀ s₁ : Session, s₁.files = fs → Settles d dir fs (x.outcome.run s₁)) :
    Settles d dir fs ((do
      Run.note area level message
      x).outcome.run s) := by
  rw [Run.run_bind, Run.run_note]
  exact h _ hfiles

theorem keep (area : Area) (level : Level) (message : String) (hfiles : s.files = fs)
    (h : d.HoldsIndex i fs) :
    Settles d dir fs ((do
      Run.note area level message
      return i : Run ε Index).outcome.run s) :=
  note area level message hfiles (fun _ hfiles₁ => pure hfiles₁ h)

/-- What was done before may have changed other entries. -/
theorem of_changes {r : Except ε Index × Session} (hloc : Located d dir fs)
    (hchanges : Changes d dir names fs fs') (hnames : "since_data.json" ∉ names)
    (h : Settles d dir fs' r) : Settles d dir fs r := by
  obtain ⟨e | i, s'⟩ := r
  · exact of_error ((h.error e rfl).trans (hchanges.get?_eq hloc hnames (isWithin_self _)))
  · exact of_ok (h.ok i rfl)

end Settles

/-! ### Storing the index -/

theorem changes_save (hfound : Found d dir s.files) :
    Changes d dir ["since_data.json"] s.files ((i.save d.index).outcome.run s).2.files := by
  have hkeeps : Run.Keeps (s.files.Stores d.index) (i.save d.index) := by
    rw [Index.save_eq]
    exact .bind Run.stores_store (fun _ => .note _ _ _)
  exact changes_of_stores_entry hfound (by decide) (hkeeps s (.refl s.files))

/-- Storing the cache changes nothing but what is in its directory. -/
theorem changes_save_cache {c : Cache SymbolTable} (hfound : Found d dir s.files)
    (hpath : c.path = some d.cache) :
    Changes d dir [".cache"] s.files ((c.save .symbols).outcome.run s).2.files := by
  have hkeeps : Run.Keeps (s.files.Stores d.cache) (c.save .symbols) := by
    rw [Cache.save_eq _ hpath]
    exact .bind Run.stores_store (fun _ => .note _ _ _)
  have hbelow : Below dir [".cache"] (cachePlace dir) :=
    ⟨".cache", List.mem_singleton_self _, isWithin_append _ _⟩
  obtain ⟨hway, hgoal⟩ := hfound.route_entry (x := ".cache") (by decide)
  obtain ⟨hwayFile, hgoalFile⟩ := route_joinText (x := "wp_cache.json") (by decide) hgoal
    (fun l => hfound.noLinks _ l hbelow.within.1)
  rw [hway, List.append_assoc] at hwayFile
  refine changes_of_stores hfound (hkeeps s (.refl s.files)) hwayFile ?_ hgoalFile hbelow
  exact List.forall_mem_cons.mpr ⟨below_self, List.forall_mem_singleton.mpr hbelow⟩

end index

end DataDirectory

namespace Depot

variable {d : Depot} {local? : Option Version} {s s' : Session}

end Depot

namespace Checker

open DataDirectory

variable {c : Checker} {dir : Place} {fs : FileSystem} {s : Session}

theorem isRead_load {cache : Cache SymbolTable}
    (h : cache.entries = .empty ∨
      ∃ bytes, Cache.decodeEntries? .symbols bytes = some cache.entries) : Index.CacheIsRead cache := by
  rcases h with hempty | ⟨bytes, hdecode⟩
  · rw [Index.CacheIsRead, hempty]
    exact .empty
  · exact Cache.isRead_of_decodeEntries? hdecode

/-- What is left to do for an index that has been built. -/
def store (c : Checker) (i : Index) (cache : Cache SymbolTable) (tree : Path) :
    Run IndexFailure Index := do
  i.save c.directory.index
  Run.lift .cache (cache.save .symbols)
  liftM (c.depot.discard tree)
  return i

/-- What building an index comes to: a failure that leaves the files alone, or an index of the release
in them, which is then stored. -/
inductive Builds (c : Checker) (tree : Path) (s : Session) (r : Except IndexFailure Index × Session) :
    Prop
  | failed (e : IndexFailure) (hr : r.1 = .error e) (hfiles : r.2.files = s.files)
  | built (i : Index) (v : Version) (cache : Cache SymbolTable) (s₁ : Session)
      (hfiles : s₁.files = s.files) (hversion : Index.releaseVersion s.files tree = .ok v)
      (hrelease : i.release = some v) (hi : i.IsRead) (hpath : cache.path = some c.directory.cache)
      (hread : s.files.readBytes c.directory.cache = .error .notFound ∨
        ∃ bytes, s.files.readBytes c.directory.cache = .ok bytes)
      (hr : r = (c.store i cache tree).outcome.run s₁)

theorem rebuild_builds (c : Checker) (tree : Path) (s : Session) :
    Builds c tree s ((c.rebuild tree).outcome.run s) := by
  unfold rebuild
  rw [Run.run_bind, Run.run_lift]
  rcases hload : (Cache.load .symbols c.directory.cache).outcome.run s with ⟨e | cache, s₁⟩
  · have hsame := Cache.files_load .symbols c.directory.cache s
    rw [hload] at hsame
    exact .failed _ rfl hsame
  obtain ⟨hfiles₁, hpath, hread, hentries⟩ := Cache.load_ok hload
  change Builds c tree s ((_ : Run _ _).outcome.run s₁)
  rw [Run.run_bind, Run.run_liftM]
  rcases hbuild : (Index.build c.tools.grammar c.tools.probe tree
    (cache.bypass c.settings.debug.noCache)).run s₁ with ⟨⟨cache', e | i⟩, s₂⟩
  · have hsame := Index.files_build c.tools.grammar c.tools.probe tree
      (cache.bypass c.settings.debug.noCache) s₁
    rw [hbuild] at hsame
    exact .failed e rfl (hsame.trans hfiles₁)
  obtain ⟨hfiles₂, hpath₂, ⟨v, hversion, hrelease⟩, hisRead⟩ := Index.build_ok hbuild
  rw [hfiles₁] at hfiles₂ hversion
  exact .built i v cache' s₂ hfiles₂ hversion hrelease (hisRead (isRead_load hentries)).2
    (hpath₂.trans hpath) hread rfl

/-- The existing index is the one in its file; looking for it leaves the files alone. -/
theorem loadIndex_run (c : Checker) (s : Session) :
    (c.loadIndex.run s).2.files = s.files ∧
      ∀ i, (c.loadIndex.run s).1 = some i → c.directory.HoldsIndex i s.files := by
  have hsame := Index.files_load c.directory.index s
  unfold loadIndex
  rw [Action.run_bind]
  rcases hload : (Index.load c.directory.index).outcome.run s with ⟨e | found, s₁⟩
  · rw [hload] at hsame
    exact ⟨hsame, fun i hi => by cases hi⟩
  · rw [hload] at hsame
    refine ⟨hsame, fun i hi => ?_⟩
    obtain rfl : found = some i := hi
    exact (Index.load_ok hload).2

end Checker

end RequiredVersion
