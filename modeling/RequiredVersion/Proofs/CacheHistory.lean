import RequiredVersion.Proofs.CacheDocument

/-! # Histories of a cache

A cache is used over and over: data are extracted or recorded, entries are looked up and pruned,
lookups are switched off and on, the cache is saved and loaded again.  `Reaches` says which caches
the uses of an empty cache lead to; `latest?` reads off these uses, without a cache, which content is
the latest that was recorded for some paths and not pruned since.

The invariant `Coherent` says that the entry under a key is that of the latest content for the paths
with this key, with what the extraction gives for the content.  It holds for all histories
(`Reaches.coherent`), as long as fingerprints tell contents apart.  So a cache gives what the extraction
would have given, and does not run it for the latest content (`getOrExtract_of_reaches`).

Paths with one key share one entry, and spellings of one path have entries of their own, so it is the
key of a path that counts and not the path (`getOrExtract_of_other_key`). -/

namespace RequiredVersion

/-! ### Keys -/

namespace Path

@[simp] theorem key_raw (p : Path) : p.raw.key = p.text := by
  unfold RawPath.key Text.lossyText Path.raw
  rw [Text.fromUTF8?_toUTF8]

theorem raw_key_inj {p q : Path} (h : p.raw.key = q.raw.key) : p = q := by
  rw [key_raw, key_raw] at h
  exact congrArg Path.mk h

end Path

namespace Cache

variable {α ε : Type}

/-! ### Uses -/

/-- What is done with a cache. -/
inductive Use where
  | extract (file : RawPath) (content : ByteArray)
  | insert (file : RawPath) (content : ByteArray)
  | lookup (file : RawPath) (content : ByteArray)
  | prune
  | bypass (off : Bool)
  /-- The cache is saved and loaded again. -/
  | reload

/-- The contents that a use is about. -/
def Use.contents : Use → List ByteArray
  | .extract _ content | .insert _ content | .lookup _ content => [content]
  | .prune | .bypass _ | .reload => []

/-- One use of a cache, in whatever session; `x` says what is extracted from a content. -/
inductive Step (format : Format α) (x : ByteArray → Except ε α) : Use → Cache α → Cache α → Prop where
  | extracted {c c' : Cache α} {file : RawPath} {content : ByteArray}
      {extract : Action (Except ε α)} {result : Except ε α} {s s' : Session}
      (hextract : ∀ s, (extract.run s).1 = x content)
      (h : (c.getOrExtract file content extract).run s = ((c', result), s')) :
      Step format x (.extract file content) c c'
  | inserted {c : Cache α} {file : RawPath} {content : ByteArray} {data : α} (h : x content = .ok data) :
      Step format x (.insert file content) c (c.insert file content data)
  | lookedUp {c : Cache α} {file : RawPath} {content : ByteArray} :
      Step format x (.lookup file content) c c
  | pruned {c : Cache α} : Step format x .prune c c.prune
  | bypassed {c : Cache α} {off : Bool} : Step format x (.bypass off) c (c.bypass off)
  | reloaded {c c' : Cache α} {path : Path} {s s₁ s₂ : Session} (hpath : c.path = some path)
      (hsave : (c.save format).outcome.run s = (.ok (), s₁))
      (hload : (load format path).outcome.run s₁ = (.ok c', s₂)) : Step format x .reload c c'

/-- The caches that uses of an empty cache lead to; the latest use stands first. -/
inductive Reaches (format : Format α) (x : ByteArray → Except ε α) : List Use → Cache α → Prop where
  | start {c : Cache α} (hentries : c.entries = .empty) (htouched : c.touched = .empty) :
      Reaches format x [] c
  | step {use : Use} {uses : List Use} {c c' : Cache α} (h : Reaches format x uses c)
      (hstep : Step format x use c c') : Reaches format x (use :: uses) c'

/-! ### What has been recorded -/

/-- Has an entry for one of the paths that `mine` picks been left since the cache was opened? -/
def cameUp (x : ByteArray → Except ε α) (mine : RawPath → Bool) : List Use → Bool
  | [] => false
  | .extract file content :: uses | .insert file content :: uses =>
    (mine file && (x content).isOk) || cameUp x mine uses
  | .lookup _ _ :: uses | .prune :: uses | .bypass _ :: uses => cameUp x mine uses
  | .reload :: _ => false

/-- The latest content that an entry for one of the paths that `mine` picks was left for and that was
not pruned since. -/
def latest? (x : ByteArray → Except ε α) (mine : RawPath → Bool) : List Use → Option ByteArray
  | [] => none
  | .extract file content :: uses | .insert file content :: uses =>
    if mine file && (x content).isOk then some content else latest? x mine uses
  | .prune :: uses => if cameUp x mine uses then latest? x mine uses else none
  | .lookup _ _ :: uses | .bypass _ :: uses | .reload :: uses => latest? x mine uses

/-- Picks the paths with a key. -/
def hasKey (key : String) (file : RawPath) : Bool := file.key = key

/-- The entry for a content. -/
def entryFor? (x : ByteArray → Except ε α) (content : ByteArray) : Option (CacheEntry α) :=
  match x content with
  | .ok data => some ⟨fingerprint content, data⟩
  | .error _ => none

/-- Fingerprints tell these contents apart. -/
def Distinguished (contents : List ByteArray) : Prop :=
  ∀ a ∈ contents, ∀ b ∈ contents, fingerprint a = fingerprint b → a = b

section recorded
variable {x : ByteArray → Except ε α} {mine : RawPath → Bool} {content : ByteArray} {data : α}

theorem exists_of_isOk (h : (x content).isOk = true) : ∃ data, x content = .ok data := by
  cases hx : x content with
  | ok data => exact ⟨data, rfl⟩
  | error e =>
      rw [hx] at h
      cases h

theorem entryFor?_of_ok (h : x content = .ok data) :
    entryFor? x content = some ⟨fingerprint content, data⟩ := by
  rw [entryFor?, h]

/-- The latest content is one that the uses are about, and its extraction succeeds. -/
theorem latest?_eq_some : ∀ {uses : List Use}, latest? x mine uses = some content →
    (∃ data, x content = .ok data) ∧ content ∈ uses.flatMap Use.contents
  | [], h => by cases h
  | .extract _ _ :: _, h | .insert _ _ :: _, h => by
      rw [latest?] at h
      split at h
      · next hkept =>
          obtain rfl := Option.some.inj h
          rw [Bool.and_eq_true] at hkept
          exact ⟨exists_of_isOk hkept.2, List.mem_append_left _ List.mem_cons_self⟩
      · obtain ⟨hdata, hmem⟩ := latest?_eq_some h
        exact ⟨hdata, List.mem_append_right _ hmem⟩
  | .lookup _ _ :: _, h => by
      rw [latest?] at h
      obtain ⟨hdata, hmem⟩ := latest?_eq_some h
      exact ⟨hdata, List.mem_append_right _ hmem⟩
  | .prune :: _, h => by
      rw [latest?] at h
      split at h
      · obtain ⟨hdata, hmem⟩ := latest?_eq_some h
        exact ⟨hdata, hmem⟩
      · cases h
  | .bypass _ :: _, h | .reload :: _, h => by
      rw [latest?] at h
      obtain ⟨hdata, hmem⟩ := latest?_eq_some h
      exact ⟨hdata, hmem⟩

end recorded

/-! ### The invariant -/

/-- The entries are those of the latest contents, and the keys that are touched those that came up. -/
structure Coherent (x : ByteArray → Except ε α) (uses : List Use) (c : Cache α) : Prop where
  entries : ∀ key, c.entries.get? key = (latest? x (hasKey key) uses).bind (entryFor? x)
  touched : ∀ key, c.touched.contains key = cameUp x (hasKey key) uses

theorem entry_of_lookup {c : Cache α} {file : RawPath} {content : ByteArray} {data : α}
    (h : c.lookup file content = some data) :
    c.enabled = true ∧ c.entries.get? file.key = some ⟨fingerprint content, data⟩ := by
  unfold lookup at h
  split at h
  · next henabled =>
      split at h
      · next e hentry =>
          split at h
          · next hkey =>
              cases h
              exact ⟨henabled, by rw [hentry, ← hkey]⟩
          · cases h
      · cases h
  · cases h

namespace Coherent

variable {x : ByteArray → Except ε α} {uses uses' : List Use} {c c' : Cache α} {file : RawPath}
  {content : ByteArray} {data : α}

theorem entry (hc : Coherent x uses c) {key : String} {e : CacheEntry α}
    (h : c.entries.get? key = some e) :
    ∃ content ∈ uses.flatMap Use.contents, e.key = fingerprint content ∧ x content = .ok e.data := by
  rw [hc.entries, Option.bind_eq_some_iff] at h
  obtain ⟨content, hlatest, hentry⟩ := h
  obtain ⟨⟨data, hdata⟩, hmem⟩ := latest?_eq_some hlatest
  rw [entryFor?_of_ok hdata] at hentry
  cases hentry
  exact ⟨content, hmem, rfl, hdata⟩

theorem idle (hc : Coherent x uses c) (hentries : c'.entries = c.entries)
    (htouched : c'.touched = c.touched) (hlatest : ∀ mine, latest? x mine uses' = latest? x mine uses)
    (hcameUp : ∀ mine, cameUp x mine uses' = cameUp x mine uses) : Coherent x uses' c' := by
  constructor
  · intro key
    rw [hentries, hlatest, hc.entries]
  · intro key
    rw [htouched, hcameUp, hc.touched]

/-- A use that leaves an entry for a content, perhaps the one there was. -/
theorem extract (hc : Coherent x uses c) (hok : x content = .ok data)
    (hentry : c'.entries.get? file.key = some ⟨fingerprint content, data⟩)
    (hother : ∀ key, key ≠ file.key → c'.entries.get? key = c.entries.get? key)
    (htouched : c'.touched = c.touched.insert file.key ()) :
    Coherent x (.extract file content :: uses) c' := by
  have hisOk : (x content).isOk = true := by rw [hok]; rfl
  constructor
  · intro key
    rw [latest?, hisOk, Bool.and_true, hasKey]
    by_cases heq : file.key = key
    · subst heq
      rw [if_pos (decide_eq_true rfl), hentry, Option.bind_some, entryFor?_of_ok hok]
    · rw [if_neg (by simpa using heq), hother key (fun e => heq e.symm), hc.entries]
  · intro key
    rw [cameUp, hisOk, Bool.and_true, htouched, SortedMap.contains, hasKey]
    by_cases heq : file.key = key
    · subst heq
      rw [SortedMap.get?_insert_self, decide_eq_true rfl]
      rfl
    · rw [SortedMap.get?_insert_of_ne _ _ (fun e => heq e.symm), decide_eq_false heq, Bool.false_or,
        ← hc.touched]
      rfl

theorem touch (hc : Coherent x uses c) (hok : x content = .ok data)
    (hentry : c.entries.get? file.key = some ⟨fingerprint content, data⟩) :
    Coherent x (.extract file content :: uses) (c.touch file) :=
  hc.extract hok hentry (fun _ _ => rfl) rfl

theorem insert (hc : Coherent x uses c) (hok : x content = .ok data) :
    Coherent x (.extract file content :: uses) (c.insert file content data) :=
  hc.extract hok (SortedMap.get?_insert_self _ _ _)
    (fun _ hne => SortedMap.get?_insert_of_ne _ _ hne) rfl

theorem extract_error (hc : Coherent x uses c) {e : ε} (herror : x content = .error e) :
    Coherent x (.extract file content :: uses) c := by
  have hisOk : (x content).isOk = false := by rw [herror]; rfl
  refine hc.idle rfl rfl (fun mine => ?_) (fun mine => ?_)
  · rw [latest?, hisOk, Bool.and_false, if_neg (by decide)]
  · rw [cameUp, hisOk, Bool.and_false, Bool.false_or]

theorem prune (hc : Coherent x uses c) : Coherent x (.prune :: uses) c.prune := by
  refine ⟨fun key => ?_, hc.touched⟩
  rw [latest?, Cache.prune]
  dsimp only
  rw [SortedMap.get?_filter, hc.touched, hc.entries]
  cases cameUp x (hasKey key) uses with
  | true =>
      rw [if_pos rfl]
      cases (latest? x (hasKey key) uses).bind (entryFor? x) <;> rfl
  | false => cases (latest? x (hasKey key) uses).bind (entryFor? x) <;> rfl

/-- A cache that is opened anew has no paths that came up. -/
theorem reload (hc : Coherent x uses c) (hentries : c'.entries = c.entries)
    (htouched : c'.touched = .empty) : Coherent x (.reload :: uses) c' := by
  refine ⟨fun key => ?_, fun key => ?_⟩
  · rw [hentries, hc.entries]
    rfl
  · rw [htouched]
    rfl

/-! ### Lookups -/

/-- What is found was extracted from the content that is looked up. -/
theorem of_lookup (hc : Coherent x uses c)
    (hcontents : Distinguished (content :: uses.flatMap Use.contents))
    (h : c.lookup file content = some data) :
    x content = .ok data ∧ c.entries.get? file.key = some ⟨fingerprint content, data⟩ := by
  have hentry := (entry_of_lookup h).2
  obtain ⟨content', hmem, hkey, hdata⟩ := hc.entry hentry
  obtain rfl : content' = content :=
    hcontents _ (List.mem_cons_of_mem _ hmem) _ List.mem_cons_self hkey.symm
  exact ⟨hdata, hentry⟩

theorem lookup_latest (hc : Coherent x uses c) (henabled : c.enabled = true)
    (hlatest : latest? x (hasKey file.key) uses = some content) :
    ∃ data, c.lookup file content = some data := by
  obtain ⟨⟨data, hdata⟩, _⟩ := latest?_eq_some hlatest
  refine ⟨data, ?_⟩
  rw [Cache.lookup, if_pos henabled, hc.entries, hlatest, Option.bind_some, entryFor?_of_ok hdata]
  exact if_pos rfl

end Coherent

/-! ### Extractions -/

section extract
variable {c c' : Cache α} {file : RawPath} {content : ByteArray} {data : α}
  {extract : Action (Except ε α)} {s s' : Session}

theorem getOrExtract_hit (h : c.lookup file content = some data) :
    (c.getOrExtract file content extract).run s =
      ((c.touch file, .ok data),
        { s with log := s.log ++ [⟨area, .debug, "Cache hit for " ++ file.quoted⟩] }) := by
  unfold getOrExtract
  rw [h]
  rfl

/-- The cache with what was extracted, if that succeeded. -/
def keep (c : Cache α) (file : RawPath) (content : ByteArray) : Except ε α → Cache α
  | .ok data => c.insert file content data
  | .error _ => c

theorem getOrExtract_miss (h : c.lookup file content = none) (extract : Action (Except ε α))
    (s : Session) : ∃ s₁, (c.getOrExtract file content extract).run s =
      ((c.keep file content (extract.run s₁).1, (extract.run s₁).1), (extract.run s₁).2) := by
  obtain ⟨s₁, hnote⟩ : ∃ s₁, (Action.note area .debug ("Cache miss for " ++ file.quoted)).run s =
      (pure ((), s₁) : Id _) := ⟨_, rfl⟩
  refine ⟨s₁, ?_⟩
  unfold getOrExtract
  simp only [h, StateT.run_bind, hnote, pure_bind]
  rcases extract.run s₁ with ⟨e | data, s₂⟩
  · rfl
  · rfl

end extract

/-! ### Histories -/

section histories
variable {format : Format α} {x : ByteArray → Except ε α} {uses : List Use} {use : Use}
  {c c' : Cache α}

theorem Distinguished.of_subset {contents contents' : List ByteArray} (h : Distinguished contents)
    (hsub : contents' ⊆ contents) : Distinguished contents' :=
  fun a ha b hb => h a (hsub ha) b (hsub hb)

/-- On a coherent cache an extraction comes to what `x` says and leaves a coherent cache, which is the
same cache if `x` fails. -/
theorem Coherent.getOrExtract (hc : Coherent x uses c) (file : RawPath) {content : ByteArray}
    (hcontents : Distinguished (content :: uses.flatMap Use.contents))
    {extract : Action (Except ε α)} (hextract : ∀ s, (extract.run s).1 = x content) (s : Session) :
    ∃ c' s', (c.getOrExtract file content extract).run s = ((c', x content), s') ∧
      Coherent x (.extract file content :: uses) c' ∧ ∀ e, x content = .error e → c' = c := by
  cases hlookup : c.lookup file content with
  | some data =>
      obtain ⟨hok, hentry⟩ := hc.of_lookup hcontents hlookup
      rw [hok]
      exact ⟨_, _, getOrExtract_hit hlookup, hc.touch hok hentry, fun e he => by cases he⟩
  | none =>
      obtain ⟨s₁, hrun⟩ := getOrExtract_miss hlookup extract s
      rw [hextract] at hrun
      refine ⟨_, _, hrun, ?_, fun e he => by rw [he]; rfl⟩
      cases hx : x content with
      | ok data => exact hc.insert hx
      | error e => exact hc.extract_error hx

/-- **Every use keeps a cache coherent.** -/
theorem Coherent.step (hformat : ∀ content data, x content = .ok data → format.RoundTrips data)
    (hc : Coherent x uses c) (hstep : Step format x use c c')
    (hcontents : Distinguished (use.contents ++ uses.flatMap Use.contents)) :
    Coherent x (use :: uses) c' := by
  cases hstep with
  | @extracted _ _ _ _ _ _ s _ hextract h =>
      obtain ⟨_, _, hrun, hcoherent, _⟩ := hc.getOrExtract _ hcontents hextract s
      rw [h] at hrun
      cases hrun
      exact hcoherent
  | @inserted _ file _ _ h =>
      have hinserted : Coherent x (.extract file _ :: uses) _ := hc.insert h
      exact ⟨hinserted.entries, hinserted.touched⟩
  | lookedUp => exact hc.idle rfl rfl (fun _ => rfl) (fun _ => rfl)
  | pruned => exact hc.prune
  | bypassed => exact hc.idle rfl rfl (fun _ => rfl) (fun _ => rfl)
  | reloaded hpath hsave hload =>
      have hdata : ∀ k e, c.entries.get? k = some e → format.RoundTrips e.data := by
        intro k e hentry
        obtain ⟨content, _, _, hok⟩ := hc.entry hentry
        exact hformat content e.data hok
      obtain ⟨_, hloaded⟩ := load_save hpath hsave hdata
      rw [hload] at hloaded
      cases hloaded
      exact hc.reload rfl rfl

/-- **All histories lead to coherent caches.** -/
theorem Reaches.coherent (hformat : ∀ content data, x content = .ok data → format.RoundTrips data)
    (h : Reaches format x uses c) (hcontents : Distinguished (uses.flatMap Use.contents)) :
    Coherent x uses c := by
  induction h with
  | start hentries htouched =>
      refine ⟨fun key => ?_, fun key => ?_⟩
      · rw [hentries]
        rfl
      · rw [htouched]
        rfl
  | step _ hstep ih =>
      have hrest := ih (hcontents.of_subset (List.subset_append_right _ _))
      exact hrest.step hformat hstep hcontents

/-- **A cache gives what the extraction gives**, whatever it was used for before: an extraction that
fails leaves it as it is, and for the latest content that was recorded under the key of a path nothing is
extracted. -/
theorem getOrExtract_of_reaches
    (hformat : ∀ content data, x content = .ok data → format.RoundTrips data)
    (hreaches : Reaches format x uses c) (file : RawPath) (content : ByteArray)
    (hcontents : Distinguished (content :: uses.flatMap Use.contents)) :
    (∀ extract : Action (Except ε α), (∀ s, (extract.run s).1 = x content) → ∀ s,
      ((c.getOrExtract file content extract).run s).1.2 = x content ∧
      ∀ e, x content = .error e → ((c.getOrExtract file content extract).run s).1.1 = c) ∧
    (c.enabled = true → latest? x (hasKey file.key) uses = some content →
      ∀ (extract extract' : Action (Except ε α)) (s : Session),
        (c.getOrExtract file content extract).run s =
          (c.getOrExtract file content extract').run s) := by
  have hc := hreaches.coherent hformat (hcontents.of_subset (List.subset_cons_self _ _))
  refine ⟨fun extract hextract s => ?_, fun henabled hlatest extract extract' s => ?_⟩
  · obtain ⟨c', s', hrun, _, hsame⟩ := hc.getOrExtract file hcontents hextract s
    rw [hrun]
    exact ⟨rfl, hsame⟩
  · obtain ⟨data, hlookup⟩ := hc.lookup_latest henabled hlatest
    rw [getOrExtract_hit hlookup, getOrExtract_hit hlookup]

end histories

section examples

/-- Texts as data; the empty content has none. -/
def sampleFormat : Format String := ⟨.str, RawJson.text?⟩

def sampleExtraction (content : ByteArray) : Except Unit String :=
  if content.size = 0 then .error () else .ok "a"

theorem roundTrips_sampleFormat (data : String) : sampleFormat.RoundTrips data := by
  rw [Format.RoundTrips, RawJson.ofText?_pretty]
  exact RawJson.key?_units data

/-- An entry that was recorded for a path with the same key, saved and loaded again is found. -/
theorem getOrExtract_of_reaches_reload :
    let file : RawPath := ⟨⟨#[0x66, 0xFE]⟩⟩
    let other : RawPath := ⟨⟨#[0x66, 0xFF]⟩⟩
    let content : ByteArray := ⟨#[1]⟩
    let uses : List Use := [.lookup file ⟨#[]⟩, .reload, .insert other content]
    Distinguished (content :: uses.flatMap Use.contents) ∧ Distinguished (⟨#[]⟩ :: uses.flatMap Use.contents) ∧
      latest? sampleExtraction (hasKey file.key) uses = some content ∧
      ∃ c, Reaches sampleFormat sampleExtraction uses c ∧ c.enabled = true ∧
        (∀ s, ((c.getOrExtract file content (pure (sampleExtraction content))).run s).1.2 = .ok "a") ∧
        (∀ s, ((c.getOrExtract file ⟨#[]⟩ (pure (sampleExtraction ⟨#[]⟩))).run s).1 = (c, .error ())) ∧
        ∀ (extract extract' : Action (Except Unit String)) (s : Session),
          (c.getOrExtract file content extract).run s =
            (c.getOrExtract file content extract').run s := by
  intro file other content uses
  have hformat : ∀ content data, sampleExtraction content = .ok data → sampleFormat.RoundTrips data :=
    fun _ data _ => roundTrips_sampleFormat data
  have hcontents : Distinguished (content :: uses.flatMap Use.contents) := by
    unfold Distinguished
    decide +kernel
  have hempty : Distinguished (⟨#[]⟩ :: uses.flatMap Use.contents) := by
    unfold Distinguished
    decide +kernel
  have hlatest : latest? sampleExtraction (hasKey file.key) uses = some content := by decide +kernel
  let c₀ : Cache String := ⟨some ⟨"c"⟩, .empty, true, .empty⟩
  have hinserted : Reaches sampleFormat sampleExtraction [.insert other content]
      (c₀.insert other content "a") := (Reaches.start rfl rfl).step (.inserted rfl)
  have hsave : ((c₀.insert other content "a").save sampleFormat).outcome.run (.start .empty) =
      (.ok (), _) := Prod.ext (show _ = Except.ok () from rfl) rfl
  obtain ⟨_, hload⟩ := load_save rfl hsave (fun _ e _ => roundTrips_sampleFormat e.data)
  have hreaches : Reaches sampleFormat sampleExtraction uses _ :=
    (hinserted.step (.reloaded rfl hsave hload)).step .lookedUp
  obtain ⟨hgives, hskips⟩ := getOrExtract_of_reaches hformat hreaches file content hcontents
  obtain ⟨hfails, _⟩ := getOrExtract_of_reaches hformat hreaches file ⟨#[]⟩ hempty
  refine ⟨hcontents, hempty, hlatest, _, hreaches, rfl, fun s => (hgives _ (fun _ => rfl) s).1, fun s => ?_,
    hskips rfl hlatest⟩
  obtain ⟨hresult, hsame⟩ := hfails (pure (sampleExtraction ⟨#[]⟩)) (fun _ => rfl) s
  exact Prod.ext (hsame () rfl) hresult

/-- **It is the key that counts, not the path.**  Of two paths with one key, the entry of the one takes the
place of the other's: the latest content that was recorded for a path is extracted again.  It is extracted
again, too, where the same path is written in another way. -/
theorem getOrExtract_of_other_key :
    let one : ByteArray := ⟨#[1]⟩
    (let file : RawPath := ⟨⟨#[0x61, 0xFE, 0x2E, 0x70, 0x68, 0x70]⟩⟩
      let other : RawPath := ⟨⟨#[0x61, 0xFF, 0x2E, 0x70, 0x68, 0x70]⟩⟩
      let uses : List Use := [.insert other ⟨#[2]⟩, .insert file one]
      file.bytes ≠ other.bytes ∧ Distinguished (one :: uses.flatMap Use.contents) ∧
        latest? sampleExtraction (fun p => p.bytes = file.bytes) uses = some one ∧
        ∃ c, Reaches sampleFormat sampleExtraction uses c ∧ c.enabled = true ∧
          ¬ ∀ (extract extract' : Action (Except Unit String)) (s : Session),
            (c.getOrExtract file one extract).run s = (c.getOrExtract file one extract').run s) ∧
    (let file : Path := ⟨"a/b.php"⟩
      let again : Path := ⟨"a//b.php"⟩
      let uses : List Use := [.insert file one]
      again.components = file.components ∧ again.isAbsolute = file.isAbsolute ∧
        Distinguished (one :: uses.flatMap Use.contents) ∧
        ∃ c, Reaches sampleFormat sampleExtraction uses c ∧ c.enabled = true ∧
          ¬ ∀ (extract extract' : Action (Except Unit String)) (s : Session),
            (c.getOrExtract again one extract).run s = (c.getOrExtract again one extract').run s) := by
  intro one
  -- what is not found is what the extraction gives
  have hrun : ∀ {c : Cache String} {file : RawPath}, c.lookup file one = none →
      ¬ ∀ (extract extract' : Action (Except Unit String)) (s : Session),
        (c.getOrExtract file one extract).run s = (c.getOrExtract file one extract').run s := by
    intro c file hmiss hsame
    obtain ⟨_, hfails⟩ := getOrExtract_miss hmiss (pure (.error ())) (.start .empty)
    obtain ⟨_, hgives⟩ := getOrExtract_miss hmiss (pure (.ok "")) (.start .empty)
    have heq := hfails.symm.trans ((hsame _ _ _).trans hgives)
    cases congrArg (fun r => r.1.2) heq
  let c₀ : Cache String := .inMemory
  have hstart : Reaches sampleFormat sampleExtraction [] c₀ := .start rfl rfl
  constructor
  · intro file other uses
    have hcontents : Distinguished (one :: uses.flatMap Use.contents) := by
      unfold Distinguished
      decide +kernel
    refine ⟨by decide, hcontents, by decide +kernel, (c₀.insert file one "a").insert other ⟨#[2]⟩ "a",
      (hstart.step (.inserted rfl)).step (.inserted rfl), rfl, hrun ?_⟩
    decide +kernel
  · intro file again uses
    have hcontents : Distinguished (one :: uses.flatMap Use.contents) := by
      unfold Distinguished
      decide +kernel
    refine ⟨by decide, by decide, hcontents, c₀.insert file one "a", hstart.step (.inserted rfl), rfl, hrun ?_⟩
    decide +kernel

end examples

end Cache

end RequiredVersion
