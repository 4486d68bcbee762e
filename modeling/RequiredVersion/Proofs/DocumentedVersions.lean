import RequiredVersion.Proofs.Building
import RequiredVersion.Proofs.DocTags
import RequiredVersion.Proofs.ScanOrder
import RequiredVersion.Proofs.Traversal

/-! # Releases in, releases out

Every lifespan of an index that is built comes from a comment of the release
(`Index.exists_comment_of_build`).  So if the digits of all comments are ASCII digits, no version of the
index is a pre-release, and the minimum that a scan reports is one only if the floor is
(`Scanner.isPrerelease_floor`). -/

namespace RequiredVersion

/-! ### Comments of a tree -/

namespace Text

theorem takeBytes_sublist : ∀ (n : Nat) (cs : List Char), (takeBytes n cs).Sublist cs
  | _, [] => .slnil
  | n, c :: cs => by
      rw [takeBytes]
      split
      · exact List.nil_sublist _
      · exact (takeBytes_sublist _ cs).cons_cons c

theorem dropBytes_sublist : ∀ (n : Nat) (cs : List Char), (dropBytes n cs).Sublist cs
  | _, [] => .slnil
  | n, c :: cs => by
      rw [dropBytes]
      split
      · exact List.Sublist.refl _
      · exact (dropBytes_sublist _ cs).cons c

end Text

theorem Node.mem_of_mem_text {n : Node} {source : List Char} {c : Char}
    (h : c ∈ (n.text source).toList) : c ∈ source := by
  rw [Node.text, String.toList_ofList] at h
  exact ((Text.takeBytes_sublist _ _).trans (Text.dropBytes_sublist _ _)).subset h

namespace Cursor

/-- A place whose frames are those of a tree. -/
def IsIn (root : Node) : Node → List Frame → Prop
  | n, [] => n = root
  | n, f :: up => f.parent.children = f.before.reverse ++ n :: f.after ∧ IsIn root f.parent up

theorem IsIn.at?_eq {root : Node} : ∀ {n : Node} {above : List Frame}, IsIn root n above →
    root.at? (addressOf above) = some n
  | n, [], h => by rw [show n = root from h]; rfl
  | n, f :: up, h => by
      rw [addressOf, Node.at?_append, h.2.at?_eq, Option.bind_some, Node.at?, h.1]
      simp [Node.at?]

theorem isIn_placesAmong {root parent : Node} {up : List Frame} (hparent : IsIn root parent up) :
    ∀ ns before : List Node, parent.children = before.reverse ++ ns →
      (∀ n ∈ ns, ∀ above, IsIn root n above → ∀ c ∈ placesFrom n above, IsIn root c.node c.above) →
        ∀ c ∈ placesAmong parent before ns up, IsIn root c.node c.above
  | [], before, _, _, c, hc => by
      rw [placesAmong] at hc
      cases hc
  | n :: rest, before, hchildren, h, c, hc => by
      obtain ⟨hn, hrest⟩ := List.forall_mem_cons.mp h
      rw [placesAmong, List.mem_append] at hc
      rcases hc with hc | hc
      · exact hn (⟨parent, before, rest⟩ :: up) ⟨hchildren, hparent⟩ c hc
      · refine isIn_placesAmong hparent rest (n :: before) ?_ hrest c hc
        rw [hchildren, List.reverse_cons, List.append_assoc, List.singleton_append]

theorem isIn_placesFrom {root : Node} (n : Node) : ∀ above, IsIn root n above →
    ∀ c ∈ placesFrom n above, IsIn root c.node c.above := by
  induction n using Node.induction with
  | step n ih =>
      intro above hn c hc
      rw [placesFrom_eq, List.mem_cons] at hc
      rcases hc with rfl | hc
      · exact hn
      · exact isIn_placesAmong hn n.children [] rfl ih c hc

theorem isIn_of_mem_places {root : Node} {c : Cursor} (h : c ∈ places root) :
    IsIn root c.node c.above :=
  isIn_placesFrom root [] rfl c h

theorem IsIn.ancestors {root : Node} : ∀ {n : Node} {above : List Frame}, IsIn root n above →
    ∀ c ∈ ancestorsOf above, IsIn root c.node c.above
  | _, [], _, c, hc => absurd hc List.not_mem_nil
  | _, f :: up, h, c, hc => by
      rw [ancestorsOf, List.mem_cons] at hc
      rcases hc with rfl | hc
      · exact h.2
      · exact h.2.ancestors c hc

theorem IsIn.exists_at? {root : Node} {c : Cursor} (h : IsIn root c.node c.above) {n : Node}
    (hn : n ∈ c.before) : ∃ path, root.at? path = some n := by
  obtain ⟨m, above⟩ := c
  cases above with
  | nil => cases hn
  | cons f up =>
      have hchild : n ∈ f.parent.children := by
        rw [h.1, List.mem_append, List.mem_reverse]
        exact .inl hn
      obtain ⟨i, hi⟩ := List.mem_iff_getElem?.mp hchild
      refine ⟨addressOf up ++ [i], ?_⟩
      rw [Node.at?_append, h.2.at?_eq, Option.bind_some, Node.at?, hi]
      rfl

theorem exists_comment_of_docAmong {source : List Char} {doc : String} : ∀ {ns : List Node},
    docAmong source ns = some doc → ∃ n ∈ ns, n.construct = .comment ∧ n.text source = doc
  | [], h => by cases h
  | n :: rest, h => by
      rw [docAmong] at h
      split at h
      · next hkind =>
          split at h
          · refine ⟨n, List.mem_cons_self, ?_, Option.some.inj h⟩
            rw [Node.construct, hkind]
            rfl
          · obtain ⟨m, hm, hcomment⟩ := exists_comment_of_docAmong h
            exact ⟨m, List.mem_cons_of_mem _ hm, hcomment⟩
      · cases h

theorem exists_ownDoc_of_docAbove {source : List Char} {doc : String} : ∀ {cs : List Cursor},
    docAbove source cs = some doc → ∃ c ∈ cs, c.ownDoc? source = some doc
  | [], h => by cases h
  | c :: up, h => by
      rw [docAbove] at h
      split at h
      · next own hown =>
          cases h
          exact ⟨c, List.mem_cons_self, hown⟩
      · split at h
        · cases h
        · obtain ⟨a, ha, hdoc⟩ := exists_ownDoc_of_docAbove h
          exact ⟨a, List.mem_cons_of_mem _ ha, hdoc⟩

theorem exists_comment_of_nearestDoc {root : Node} {source : List Char} {c : Cursor} {doc : String}
    (hc : IsIn root c.node c.above) (h : c.nearestDoc? source = some doc) :
    ∃ path n, root.at? path = some n ∧ n.construct = .comment ∧ n.text source = doc := by
  obtain ⟨a, ha, hdoc⟩ := exists_ownDoc_of_docAbove h
  have hin : IsIn root a.node a.above := by
    rcases List.mem_cons.mp ha with rfl | ha
    · exact hc
    · exact hc.ancestors a ha
  obtain ⟨n, hn, hcomment, htext⟩ := exists_comment_of_docAmong hdoc
  obtain ⟨path, hpath⟩ := hin.exists_at? hn
  exact ⟨path, n, hpath, hcomment, htext⟩

end Cursor

/-! ### Where lifespans come from -/

namespace Declaration

variable {confirms : Capability → String → Bool} {source : List Char}

/-- A lifespan that is told by a comment of a tree. -/
def ToldIn (source : List Char) (root : Node) (a : Lifespan) : Prop :=
  ∃ path n, root.at? path = some n ∧ n.construct = .comment ∧ Lifespan.ofDoc? (n.text source) = some a

theorem exists_of_openGroup? {before : List Cursor} {doc : String}
    (h : openGroup? source before = some doc) :
    ∃ c ∈ before, c.node.construct = .comment ∧ c.node.text source = doc := by
  obtain ⟨c, hlast, hc⟩ := Option.bind_eq_some_iff.mp h
  obtain ⟨hmem, _⟩ := List.mem_filter.mp (List.mem_of_getLast? hlast)
  split at hc
  · next hopens =>
      rw [opensGroup, Bool.and_eq_true, decide_eq_true_eq] at hopens
      exact ⟨c, hmem, hopens.1, Option.some.inj hc⟩
  · cases hc

/-- **Every lifespan that is collected is told by a comment.** -/
theorem toldIn_of_collect {root : Node} {s : Symbol} {a : Lifespan}
    (h : (collect confirms source root).symbols.get? s = some a) : ToldIn source root a := by
  obtain ⟨k, ⟨c, hc, hdeclared⟩, _⟩ := ((tours_root root).1.get?_iff s a).mp h
  have hplace : c ∈ Cursor.places root := List.mem_of_getElem? hc
  have hannotation : annotation? source ((Cursor.places root).take k) c = some a := by
    unfold declared? at hdeclared
    split at hdeclared
    · cases hdeclared
    · split at hdeclared
      · next ha =>
          cases hdeclared
          exact ha
      · cases hdeclared
  rcases Option.or_eq_some_iff.mp hannotation with hgroup | ⟨_, hown⟩
  · obtain ⟨doc, hopen, hdoc⟩ := Option.bind_eq_some_iff.mp hgroup
    obtain ⟨d, hd, hcomment, rfl⟩ := exists_of_openGroup? hopen
    have hin := Cursor.isIn_of_mem_places (List.mem_of_mem_take hd)
    exact ⟨_, d.node, hin.at?_eq, hcomment, hdoc⟩
  · obtain ⟨doc, hnearest, hdoc⟩ := Option.bind_eq_some_iff.mp hown
    obtain ⟨path, n, hpath, hcomment, rfl⟩ :=
      Cursor.exists_comment_of_nearestDoc (Cursor.isIn_of_mem_places hplace) hnearest
    exact ⟨path, n, hpath, hcomment, hdoc⟩

end Declaration

/-! ### Indexes -/

namespace Index

/-- The comments in the files of a release have no digits but ASCII digits. -/
def PlainComments (grammar : Grammar) (fs : FileSystem) (root : Path) : Prop :=
  ∀ files, fs.phpFiles root [] = .ok files → ∀ file ∈ files, ∀ content,
    fs.readBytes file = .ok content → ∀ tree, grammar (Text.lossyText content) = .ok tree →
      ∀ path n, tree.at? path = some n → n.construct = .comment →
        Lifespan.PlainDigits (n.text (Text.lossyText content).toList)

/-- It is enough that the files have no other digits. -/
theorem plainComments_of_texts {grammar : Grammar} {fs : FileSystem} {root : Path} {files : List Path}
    (hlisted : fs.phpFiles root [] = .ok files)
    (h : ∀ file ∈ files, ∀ content, fs.readBytes file = .ok content →
      Lifespan.PlainDigits (Text.lossyText content)) : PlainComments grammar fs root := by
  intro files' hlisted' file hfile content hread _ _ _ n _ _ c hc
  obtain rfl : files = files' := Except.ok.inj (hlisted.symm.trans hlisted')
  exact h file hfile content hread c (Node.mem_of_mem_text hc)

/-- All lifespans of an index are read from doc comments with ASCII digits. -/
def IsPlain (i : Index) : Prop :=
  ∀ s a, i.get? s = some a → ∃ doc, Lifespan.PlainDigits doc ∧ Lifespan.ofDoc? doc = some a

variable {grammar : Grammar} {probe : Probe} {root : Path}

/-- **Every lifespan of an index is told by a comment of the release.** -/
theorem exists_comment_of_build {c : Cache SymbolTable} {σ : Session} {i : Index}
    (hc : CacheAgrees grammar probe σ.files root c)
    (h : ((build grammar probe root c).run σ).1.2 = .ok i) {s : Symbol} {a : Lifespan}
    (ha : i.get? s = some a) :
    ∃ files, σ.files.phpFiles root [] = .ok files ∧ ∃ file ∈ files, ∃ content,
      σ.files.readBytes file = .ok content ∧ ∃ tree, grammar (Text.lossyText content) = .ok tree ∧
        Declaration.ToldIn (Text.lossyText content).toList tree a := by
  obtain ⟨sources, hsources⟩ := sources_of_build h
  rw [run_build grammar probe c hsources] at h
  have hsymbols : i.symbols = (merged grammar probe c sources).symbols := by
    cases hversion : releaseVersion σ.files root with
    | error e =>
        rw [hversion] at h
        cases h
    | ok v =>
        rw [hversion] at h
        rw [← Except.ok.inj h]
  have hget : i.symbols.get? s = some a := ha
  rw [hsymbols, symbols_merged hc hsources, SymbolTable.get?_foldl_merge, SymbolTable.get?_empty,
    Option.or_none] at hget
  obtain ⟨file, hfile, htable⟩ := List.exists_of_findSome?_eq_some hget
  obtain ⟨table, hin, htold⟩ := Option.bind_eq_some_iff.mp htable
  refine ⟨_, hsources.listed, file, List.mem_reverse.mp hfile, ?_⟩
  unfold tableIn? at hin
  split at hin
  · cases hin
  · next content hread =>
      refine ⟨content, hread, ?_⟩
      unfold declared at hin
      cases htree : grammar (Text.lossyText content) with
      | error e =>
          rw [htree] at hin
          cases hin
      | ok tree =>
          rw [htree] at hin
          cases hin
          exact ⟨tree, rfl, Declaration.toldIn_of_collect htold⟩

theorem isPlain_of_build {c : Cache SymbolTable} {σ : Session} {i : Index}
    (hc : CacheAgrees grammar probe σ.files root c) (hplain : PlainComments grammar σ.files root)
    (h : ((build grammar probe root c).run σ).1.2 = .ok i) : i.IsPlain := by
  intro s a ha
  obtain ⟨files, hlisted, file, hfile, content, hread, tree, htree, path, n, hn, hcomment, hdoc⟩ :=
    exists_comment_of_build hc h ha
  exact ⟨_, hplain files hlisted file hfile content hread tree htree path n hn hcomment, hdoc⟩

end Index

theorem SymbolTable.eq_of_get?_insert_empty {s t : Symbol} {a b : Lifespan}
    (h : (empty.insert s a).get? t = some b) : b = a := by
  by_cases ht : t = s
  · rw [ht, get?_insert_self] at h
    exact (Option.some.inj h).symm
  · rw [get?_insert_of_ne _ _ ht, get?_empty] at h
    cases h

/-! ### Scans -/

namespace Scanner

/-- What a scan of files reports is what comes of recording uses, file by file. -/
theorem foldFiles_report (s : Scanner) (root : Path) : ∀ (files : List Path)
    (cache : Cache (List Usage)) (r : Report) (σ : Session) (r' : Report),
      ((s.foldFiles root files cache r).run σ).1.2 = .ok r' →
        ∃ us : List (String × Usage), r' = r.recordAll (us.flatMap (fun u => s.uses u.1 u.2))
  | [], cache, r, σ, r', h => ⟨[], (Except.ok.inj h).symm⟩
  | file :: rest, cache, r, σ, r', h => by
      unfold foldFiles at h
      rw [Action.run_bind, show Action.files.run σ = (σ.files, σ) from rfl] at h
      dsimp only at h
      cases hread : σ.files.readBytes file with
      | error e =>
          rw [hread] at h
          cases h
      | ok content =>
          rw [hread, Action.run_bind] at h
          rcases hx : (cache.getOrExtract file content
            (extract s.grammar (Text.lossyText content))).run σ with ⟨⟨cache', e | us⟩, σ'⟩
          · rw [hx, Action.run_bind] at h
            exact foldFiles_report s root rest _ _ _ _ h
          · rw [hx, Action.run_bind] at h
            obtain ⟨vs, hvs⟩ := foldFiles_report s root rest _ _ _ _ h
            refine ⟨us.map (file.relativeTo root, ·) ++ vs, ?_⟩
            rw [hvs, foldUsages_report, List.flatMap_append, Report.recordAll_append, List.flatMap_map]

theorem scan_report {s : Scanner} {root : Path} {cache : Cache (List Usage)} {σ : Session}
    {r : Report} (h : ((s.scan root cache).run σ).1.2 = .ok r) : ∃ us : List (String × Usage),
      r = (Report.start s.floor).recordAll (us.flatMap (fun u => s.uses u.1 u.2)) := by
  unfold scan at h
  rw [Action.run_bind, Action.run_bind] at h
  split at h
  · cases h
  · next files _ =>
      rw [Action.run_bind] at h
      split at h
      next cache' outcome hfold =>
        cases outcome with
        | error e => cases h
        | ok r' =>
            obtain rfl : r' = r := Except.ok.inj h
            exact foldFiles_report s root files cache _ _ _ (by rw [hfold])

/-- The uses that are recorded have lifespans of the index. -/
theorem exists_get?_of_mem_uses {s : Scanner} {file : String} {u : Usage} {use : Use}
    (h : use ∈ s.uses file u) : ∃ t, s.index.get? t = some use.lifespan := by
  obtain ⟨⟨t, a⟩, hhit, rfl⟩ := List.mem_map.mp h
  rcases Index.mem_resolve hhit with hget | ⟨owner, name, _, _, hget⟩
  · exact ⟨t, hget⟩
  · exact ⟨_, hget⟩

/-- The minimum that a scan reports is the floor, or a greater version of the index. -/
theorem minimum_scan {s : Scanner} {root : Path} {cache : Cache (List Usage)} {σ : Session}
    {r : Report} (h : ((s.scan root cache).run σ).1.2 = .ok r) :
    r.minimum = s.floor ∨ (compare s.floor r.minimum).isLE ∧
      ∃ t a, s.index.get? t = some a ∧ r.minimum = a.since := by
  obtain ⟨us, rfl⟩ := scan_report h
  rw [Report.minimum_recordAll]
  rcases List.mem_cons.mp (Version.joinAll_mem (Report.start s.floor).minimum _) with hfloor | hsince
  · exact .inl hfloor
  · obtain ⟨use, huse, heq⟩ := List.mem_map.mp hsince
    obtain ⟨u, _, hu⟩ := List.mem_flatMap.mp huse
    obtain ⟨t, ht⟩ := exists_get?_of_mem_uses hu
    exact .inr ⟨Version.isLE_joinAll List.mem_cons_self, t, use.lifespan, ht, heq.symm⟩

/-- A floor above all versions of the index stays the minimum. -/
theorem minimum_scan_eq_floor {s : Scanner} {root : Path} {cache : Cache (List Usage)} {σ : Session}
    {r : Report} (h : ((s.scan root cache).run σ).1.2 = .ok r)
    (hbelow : ∀ t a, s.index.get? t = some a → compare s.floor a.since = .gt) : r.minimum = s.floor := by
  rcases minimum_scan h with hfloor | ⟨hle, t, a, ht, hmin⟩
  · exact hfloor
  · rw [hmin, hbelow t a ht] at hle
    cases hle

theorem isPrerelease_floor {s : Scanner} (hindex : s.index.IsPlain) {root : Path}
    {cache : Cache (List Usage)} {σ : Session} {r : Report}
    (h : ((s.scan root cache).run σ).1.2 = .ok r) (hpre : r.minimum.isPrerelease = true) :
    s.floor.isPrerelease = true := by
  rcases minimum_scan h with hfloor | ⟨_, t, a, ht, hsince⟩
  · rwa [← hfloor]
  · obtain ⟨doc, hdoc, ha⟩ := hindex t a ht
    rw [hsince, (Lifespan.releases_of_plainDigits hdoc ha).1] at hpre
    cases hpre

end Scanner

/-! ### Doc comments -/

namespace Lifespan

/-- **A doc comment tells what its first tags that count name.**  There is a lifespan exactly if the
token behind the leftmost `@since` that counts starts with an ASCII digit and its numbers fit; its
version has these numbers, and is a pre-release exactly if a digit beyond ASCII is in the token.  The
version of the deprecation comes from `@deprecated` in the same way, and is missing where that gives
none.  So doc comments with ASCII digits only tell of no pre-releases, an index that is built from such
comments has its lifespans from them, and with such an index a scan reports a pre-release only if the
floor is one. -/
theorem ofDoc?_reads_tags :
    (∀ doc, TagGives "@since" doc ((ofDoc? doc).map since)) ∧
    (∀ doc a, ofDoc? doc = some a → TagGives "@deprecated" doc a.deprecated) ∧
    (∀ doc a, PlainDigits doc → ofDoc? doc = some a →
      a.since.isPrerelease = false ∧ ∀ v, a.deprecated = some v → v.isPrerelease = false) ∧
    (∀ (grammar : Grammar) (probe : Probe) (root : Path) (c : Cache SymbolTable) (σ : Session)
      (i : Index), Index.CacheAgrees grammar probe σ.files root c →
        Index.PlainComments grammar σ.files root →
          ((Index.build grammar probe root c).run σ).1.2 = .ok i → i.IsPlain) ∧
    (∀ (s : Scanner) (root : Path) (c : Cache (List Usage)) (σ : Session) (r : Report),
      s.index.IsPlain → ((s.scan root c).run σ).1.2 = .ok r →
        r.minimum.isPrerelease = true → s.floor.isPrerelease = true) := by
  refine ⟨fun doc => ?_, fun doc a h => ?_, fun doc a hdoc h => releases_of_plainDigits hdoc h,
    fun _ _ _ _ _ _ hc hplain h => Index.isPlain_of_build hc hplain h,
    fun _ _ _ _ _ hindex h hpre => Scanner.isPrerelease_floor hindex h hpre⟩
  · rw [map_since_ofDoc?]
    exact tagGives "@since" doc
  · rw [deprecated_of_ofDoc? h]
    exact tagGives "@deprecated" doc

/-- A call of the function `f`. -/
def calledFunction : Node :=
  ⟨"program", true, "", 0, 4, [⟨"function_call_expression", true, "", 0, 3,
    [⟨"name", true, "function", 0, 1, []⟩, ⟨"arguments", true, "arguments", 1, 3, []⟩]⟩]⟩

/-- A tag without a number is passed over, one with too great a number is not.  A release documents a
function in ASCII digits, and a plugin that calls it is scanned with a pre-release as the floor. -/
theorem ofDoc?_reads_tags_great_number :
    let doc := "@since MU (3.0) @since\u00a06.1. @deprecated 99999999999999999999 @deprecated 6.5"
    let text := "/** @since 5.0 */ function f()"
    let grammar : Grammar := fun t =>
      if t = text then .ok Declaration.annotatedFunction
      else if t = "f();" then .ok calledFunction else .error ⟨""⟩
    let probe := Probe.fixed (.ofNames [] [] [])
    let fs := ((((((FileSystem.empty.put ["r"] .directory).put ["r", "a.php"]
      (.file (.bytes text.toUTF8))).put ["r", "wp-includes"] .directory).put
        ["r", "wp-includes", "version.php"] (.file (.bytes "$wp_version = '6.7';".toUTF8))).put
          ["p"] .directory).put ["p", "c.php"] (.file (.bytes "f();".toUTF8)))
    let built : Index :=
      ⟨some ⟨[6, 7], none⟩, SymbolTable.empty.insert (.function "f") ⟨⟨[5, 0], none⟩, none⟩⟩
    let scanner : Scanner := ⟨grammar, built, ⟨[7], some ⟨.beta, 1, "beta1"⟩⟩, [], false⟩
    (PlainDigits doc ∧ ofDoc? doc = some ⟨⟨[6, 1], none⟩, none⟩ ∧
      (∃ token, FirstToken "@since".toList doc.toList token ∧ Fits token ∧
        ReadAs token ⟨[6, 1], none⟩) ∧
      ¬∃ token, FirstToken "@deprecated".toList doc.toList token ∧ Fits token) ∧
    (Index.CacheAgrees grammar probe fs ⟨"r"⟩ .inMemory ∧ Index.PlainComments grammar fs ⟨"r"⟩ ∧
      ((Index.build grammar probe ⟨"r"⟩ .inMemory).run (.start fs)).1.2 = .ok built ∧ built.IsPlain) ∧
    ∃ r, ((scanner.scan ⟨"p"⟩ .inMemory).run (.start fs)).1.2 = .ok r ∧
      (r.get? (.function "f")).isSome = true ∧ r.minimum.isPrerelease = true ∧
        scanner.floor.isPrerelease = true := by
  intro doc text grammar probe fs built scanner
  obtain ⟨hsince, hdeprecated, _, hbuilds, hscans⟩ := ofDoc?_reads_tags
  have hdoc : ofDoc? doc = some ⟨⟨[6, 1], none⟩, none⟩ := by decide +kernel
  have hc : Index.CacheAgrees grammar probe fs ⟨"r"⟩ .inMemory := Index.cacheAgrees_of_empty rfl
  have hplain : Index.PlainComments grammar fs ⟨"r"⟩ := by
    refine Index.plainComments_of_texts
      (show fs.phpFiles ⟨"r"⟩ [] = .ok [⟨"r/a.php"⟩, ⟨"r/wp-includes/version.php"⟩] by decide +kernel) ?_
    intro file hfile content hcontent
    have htexts : ∀ f ∈ [Path.mk "r/a.php", ⟨"r/wp-includes/version.php"⟩],
        (fs.readBytes f).toOption.all (fun content => decide (PlainDigits (Text.lossyText content))) = true := by
      decide +kernel
    simpa [hcontent, Except.toOption] using htexts file hfile
  have hbuild : ((Index.build grammar probe ⟨"r"⟩ .inMemory).run (.start fs)).1.2 = .ok built := by
    decide +kernel
  have hbuilt : built.IsPlain := hbuilds _ _ _ _ (.start fs) _ hc hplain hbuild
  refine ⟨⟨by decide +kernel, hdoc, ?_, ?_⟩, ⟨hc, hplain, hbuild, hbuilt⟩, ?_⟩
  · obtain ⟨token, hfirst, hfits⟩ := (hsince doc).isSome_iff.mp (by rw [hdoc]; rfl)
    exact ⟨token, hfirst, hfits, (hsince doc).readAs _ token (by rw [hdoc]; rfl) hfirst⟩
  · rw [← (hdeprecated doc _ hdoc).isSome_iff]
    decide
  · have hused : ((scanner.scan ⟨"p"⟩ .inMemory).run (.start fs)).1.2.toOption.any
        (fun r => (r.get? (.function "f")).isSome) = true := by decide +kernel
    rcases hscan : ((scanner.scan ⟨"p"⟩ .inMemory).run (.start fs)).1.2 with e | r
    · rw [hscan] at hused
      cases hused
    · rw [hscan] at hused
      have hminimum : r.minimum = scanner.floor := Scanner.minimum_scan_eq_floor hscan (fun t a ht => by
        rw [SymbolTable.eq_of_get?_insert_empty ht]
        cbv)
      have hpre : r.minimum.isPrerelease = true := by
        rw [hminimum]
        rfl
      exact ⟨r, rfl, hused, hpre, hscans scanner ⟨"p"⟩ .inMemory (.start fs) r hbuilt hscan hpre⟩

end Lifespan

end RequiredVersion
