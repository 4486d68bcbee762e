import Mathlib.Data.List.TakeWhile
import RequiredVersion.FileSystem.Basic
import RequiredVersion.Proofs.Text

/-! # The names in a path

What the resolution of a path goes by are its names: the pieces between its slashes, without the
empty ones.  Joining puts the names of one path behind those of the other (`names_join`), and the
names of the path above are a first part of the names of a path (`names_parent?`). -/

namespace RequiredVersion

namespace Path

/-- The names of a path. -/
def names (p : Path) : List String := (p.pieces.filter (· != [])).map String.ofList

/-! ### Absolute paths -/

theorem isAbsolute_iff (p : Path) :
    p.isAbsolute = true ↔ ∃ piece rest, p.pieces = [] :: piece :: rest := by
  unfold isAbsolute pieces
  cases htext : p.text.toList with
  | nil => simp [Text.splitAt]
  | cons c cs =>
      rw [Text.splitAt, List.head?_cons]
      by_cases hc : c = '/'
      · subst hc
        obtain ⟨piece, rest, hs⟩ := List.exists_cons_of_ne_nil (Text.splitAt_ne_nil '/' cs)
        simp [hs]
      · cases hs : Text.splitAt '/' cs with
        | nil => exact absurd hs (Text.splitAt_ne_nil '/' cs)
        | cons piece rest => simp [hc]

theorem isAbsolute_eq {p q : Path}
    (h : (∃ piece rest, q.pieces = [] :: piece :: rest) ↔
      ∃ piece rest, p.pieces = [] :: piece :: rest) : q.isAbsolute = p.isAbsolute := by
  rw [Bool.eq_iff_iff, isAbsolute_iff, isAbsolute_iff]
  exact h

theorem pieces_ofPieces {ps : List (List Char)} (hne : ps ≠ []) (h : ∀ piece ∈ ps, '/' ∉ piece) :
    (ofPieces ps).pieces = ps := by
  rw [pieces, ofPieces, String.toList_ofList]
  exact Text.splitAt_intercalate hne h

theorem ofPieces_pieces (p : Path) : ofPieces p.pieces = p := by
  have h : (p.pieces.intersperse ['/']).flatten = p.text.toList := by
    rw [pieces, Text.splitAt_eq_splitOn]
    exact List.intercalate_splitOn '/'
  rw [ofPieces, h, String.ofList_toList]

theorem pieces_ne_nil (p : Path) : p.pieces ≠ [] := Text.splitAt_ne_nil _ _

/-! ### Joining -/

theorem names_of_pieces_append {p q r : Path} (h : r.pieces = p.pieces ++ q.pieces) :
    r.names = p.names ++ q.names := by
  rw [names, h, List.filter_append, List.map_append]
  rfl

theorem names_of_text_empty {p : Path} (h : p.text.toList = []) : p.names = [] := by
  rw [names, pieces, h]
  rfl

theorem pieces_of_slash {cs ds : List Char} :
    (Text.splitAt '/' (cs ++ '/' :: ds)).filter (· != []) =
      (Text.splitAt '/' (cs ++ ['/'])).filter (· != []) ++
        (Text.splitAt '/' ds).filter (· != []) := by
  rw [Text.splitAt_append_cons, Text.splitAt_append_cons, List.filter_append, List.filter_append]
  simp [Text.splitAt]

/-- The names of a relative path are put behind those of the path it is joined to. -/
theorem names_join {p q : Path} (hq : q.isAbsolute = false) :
    (p.join q).names = p.names ++ q.names := by
  unfold join
  rw [hq, Bool.false_or]
  by_cases hempty : p.text.isEmpty = true
  · rw [if_pos hempty, names_of_text_empty (p := p), List.nil_append]
    rw [String.toList_eq_nil_iff]
    exact String.isEmpty_iff.mp hempty
  · rw [if_neg hempty]
    by_cases hslash : p.text.toList.getLast? = some '/'
    · obtain ⟨cs, hcs⟩ := List.getLast?_eq_some_iff.mp hslash
      rw [if_pos hslash, names, names, names, pieces, pieces, pieces, String.toList_append, hcs,
        List.append_assoc, List.singleton_append, pieces_of_slash, List.map_append]
    · rw [if_neg hslash]
      apply names_of_pieces_append
      rw [pieces, pieces, pieces, String.toList_append, String.toList_append, List.append_assoc]
      exact Text.splitAt_append_cons '/' _ _

theorem isAbsolute_join {p q : Path} (hq : q.isAbsolute = false) :
    (p.join q).isAbsolute = p.isAbsolute := by
  unfold join
  rw [hq, Bool.false_or]
  by_cases hempty : p.text.isEmpty = true
  · have hp : p.text = "" := String.isEmpty_iff.mp hempty
    rw [if_pos hempty, hq, isAbsolute, hp]
    rfl
  · rw [if_neg hempty]
    have hne : p.text.toList ≠ [] := by
      rw [ne_eq, String.toList_eq_nil_iff]
      exact fun h => hempty (String.isEmpty_iff.mpr h)
    obtain ⟨c, cs, hcs⟩ := List.exists_cons_of_ne_nil hne
    split <;> simp [isAbsolute, String.toList_append, hcs]

theorem getLast?_join {p q : Path} (hq : q.text.toList ≠ []) :
    (p.join q).text.toList.getLast? = q.text.toList.getLast? := by
  unfold join
  split
  · rfl
  · split
    · rw [String.toList_append]
      exact Text.getLast?_of_suffix (List.suffix_append _ _) hq
    · rw [String.toList_append]
      exact Text.getLast?_of_suffix (List.suffix_append _ _) hq

theorem isEmpty_joinText {p : Path} {x : String} (hx : x ≠ "") :
    (p.joinText x).text.isEmpty = false := by
  have hchars : x.toList ≠ [] := fun h => hx (String.toList_eq_nil_iff.mp h)
  have hlast : (p.joinText x).text.toList.getLast? = x.toList.getLast? := getLast?_join hchars
  rw [Bool.eq_false_iff]
  intro hempty
  rw [String.isEmpty_iff.mp hempty, List.getLast?_eq_some_getLast hchars] at hlast
  cases hlast

theorem names_of_not_mem {x : String} (hslash : '/' ∉ x.toList) (hne : x ≠ "") :
    names ⟨x⟩ = [x] := by
  have hchars : x.toList ≠ [] := fun h => hne (String.toList_eq_nil_iff.mp h)
  rw [names, pieces, Text.splitAt_of_not_mem hslash]
  simp [hchars]

theorem isAbsolute_of_not_mem {x : String} (hslash : '/' ∉ x.toList) :
    isAbsolute ⟨x⟩ = false := by
  rw [isAbsolute, beq_eq_false_iff_ne]
  exact fun h => hslash (List.mem_of_head? h)

theorem getLast?_components {p : Path} {piece : List Char} (h : p.pieces.getLast? = some piece)
    (hidle : isIdle piece = false) : p.components.getLast? = some (String.ofList piece) := by
  unfold components
  match hp : p.pieces with
  | [] => exact absurd hp p.pieces_ne_nil
  | [only] =>
      rw [hp] at h
      obtain rfl : only = piece := Option.some.inj h
      have hne : only ≠ [] := fun e => by
        rw [e] at hidle
        cases hidle
      simp [hne]
  | first :: second :: rest =>
      rw [hp, List.getLast?_cons_cons] at h
      obtain ⟨init, hinit⟩ := List.getLast?_eq_some_iff.mp h
      have hbelow : (((second :: rest).filter (fun c => !isIdle c)).map String.ofList).getLast? =
          some (String.ofList piece) := by
        rw [hinit, List.filter_append, List.filter_cons_of_pos (by simp [hidle]), List.map_append]
        exact List.getLast?_concat
      dsimp only
      split
      · exact hbelow
      · rw [List.getLast?_cons, hbelow]
        rfl

/-! ### The path above -/

theorem prefix_trimPieces : ∀ ps : List (List Char), trimPieces ps <+: ps
  | [] => List.prefix_refl _
  | first :: rest => by
      rw [trimPieces, List.prefix_cons_inj]
      have h := List.dropWhile_suffix isIdle (l := rest.reverse)
      have hrev := List.reverse_prefix.mpr h
      rwa [List.reverse_reverse] at hrev

theorem trimPieces_concat {last : List Char} (hidle : isIdle last = false) :
    ∀ init : List (List Char), trimPieces (init ++ [last]) = init ++ [last]
  | [] => rfl
  | first :: rest => by
      rw [List.cons_append, trimPieces, List.reverse_concat,
        List.dropWhile_cons_of_neg (by simp [hidle]), List.reverse_cons, List.reverse_reverse]

theorem prefix_names_of_pieces {p q : Path} (h : q.pieces <+: p.pieces) : q.names <+: p.names := by
  obtain ⟨rest, hrest⟩ := h
  exact ⟨(rest.filter (· != [])).map String.ofList, by
    rw [names, names, ← hrest, List.filter_append, List.map_append]⟩

/-- The pieces of the path above, as long as they are not the root or nothing. -/
theorem pieces_above (p : Path) : trimPieces (trimPieces p.pieces).dropLast <+: p.pieces :=
  (prefix_trimPieces _).trans ((List.dropLast_prefix _).trans (prefix_trimPieces _))

theorem isAbsolute_of_prefix_pieces {p q : Path} (h : q.pieces <+: p.pieces)
    (hne : q.pieces ≠ [[]]) : q.isAbsolute = p.isAbsolute := by
  obtain ⟨rest, hrest⟩ := h
  apply isAbsolute_eq
  rw [← hrest]
  match hq : q.pieces with
  | [] => exact absurd hq q.pieces_ne_nil
  | [first] =>
      have hfirst : first ≠ [] := fun h => hne (by rw [hq, h])
      simp [hfirst]
  | first :: second :: more => simp

theorem isAbsolute_of_head_nil {p : Path} (hc : p.components.isEmpty = false)
    (h : p.pieces.head? = some []) : p.isAbsolute = true := by
  rw [isAbsolute_iff]
  match hp : p.pieces with
  | [] => exact absurd hp p.pieces_ne_nil
  | [first] =>
      rw [hp, List.head?_cons] at h
      have hfirst : first = [] := Option.some.inj h
      rw [components, hp, hfirst] at hc
      exact absurd hc (by decide)
  | first :: second :: more =>
      rw [hp, List.head?_cons] at h
      exact ⟨second, more, by rw [Option.some.inj h]⟩

theorem above_ne_nil {p : Path} (hc : p.components.isEmpty = false) (h : p.isAbsolute = true) :
    trimPieces (trimPieces p.pieces).dropLast ≠ [] := by
  obtain ⟨piece, rest, hp⟩ := (isAbsolute_iff p).mp h
  have htrimmed : ((piece :: rest).reverse.dropWhile isIdle).reverse ≠ [] := by
    intro hnil
    rw [List.reverse_eq_nil_iff, List.dropWhile_eq_nil_iff] at hnil
    have hidle : (piece :: rest).filter (fun c => !isIdle c) = [] := by
      rw [List.filter_eq_nil_iff]
      intro c hmem
      simpa using hnil c (List.mem_reverse.mpr hmem)
    rw [components, hp] at hc
    simp only [hidle] at hc
    exact absurd hc (by decide)
  rw [hp, trimPieces, List.dropLast_cons_of_ne_nil htrimmed, trimPieces]
  exact List.cons_ne_nil _ _

/-- **The names of the path above are the first names of a path**, and it starts where the path
does. -/
theorem names_parent? {p q : Path} (h : p.parent? = some q) :
    q.names <+: p.names ∧ q.isAbsolute = p.isAbsolute := by
  unfold parent? at h
  by_cases hc : p.components.isEmpty = true
  · rw [if_pos hc] at h
    cases h
  · rw [if_neg hc] at h
    have hsome : p.components.isEmpty = false := by simpa using hc
    have hinitial := pieces_above p
    have hnil := above_ne_nil hsome
    have hclean : ∀ piece ∈ trimPieces (trimPieces p.pieces).dropLast, '/' ∉ piece :=
      fun piece hpiece => Text.not_mem_of_mem_splitAt '/' (hinitial.subset hpiece)
    generalize trimPieces (trimPieces p.pieces).dropLast = ps at h hinitial hclean hnil
    split at h
    · have hhead : p.pieces.head? = some [] := by
        obtain ⟨rest, hrest⟩ := hinitial
        rw [← hrest]
        rfl
      have habs := isAbsolute_of_head_nil hsome hhead
      rw [if_pos habs] at h
      obtain rfl := Option.some.inj h
      rw [habs]
      exact ⟨List.nil_prefix, rfl⟩
    · next hne =>
        obtain rfl := Option.some.inj h
        by_cases hps : ps = []
        · subst hps
          have habs : p.isAbsolute = false := by
            rw [Bool.eq_false_iff]
            exact fun h => hnil h rfl
          rw [habs]
          exact ⟨List.nil_prefix, rfl⟩
        · have hpieces := pieces_ofPieces hps hclean
          rw [← hpieces] at hinitial hne
          exact ⟨prefix_names_of_pieces hinitial, isAbsolute_of_prefix_pieces hinitial hne⟩

/-! ### The path above a name -/

/-- A name behind a path is its last piece; a path that does not end in a slash keeps its own
pieces. -/
theorem pieces_joinText {p : Path} {x : String} (hslash : '/' ∉ x.toList) :
    ∃ init, (p.joinText x).pieces = init ++ [x.toList] ∧
      (p.text.isEmpty = false → p.text.toList.getLast? ≠ some '/' → init = p.pieces) := by
  unfold joinText join
  rw [isAbsolute_of_not_mem hslash, Bool.false_or]
  split
  · next hempty =>
      refine ⟨[], Text.splitAt_of_not_mem hslash, fun hne => ?_⟩
      rw [hempty] at hne
      cases hne
  · split
    · next hlast =>
        obtain ⟨init, hinit⟩ := List.getLast?_eq_some_iff.mp hlast
        refine ⟨Text.splitAt '/' init, ?_, fun _ hne => absurd hlast hne⟩
        rw [pieces, String.toList_append, hinit, List.append_assoc, List.singleton_append,
          Text.splitAt_append_cons, Text.splitAt_of_not_mem hslash]
    · refine ⟨p.pieces, ?_, fun _ _ => rfl⟩
      rw [pieces, String.toList_append, String.toList_append, List.append_assoc]
      change Text.splitAt '/' (p.text.toList ++ '/' :: x.toList) = _
      rw [Text.splitAt_append_cons, Text.splitAt_of_not_mem hslash, pieces]

/-- The path of the given pieces, for the path above another one. -/
def above (absolute : Bool) : List (List Char) → Path
  | [[]] => if absolute then ⟨"/"⟩ else ⟨""⟩
  | ps => ofPieces ps

theorem names_above {absolute : Bool} {ps : List (List Char)} (h : ∀ piece ∈ ps, '/' ∉ piece) :
    (above absolute ps).names = (ps.filter (· != [])).map String.ofList := by
  unfold above
  split
  · cases absolute <;> rfl
  · by_cases hps : ps = []
    · rw [hps]
      rfl
    · rw [names, pieces_ofPieces hps h]

theorem parent?_of_concat {p : Path} {init : List (List Char)} {last : List Char}
    (hp : p.pieces = init ++ [last]) (hidle : isIdle last = false) :
    p.parent? = some (above p.isAbsolute (trimPieces init)) := by
  have hcomponents : p.components.isEmpty = false := by
    have hlast := getLast?_components (by rw [hp, List.getLast?_concat]) hidle
    rw [List.isEmpty_eq_false_iff]
    intro hnil
    rw [hnil] at hlast
    cases hlast
  rw [parent?, hcomponents, if_neg (by simp), hp, trimPieces_concat hidle, List.dropLast_concat]
  generalize trimPieces init = ps
  split
  · rw [above]
    split <;> rfl
  · next hne => rw [above.eq_2 _ _ hne]

theorem isIdle_toList {x : String} (hne : x ≠ "") (hdot : x ≠ ".") : isIdle x.toList = false := by
  rw [isIdle, Bool.or_eq_false_iff, beq_eq_false_iff_ne, beq_eq_false_iff_ne]
  refine ⟨fun h => hne (String.toList_eq_nil_iff.mp h), fun h => hdot ?_⟩
  rw [← String.toList_inj, h]
  rfl

/-- The path above a name behind a path goes no further than the path. -/
theorem names_parent?_joinText {p q : Path} {x : String} (hne : x ≠ "") (hdot : x ≠ ".")
    (hslash : '/' ∉ x.toList) (h : (p.joinText x).parent? = some q) : q.names <+: p.names := by
  obtain ⟨init, hpieces, _⟩ := pieces_joinText (p := p) hslash
  have hinit : (init.filter (· != [])).map String.ofList = p.names := by
    have hnames := names_join (p := p) (isAbsolute_of_not_mem hslash)
    have hchars : x.toList ≠ [] := fun e => hne (String.toList_eq_nil_iff.mp e)
    change (p.joinText x).names = _ at hnames
    rw [names_of_not_mem hslash hne, names, hpieces, List.filter_append, List.map_append] at hnames
    refine (List.append_inj' hnames ?_).1
    simp [hchars]
  have hclean : ∀ piece ∈ trimPieces init, '/' ∉ piece := by
    intro piece hpiece
    have hmem : piece ∈ (p.joinText x).pieces := by
      rw [hpieces]
      exact List.mem_append_left _ ((prefix_trimPieces init).subset hpiece)
    exact Text.not_mem_of_mem_splitAt '/' hmem
  rw [parent?_of_concat hpieces (isIdle_toList hne hdot)] at h
  obtain rfl := Option.some.inj h
  rw [names_above hclean, ← hinit]
  exact ((prefix_trimPieces init).filter _).map _

theorem parent?_joinText {p : Path} {x y : String} (hx : x ≠ "" ∧ x ≠ "." ∧ '/' ∉ x.toList)
    (hy : y ≠ "" ∧ y ≠ "." ∧ '/' ∉ y.toList) :
    ((p.joinText x).joinText y).parent? = some (p.joinText x) := by
  have hchars : x.toList ≠ [] := fun e => hx.1 (String.toList_eq_nil_iff.mp e)
  have hlast : (p.joinText x).text.toList.getLast? ≠ some '/' := by
    rw [joinText, getLast?_join hchars]
    exact fun e => hx.2.2 (List.mem_of_getLast? e)
  obtain ⟨init, hpieces, hinit⟩ := pieces_joinText (p := p.joinText x) hy.2.2
  obtain rfl := hinit (isEmpty_joinText hx.1) hlast
  obtain ⟨init, hbefore, _⟩ := pieces_joinText (p := p) hx.2.2
  rw [parent?_of_concat hpieces (isIdle_toList hy.1 hy.2.1), hbefore,
    trimPieces_concat (isIdle_toList hx.1 hx.2.1), ← hbefore, above]
  · rw [ofPieces_pieces]
  · intro hempty
    have hnil := congrArg List.getLast? (hbefore.symm.trans hempty)
    rw [List.getLast?_concat] at hnil
    exact hchars (Option.some.inj hnil)

end Path

end RequiredVersion
