import RequiredVersion.Proofs.VersionGrammar
import RequiredVersion.Proofs.VersionOrder

/-! # The order of pre-releases

The stage and the number of a pre-release are read off the text of its suffix.  For a text that is a
label, dashes or dots, and a number (`Suffix.Reads`) they are what the label and the number say, in
whatever case the label is written (`Suffix.rank_and_number`).

So versions compare by their numbers, padded with zeros; where these are the same a pre-release comes
before the release, and two pre-releases compare by how far their labels have got and then by their
numbers (`Version.compare_by_stages`). -/

namespace RequiredVersion

/-! ### Lower case -/

namespace Text

theorem toLower_eq_or (c : Char) :
    c.toLower = c ∨ (65 ≤ c.toNat ∧ c.toNat ≤ 90) ∧ c.toLower.toNat = c.toNat + 32 := by
  by_cases h : c.isUpper = true
  · have hupper : 65 ≤ c.toNat ∧ c.toNat ≤ 90 := by
      simpa [Char.isUpper, UInt32.le_iff_toNat_le] using h
    have hvalid : (c.toNat + 32).isValidChar := .inl (by omega)
    refine .inr ⟨hupper, ?_⟩
    rw [Char.toLower_eq_of_isUpper h, Char.toNat_ofNat, if_pos hvalid]
  · exact .inl (Char.toLower_eq_of_not_isUpper h)

theorem isDigit_toLower (c : Char) : c.toLower.isDigit = c.isDigit := by
  rcases toLower_eq_or c with h | ⟨hupper, h⟩
  · rw [h]
  · rw [Bool.eq_iff_iff, isDigit_iff, isDigit_iff]
    omega

theorem toLower_eq_self {c : Char} (h : c.toNat < 65) : c.toLower = c := by
  rcases toLower_eq_or c with hc | ⟨hupper, _⟩
  · exact hc
  · omega

/-- The characters that may stand around a label. -/
def isJoint (c : Char) : Bool := c == '-' || c == '.'

theorem isJoint_toLower (c : Char) : isJoint c.toLower = isJoint c := by
  rcases toLower_eq_or c with h | ⟨hupper, h⟩
  · rw [h]
  · have hne : ∀ d : Char, d.toNat < 65 → c.toLower ≠ d ∧ c ≠ d := by
      intro d hd
      constructor <;> rintro rfl <;> omega
    have hdash := hne '-' (by decide)
    have hdot := hne '.' (by decide)
    rw [isJoint, isJoint, beq_false_of_ne hdash.1, beq_false_of_ne hdash.2, beq_false_of_ne hdot.1,
      beq_false_of_ne hdot.2]

theorem lowerAscii_eq_self {cs : List Char} (h : ∀ c ∈ cs, c.toNat < 65) : lowerAscii cs = cs := by
  rw [lowerAscii, List.map_congr_left (fun c hc => toLower_eq_self (h c hc)), List.map_id']

end Text

/-! ### Labels -/

namespace Suffix

/-- The labels of the stages, from the least mature stage on. -/
def stageLabels : List (List String) := [["dev"], ["alpha", "a"], ["beta", "b"], ["rc"]]

/-- How far a label has got, in letters of either case: the place of its stage, and behind them all for
any other label. -/
def maturity (label : List Char) : Nat :=
  stageLabels.findIdx (fun names => decide (String.ofList (Text.lowerAscii label) ∈ names))

theorem rank_ofLabel (label : List Char) :
    (Stage.ofLabel (String.ofList (Text.lowerAscii label))).rank = maturity label := by
  unfold maturity
  generalize String.ofList (Text.lowerAscii label) = name
  by_cases hdev : name = "dev"
  · rw [hdev]
    decide
  by_cases halpha : name = "alpha" ∨ name = "a"
  · rcases halpha with rfl | rfl <;> decide
  by_cases hbeta : name = "beta" ∨ name = "b"
  · rcases hbeta with rfl | rfl <;> decide
  by_cases hrc : name = "rc"
  · rw [hrc]
    decide
  · rw [Stage.ofLabel, if_neg hdev, if_neg halpha, if_neg hbeta, if_neg hrc]
    simp only [not_or] at halpha hbeta
    simp [stageLabels, List.findIdx_cons, hdev, halpha, hbeta, hrc, Stage.rank]

/-- A suffix text is a label, then dashes or dots, and then a number, which may be missing for zero. -/
def Reads (raw label : List Char) (number : Nat) : Prop :=
  ∃ joints digits, raw = label ++ joints ++ digits ∧
    (∀ c ∈ label, c.isDigit = false) ∧ (∀ c, label.getLast? = some c → c ≠ '-' ∧ c ≠ '.') ∧
    (∀ c ∈ joints, c = '-' ∨ c = '.') ∧ (∀ c ∈ digits, c.isDigit = true) ∧
    Text.natOfDigits digits = number

theorem trimWhile_isJoint {label joints : List Char}
    (hhead : ∀ c, label.head? = some c → Text.isJoint c = false)
    (hlast : ∀ c, label.getLast? = some c → Text.isJoint c = false)
    (hjoints : ∀ c ∈ joints, Text.isJoint c = true) :
    Text.trimWhile Text.isJoint (label ++ joints) = label := by
  unfold Text.trimWhile
  cases label with
  | nil =>
      rw [List.nil_append, List.dropWhile_eq_nil_iff.mpr hjoints]
      rfl
  | cons c label =>
      have hdrop : (c :: label ++ joints).dropWhile Text.isJoint = c :: label ++ joints :=
        Text.dropWhile_of_head (fun d hd => hhead d hd)
      rw [hdrop, Text.dropEndWhile_append_of_getLast hjoints hlast]

theorem lowerAscii_parts {label joints digits : List Char} (hjoints : ∀ c ∈ joints, c = '-' ∨ c = '.')
    (hdigits : ∀ c ∈ digits, c.isDigit = true) :
    Text.lowerAscii (label ++ joints ++ digits) = Text.lowerAscii label ++ joints ++ digits := by
  have hjoints' : Text.lowerAscii joints = joints := Text.lowerAscii_eq_self (fun c hc => by
    rcases hjoints c hc with rfl | rfl <;> decide)
  have hdigits' : Text.lowerAscii digits = digits := Text.lowerAscii_eq_self (fun c hc => by
    have := (Text.isDigit_iff c).mp (hdigits c hc)
    omega)
  rw [Text.lowerAscii, List.map_append, List.map_append, ← Text.lowerAscii, ← Text.lowerAscii,
    ← Text.lowerAscii, hjoints', hdigits']

/-- The label in lower case is left of what stands before the digits. -/
theorem trimWhile_lowerAscii {label joints : List Char}
    (hhead : ∀ c, label.head? = some c → Version.isSeparator c = false)
    (hlast : ∀ c, label.getLast? = some c → c ≠ '-' ∧ c ≠ '.')
    (hjoints : ∀ c ∈ joints, c = '-' ∨ c = '.') :
    Text.trimWhile Text.isJoint (Text.lowerAscii label ++ joints) = Text.lowerAscii label := by
  refine trimWhile_isJoint (fun c hc => ?_) (fun c hc => ?_) (fun c hc => ?_)
  · rw [Text.lowerAscii, List.head?_map, Option.map_eq_some_iff] at hc
    obtain ⟨d, hd, rfl⟩ := hc
    have hsep := hhead d hd
    simp only [Version.isSeparator, Bool.or_eq_false_iff] at hsep
    rw [Text.isJoint_toLower, Text.isJoint, hsep.1.1, hsep.1.2]
    rfl
  · rw [Text.lowerAscii, List.getLast?_map, Option.map_eq_some_iff] at hc
    obtain ⟨d, hd, rfl⟩ := hc
    obtain ⟨hdash, hdot⟩ := hlast d hd
    rw [Text.isJoint_toLower, Text.isJoint, beq_false_of_ne hdash, beq_false_of_ne hdot]
    rfl
  · rcases hjoints c hc with rfl | rfl <;> rfl

theorem getD_word? {digits : List Char} (hdigits : ∀ c ∈ digits, c.isDigit = true)
    (h : Text.natOfDigits digits < 2 ^ 64) :
    (Text.word? digits).getD 0 = Text.natOfDigits digits := by
  cases digits with
  | nil => rfl
  | cons d ds =>
      have hword : Text.word? (d :: ds) = some (Text.natOfDigits (d :: ds)) :=
        Text.isNumber_iff.mp ⟨List.cons_ne_nil d ds, hdigits, h⟩
      rw [hword, Option.getD_some]

/-- **Stage and number are those of the label and the number**, if the text does not start with a dash or
dot. -/
theorem rank_and_number {raw label : List Char} {number : Nat} (h : Reads raw label number)
    (hraw : ∀ c, raw.head? = some c → Version.isSeparator c = false) (hnumber : number < 2 ^ 64) :
    (ofChars raw).stage.rank = maturity label ∧ (ofChars raw).number = number := by
  obtain ⟨joints, digits, rfl, hlabel, hlast, hjoints, hdigits, rfl⟩ := h
  have hfront : ∀ c ∈ Text.lowerAscii label ++ joints, (!c.isDigit) = true := by
    intro c hc
    rw [Bool.not_eq_true']
    rcases List.mem_append.mp hc with hc | hc
    · obtain ⟨d, hd, rfl⟩ := List.mem_map.mp hc
      rw [Text.isDigit_toLower, hlabel d hd]
    · rcases hjoints c hc with rfl | rfl <;> decide
  have hback : ∀ c, digits.head? = some c → (!c.isDigit) = false := by
    intro c hc
    rw [hdigits c (List.mem_of_head? hc)]
    rfl
  have htrim : Text.trimWhile (fun c => c == '-' || c == '.') (Text.lowerAscii label ++ joints) =
      Text.lowerAscii label :=
    trimWhile_lowerAscii (fun c hc => hraw c (by simp [hc])) hlast hjoints
  have htake : digits.takeWhile Char.isDigit = digits := List.takeWhile_eq_self_iff.mpr hdigits
  unfold ofChars
  simp only [lowerAscii_parts hjoints hdigits, Text.takeWhile_append_of_head hfront hback,
    Text.dropWhile_append_of_head hfront hback, htake]
  exact ⟨by rw [htrim, rank_ofLabel], getD_word? hdigits hnumber⟩

end Suffix

/-! ### The comparison -/

namespace Version

variable {a b : Version} {width : Nat}

theorem then_eq_left {o o' : Ordering} (h : o ≠ .eq) : o.then o' = o := by
  cases o with
  | lt => rfl
  | eq => exact absurd rfl h
  | gt => rfl

theorem compare_of_padTo_ne (ha : a.segments.length ≤ width) (hb : b.segments.length ≤ width)
    (h : padTo width a.segments ≠ padTo width b.segments) :
    compare a b = compare (padTo width a.segments) (padTo width b.segments) := by
  have hne : compare (padTo width a.segments) (padTo width b.segments) ≠ .eq :=
    fun heq => h (Std.LawfulEqCmp.eq_of_compare heq)
  have hparts : compare a b = (comparePadded a.segments b.segments).then
      ((compareSuffix a.suffix b.suffix).then (compare a.segments.length b.segments.length)) := rfl
  rw [hparts, comparePadded_eq_compare_padTo a.segments b.segments width ha hb, then_eq_left hne]

theorem compare_of_padTo_eq (ha : a.segments.length ≤ width) (hb : b.segments.length ≤ width)
    (h : padTo width a.segments = padTo width b.segments) :
    compare a b = (compareSuffix a.suffix b.suffix).then
      (compare a.segments.length b.segments.length) := by
  have hparts : compare a b = (comparePadded a.segments b.segments).then
      ((compareSuffix a.suffix b.suffix).then (compare a.segments.length b.segments.length)) := rfl
  rw [hparts, comparePadded_eq_compare_padTo a.segments b.segments width ha hb, h,
    Std.ReflOrd.compare_self]
  rfl

/-- Stage and number of the suffix of a version that is read. -/
theorem rank_and_number_of_parse {s : String} {v : Version} {x : Suffix} {label : List Char}
    {number : Nat} (hv : parse s = .ok v) (hx : v.suffix = some x)
    (hreads : Suffix.Reads x.raw.toList label number) (hnumber : number < 2 ^ 64) :
    x.stage.rank = Suffix.maturity label ∧ x.number = number := by
  have hw := (written_of_ofChars? (parse_eq_ok_iff.mp hv)).suffix_written x hx
  have h := Suffix.rank_and_number hreads hw.head_raw hnumber
  rwa [hw.ofChars_raw] at h

/-- **Versions compare by numbers, then by stages.**  Pad the segments of two versions with zeros to a
common width.  If they differ, their lexicographic comparison is that of the versions, whatever the
suffixes are.  If they are the same and one version is a pre-release, that one is the smaller.  If both
are, and were read from texts in which the suffix is a label and a number below `2 ^ 64`, they compare by
how far the labels have got and then by the numbers, unless they agree in both. -/
theorem compare_by_stages (a b : Version) (width : Nat) (ha : a.segments.length ≤ width)
    (hb : b.segments.length ≤ width) :
    (padTo width a.segments ≠ padTo width b.segments →
      compare a b = compare (padTo width a.segments) (padTo width b.segments)) ∧
    (padTo width a.segments = padTo width b.segments →
      (a.isPrerelease = true → b.isPrerelease = false → compare a b = .lt) ∧
      (a.isPrerelease = false → b.isPrerelease = true → compare a b = .gt) ∧
      ∀ s t x y label label' n m, parse s = .ok a → parse t = .ok b →
        a.suffix = some x → b.suffix = some y →
        Suffix.Reads x.raw.toList label n → Suffix.Reads y.raw.toList label' m →
        n < 2 ^ 64 → m < 2 ^ 64 → (Suffix.maturity label ≠ Suffix.maturity label' ∨ n ≠ m) →
          compare a b =
            (compare (Suffix.maturity label) (Suffix.maturity label')).then (compare n m)) := by
  refine ⟨compare_of_padTo_ne ha hb, fun hsame => ?_⟩
  rw [compare_of_padTo_eq ha hb hsame]
  refine ⟨?_, ?_, ?_⟩
  · intro hpre hrelease
    obtain ⟨x, hx⟩ := Option.isSome_iff_exists.mp hpre
    have hnone : b.suffix = none := by simpa [isPrerelease] using hrelease
    rw [hx, hnone]
    rfl
  · intro hrelease hpre
    obtain ⟨y, hy⟩ := Option.isSome_iff_exists.mp hpre
    have hnone : a.suffix = none := by simpa [isPrerelease] using hrelease
    rw [hy, hnone]
    rfl
  · intro s t x y label label' n m hs ht hx hy hreads hreads' hn hm hdiffer
    obtain ⟨hrank, hnumber⟩ := rank_and_number_of_parse hs hx hreads hn
    obtain ⟨hrank', hnumber'⟩ := rank_and_number_of_parse ht hy hreads' hm
    have hsuffix : compareSuffix a.suffix b.suffix =
        (compare x.stage.rank y.stage.rank).then
          ((compare x.number y.number).then (compare x.raw y.raw)) := by
      rw [hx, hy]
      rfl
    rw [hsuffix, hrank, hrank', hnumber, hnumber', ← Ordering.then_assoc, Ordering.then_assoc]
    refine then_eq_left (fun heq => ?_)
    obtain ⟨hlabels, hnumbers⟩ := Ordering.then_eq_eq.mp heq
    exact hdiffer.elim (absurd (Std.LawfulEqCmp.eq_of_compare hlabels))
      (absurd (Std.LawfulEqCmp.eq_of_compare hnumbers))

/-- A tenth and a second release candidate, one in capitals and the other with a dot before the number and
a segment more; the release; and an older one. -/
theorem compare_by_stages_candidates :
    let tenth : Version := ⟨[6, 8], some ⟨.rc, 10, "RC10"⟩⟩
    let second : Version := ⟨[6, 8, 0], some ⟨.rc, 2, "rc.2"⟩⟩
    parse "6.8-RC10" = .ok tenth ∧ parse "6.8.0-rc.2" = .ok second ∧
      Suffix.Reads "RC10".toList "RC".toList 10 ∧ Suffix.Reads "rc.2".toList "rc".toList 2 ∧
      compare tenth second = .gt ∧ compare second ⟨[6, 8], none⟩ = .lt ∧
      compare tenth ⟨[6, 7, 2], none⟩ = .gt := by
  intro tenth second
  have htenth : parse "6.8-RC10" = .ok tenth := by decide +kernel
  have hsecond : parse "6.8.0-rc.2" = .ok second := by decide +kernel
  have hupper : Suffix.Reads "RC10".toList "RC".toList 10 :=
    ⟨[], "10".toList, by decide, by simp, fun c hc => by cases hc; decide,
      by simp, by simp, by decide⟩
  have hlower : Suffix.Reads "rc.2".toList "rc".toList 2 :=
    ⟨['.'], "2".toList, by decide, by simp, fun c hc => by cases hc; decide,
      by simp, by simp, by decide⟩
  refine ⟨htenth, hsecond, hupper, hlower, ?_, ?_, ?_⟩
  · exact ((compare_by_stages tenth second 3 (by decide) (by decide)).2 (by decide)).2.2 _ _ _ _ _ _ _ _
      htenth hsecond rfl rfl hupper hlower (by decide) (by decide) (.inr (by decide))
  · exact ((compare_by_stages second ⟨[6, 8], none⟩ 3 (by decide) (by decide)).2 (by decide)).1 rfl rfl
  · exact (compare_by_stages tenth ⟨[6, 7, 2], none⟩ 3 (by decide) (by decide)).1 (by decide)

end Version

end RequiredVersion
