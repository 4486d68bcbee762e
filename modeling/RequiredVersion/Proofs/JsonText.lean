import RequiredVersion.Json.Decode
import RequiredVersion.Json.Printer
import RequiredVersion.Proofs.Text

/-! # Reading written texts of JSON documents

A text is written between quotes with some characters escaped.  `readText` undoes each escape
(`readText_escapeChar`), so a document that is one text is read back whole, from its characters
(`text?_ofText?_quoted`) and from its bytes (`ofBytes?_toUTF8`). -/

namespace RequiredVersion

open Json (escapeChar hexDigit quoted)

/-! ### Hexadecimal digits -/

theorem Text.hexValue?_digitChar : ∀ n < 16, Text.hexValue? (Nat.digitChar n) = some n := by
  decide

theorem Text.hexValue?_hexDigit (n : Nat) : Text.hexValue? (hexDigit n) = some (n % 16) :=
  Text.hexValue?_digitChar (n % 16) (Nat.mod_lt n (by decide))

/-! ### Escapes -/

/-- The characters that are escaped by one letter, with their letters. -/
def Json.shortEscapes : List (Char × Char) :=
  [('"', '"'), ('\\', '\\'), ('\x08', 'b'), ('\x0c', 'f'), ('\n', 'n'), ('\r', 'r'), ('\t', 't')]

theorem Json.escapeChar_of_mem {c e : Char} (h : (c, e) ∈ Json.shortEscapes) :
    escapeChar c = ['\\', e] ∧ RawJson.simpleEscape? e = some c.toNat ∧ e ≠ 'u' := by
  simp only [Json.shortEscapes, List.mem_cons, List.not_mem_nil, or_false, Prod.mk.injEq] at h
  rcases h with ⟨rfl, rfl⟩ | ⟨rfl, rfl⟩ | ⟨rfl, rfl⟩ | ⟨rfl, rfl⟩ | ⟨rfl, rfl⟩ | ⟨rfl, rfl⟩ |
    ⟨rfl, rfl⟩
  all_goals exact ⟨rfl, rfl, by decide⟩

theorem Json.escapeChar_of_lt {c : Char} (h : c ∉ Json.shortEscapes.map Prod.fst)
    (hlow : c.toNat < 0x20) :
    escapeChar c = ['\\', 'u', '0', '0', hexDigit (c.toNat / 16), hexDigit c.toNat] := by
  simp only [Json.shortEscapes, List.map_cons, List.map_nil, List.mem_cons, List.not_mem_nil,
    or_false, not_or] at h
  simp only [escapeChar, h, hlow, if_false, if_true]

theorem Json.escapeChar_of_not_lt {c : Char} (h : c ∉ Json.shortEscapes.map Prod.fst)
    (hlow : ¬ c.toNat < 0x20) : escapeChar c = [c] := by
  simp only [Json.shortEscapes, List.map_cons, List.map_nil, List.mem_cons, List.not_mem_nil,
    or_false, not_or] at h
  simp only [escapeChar, h, hlow, if_false]

namespace RawJson

theorem hexQuad?_of_lt {n : Nat} (h : n < 0x100) :
    hexQuad? (some '0') (some '0') (some (hexDigit (n / 16))) (some (hexDigit n)) = some n := by
  have hzero : Text.hexValue? '0' = some 0 := by decide
  simp only [hexQuad?, Option.bind_some, hzero, Text.hexValue?_hexDigit]
  congr 1
  omega

/-! ### Texts -/

/-- A character in front of a text that is read. -/
def consUnit (c : Char) (r : RawText × List Text.Glyph) : RawText × List Text.Glyph :=
  (some c.toNat :: r.1, r.2)

theorem readText_simple {e c : Char} (h : simpleEscape? e = some c.toNat) (hu : e ≠ 'u')
    (rest : List Text.Glyph) :
    readText (some '\\' :: some e :: rest) = (readText rest).map (consUnit c) := by
  rw [readText, h]
  · cases readText rest with
    | none => rfl
    | some r => rfl
  · intro _ _ _ _ _ _ he
    exact absurd he hu

theorem readText_plain {c : Char} (hquote : c ≠ '"') (hslash : c ≠ '\\') (hlow : ¬ c.toNat < 0x20)
    (rest : List Text.Glyph) : readText (some c :: rest) = (readText rest).map (consUnit c) := by
  rw [readText, if_neg (not_or.mpr ⟨hlow, hslash⟩)]
  · cases readText rest with
    | none => rfl
    | some r => rfl
  · exact hquote
  · intro _ _ _ _ _ _ he
    exact absurd he hslash
  · intro _ _ _ he
    exact absurd he hslash

theorem readText_control {c : Char} (hlow : c.toNat < 0x20) (rest : List Text.Glyph) :
    readText (some '\\' :: some 'u' :: some '0' :: some '0' :: some (hexDigit (c.toNat / 16)) ::
      some (hexDigit c.toNat) :: rest) = (readText rest).map (consUnit c) := by
  rw [readText, hexQuad?_of_lt (by omega)]
  cases readText rest with
  | none => rfl
  | some r => rfl

/-- **Every escape is undone.** -/
theorem readText_escapeChar (c : Char) (rest : List Text.Glyph) :
    readText ((escapeChar c).map some ++ rest) = (readText rest).map (consUnit c) := by
  by_cases hshort : c ∈ Json.shortEscapes.map Prod.fst
  · obtain ⟨⟨c, e⟩, hmem, rfl⟩ := List.mem_map.mp hshort
    obtain ⟨hescape, hsimple, hu⟩ := Json.escapeChar_of_mem hmem
    rw [hescape]
    exact readText_simple hsimple hu rest
  · by_cases hlow : c.toNat < 0x20
    · rw [Json.escapeChar_of_lt hshort hlow]
      exact readText_control hlow rest
    · have hquote : c ≠ '"' := fun h => hshort (h ▸ by decide)
      have hslash : c ≠ '\\' := fun h => hshort (h ▸ by decide)
      rw [Json.escapeChar_of_not_lt hshort hlow]
      exact readText_plain hquote hslash hlow rest

theorem readText_escaped (rest : List Text.Glyph) : ∀ cs : List Char,
    readText ((cs.flatMap escapeChar).map some ++ some '"' :: rest) =
      some (cs.map (fun c => some c.toNat), rest)
  | [] => by rw [List.flatMap_nil, List.map_nil, List.nil_append, readText]; rfl
  | c :: cs => by
      rw [List.flatMap_cons, List.map_append, List.append_assoc, readText_escapeChar,
        readText_escaped rest cs]
      rfl

theorem unitsText?_toNat : ∀ cs : List Char, unitsText? (cs.map (fun c => some c.toNat)) = some cs
  | [] => rfl
  | c :: cs => by
      have hvalid : c.toNat < 0xD800 ∨ (0xDFFF < c.toNat ∧ c.toNat < 0x110000) := c.valid
      rw [List.map_cons, unitsText?.eq_def]
      simp only
      rw [if_neg (by omega), if_neg (by omega), unitsText?_toNat cs, Option.map_some,
        Char.ofNat_toNat]

/-! ### Documents -/

theorem read?_quoted (cs : List Char) :
    read? ((quoted cs).map some) = some (.str (cs.map (fun c => some c.toNat))) := by
  have hread : ∀ fuel, readValue (fuel + 1) ((quoted cs).map some) =
      some (.str (cs.map (fun c => some c.toNat)), []) := by
    intro fuel
    have hskip : skipBlanks ((quoted cs).map some) =
        some '"' :: ((cs.flatMap escapeChar).map some ++ [some '"']) := by
      rw [quoted, List.cons_append, List.map_cons, List.map_append]
      rfl
    rw [readValue, hskip]
    simp only [readText_escaped]
  rw [read?, hread]
  rfl

/-- A text is read back from the characters of its document. -/
theorem text?_ofText?_quoted (s : String) :
    (ofText? (String.ofList (quoted s.toList))).bind text? = some s := by
  rw [ofText?, Text.glyphs, String.toList_ofList, read?_quoted, Option.bind_some, text?, key?,
    unitsText?_toNat, Option.map_some, String.ofList_toList]

theorem ofBytes?_toUTF8 (s : String) : ofBytes? s.toUTF8 = ofText? s := by
  rw [ofBytes?, Text.glyphsOfBytes, Text.fromUTF8?_toUTF8, ofText?]

end RawJson

end RequiredVersion
