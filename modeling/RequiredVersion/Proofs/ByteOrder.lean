import Mathlib.Data.String.Basic
import Mathlib.Tactic.SplitIfs

/-! # The order of texts and of their bytes

Texts are compared character by character, but what is sorted on disk and by other programs is
sorted by bytes.  Both orders are the same (`Text.lt_iff_bytes_lt`): the encodings of two characters
differ in a byte, and at the first such byte the smaller character has the smaller one
(`Text.before_utf8EncodeChar`), whatever stands behind it. -/

namespace RequiredVersion.Text

/-- The bytes of a text. -/
def bytes (s : String) : List UInt8 := s.toUTF8.data.toList

theorem bytes_eq (s : String) : bytes s = s.toList.flatMap String.utf8EncodeChar := by
  have hencode : s.toUTF8 = s.toList.utf8Encode := String.utf8Encode_toList.symm
  rw [bytes, hencode, List.utf8Encode, List.toList_data_toByteArray]

/-! ### Bytes of characters -/

/-- Two lists of bytes differ somewhere, and where they do first the byte of the first list is the
smaller one. -/
inductive Before : List UInt8 → List UInt8 → Prop where
  | here {x y : UInt8} {xs ys : List UInt8} (h : x < y) : Before (x :: xs) (y :: ys)
  | later {x : UInt8} {xs ys : List UInt8} (h : Before xs ys) : Before (x :: xs) (x :: ys)

theorem not_nil_before (ys : List UInt8) : ¬Before [] ys := fun h => by cases h

theorem not_before_nil (xs : List UInt8) : ¬Before xs [] := fun h => by cases h

theorem before_cons_cons {x y : UInt8} {xs ys : List UInt8} :
    Before (x :: xs) (y :: ys) ↔ x < y ∨ x = y ∧ Before xs ys := by
  constructor
  · intro h
    cases h with
    | here h => exact .inl h
    | later h => exact .inr ⟨rfl, h⟩
  · rintro (h | ⟨rfl, h⟩)
    · exact .here h
    · exact .later h

theorem before_ofNat_cons {m n : Nat} (hm : m < 256) (hn : n < 256) {xs ys : List UInt8} :
    Before (.ofNat m :: xs) (.ofNat n :: ys) ↔ m < n ∨ m = n ∧ Before xs ys := by
  rw [before_cons_cons, UInt8.lt_iff_toNat_lt, ← UInt8.toNat_inj, UInt8.toNat_ofNat_of_lt' hm,
    UInt8.toNat_ofNat_of_lt' hn]

theorem Before.append_lt {xs ys : List UInt8} (h : Before xs ys) (as bs : List UInt8) :
    xs ++ as < ys ++ bs := by
  induction h with
  | here h => exact List.Lex.rel h
  | later _ ih => exact List.Lex.cons ih

theorem toNat_lt_of_lt {c d : Char} (h : c < d) : c.val.toNat < d.val.toNat :=
  UInt32.lt_iff_toNat_lt.mp (Char.lt_def.mp h)

/-- **The encodings of characters are ordered as the characters are.** -/
theorem before_utf8EncodeChar {c d : Char} (h : c < d) :
    Before (String.utf8EncodeChar c) (String.utf8EncodeChar d) := by
  have hlt := toNat_lt_of_lt h
  have hmax : d.val.toNat < 0x110000 := by
    rcases d.valid with hd | hd
    · exact Nat.lt_trans hd (by decide)
    · exact hd.2
  unfold String.utf8EncodeChar
  dsimp only
  generalize c.val.toNat = m at hlt ⊢
  generalize d.val.toNat = n at hlt hmax ⊢
  -- the bytes behind the first one are digits to the base 64
  have hdigit : ∀ b, m / b < n / b →
      m / (b * 64) < n / (b * 64) ∨ m / (b * 64) = n / (b * 64) ∧ m / b % 64 < n / b % 64 := by
    intro b hb
    rw [← Nat.div_div_eq_div_mul, ← Nat.div_div_eq_div_mul]
    omega
  have hlast := hdigit 1 (by omega)
  have hthird := hdigit 64
  have hsecond := hdigit 4096
  have hfirst : m / 262144 % 8 = m / 262144 ∧ n / 262144 % 8 = n / 262144 := by omega
  -- a character with more bytes has a greater first byte
  split_ifs
  all_goals
    simp (disch := omega) only [before_ofNat_cons, not_nil_before, not_before_nil, and_false, or_false]
    omega

/-! ### Bytes of texts -/

theorem utf8EncodeChar_ne_nil (c : Char) : String.utf8EncodeChar c ≠ [] := by
  unfold String.utf8EncodeChar
  dsimp only
  split_ifs <;> exact List.cons_ne_nil _ _

theorem flatMap_utf8EncodeChar_lt {cs ds : List Char} (h : cs < ds) :
    cs.flatMap String.utf8EncodeChar < ds.flatMap String.utf8EncodeChar := by
  induction h with
  | @nil d ds =>
      obtain ⟨b, bs, hb⟩ := List.exists_cons_of_ne_nil (utf8EncodeChar_ne_nil d)
      rw [List.flatMap_nil, List.flatMap_cons, hb]
      exact List.Lex.nil
  | cons _ ih =>
      rw [List.flatMap_cons, List.flatMap_cons]
      exact List.append_left_lt ih
  | rel h =>
      rw [List.flatMap_cons, List.flatMap_cons]
      exact (before_utf8EncodeChar h).append_lt _ _

/-- **Texts are ordered as their bytes are.** -/
theorem lt_iff_bytes_lt (s t : String) : s < t ↔ bytes s < bytes t := by
  have hmono : ∀ {s t : String}, s < t → bytes s < bytes t := fun h => by
    rw [bytes_eq, bytes_eq]
    exact flatMap_utf8EncodeChar_lt (String.lt_iff_toList_lt.mp h)
  constructor
  · exact hmono
  · intro h
    rcases lt_trichotomy s t with hlt | rfl | hgt
    · exact hlt
    · exact absurd h (List.lt_irrefl _)
    · exact absurd h (List.lt_asymm (hmono hgt))

theorem compare_eq_lt_iff (s t : String) : compare s t = .lt ↔ bytes s < bytes t := by
  rw [compare_lt_iff_lt, lt_iff_bytes_lt]

end RequiredVersion.Text
