import RequiredVersion.Tree.Construct

/-! # The values of string literals

The text between the quotes of a literal is unescaped by two replacements, one after the other: of a
backslash and a quote the quote is left, and then of two backslashes one.  Two such replacements often
differ from reading the text once.  Here they do not (`Node.unescape_eq_readEscapes`): the first one
shortens a run of backslashes by at most one, right before a quote, and never joins two runs.

So the value of a literal is what one pass from left to right reads, whatever stands between its quotes
(`Node.stringLiteral?_eq_some_iff`). -/

namespace RequiredVersion.Node

/-! ### One pass -/

/-- Reads a text once from left to right: a backslash with a quote behind it stands for the quote, one
with another backslash behind it stands for one backslash, and any other stands for itself. -/
def readEscapes (quote : Char) : List Char → List Char
  | [] => []
  | [c] => [c]
  | c :: d :: rest =>
    if c = '\\' ∧ (d = quote ∨ d = '\\') then d :: readEscapes quote rest
    else c :: readEscapes quote (d :: rest)

/-! ### Replacements -/

section replacements
variable {quote : Char}

theorem replacePair_of_ne {a b r x : Char} (hx : x ≠ a) (cs : List Char) :
    replacePair a b r (x :: cs) = x :: replacePair a b r cs := by
  cases cs with
  | nil => rfl
  | cons y rest => rw [replacePair, if_neg (fun h => hx h.1)]

theorem replacePair_of_next_ne {a b r y : Char} (hy : y ≠ b) (cs : List Char) :
    replacePair a b r (a :: y :: cs) = a :: replacePair a b r (y :: cs) := by
  rw [replacePair, if_neg (fun h => hy h.2)]

theorem replacePair_pair (a b r : Char) (cs : List Char) :
    replacePair a b r (a :: b :: cs) = r :: replacePair a b r cs := by
  rw [replacePair, if_pos ⟨rfl, rfl⟩]

/-- The first replacement takes a backslash away before a quote, and nowhere else. -/
theorem replaceQuote_backslash (hquote : quote ≠ '\\') (cs : List Char) :
    replacePair '\\' quote quote ('\\' :: cs) =
      if cs.head? = some quote then replacePair '\\' quote quote cs
      else '\\' :: replacePair '\\' quote quote cs := by
  cases cs with
  | nil => rfl
  | cons y rest =>
      by_cases hy : y = quote
      · subst hy
        rw [List.head?_cons, if_pos rfl, replacePair_pair, replacePair_of_ne hquote]
      · rw [List.head?_cons, if_neg (fun h => hy (Option.some.inj h)), replacePair_of_next_ne hy]

/-- **The two replacements are one pass from left to right.** -/
theorem unescape_eq_readEscapes (hquote : quote ≠ '\\') (cs : List Char) :
    unescape quote cs = readEscapes quote cs := by
  unfold unescape
  fun_induction readEscapes quote cs with
  | case1 => rfl
  | case2 c => rfl
  | case3 c d rest hpair ih =>
      obtain ⟨rfl, rfl | rfl⟩ := hpair
      · rw [replacePair_pair, replacePair_of_ne hquote, ih]
      · rw [replacePair_of_next_ne hquote.symm, replaceQuote_backslash hquote]
        split
        · next hnext =>
            -- the second backslash goes first, and the one before it has no partner any more
            obtain ⟨rest', rfl⟩ := List.head?_eq_some_iff.mp hnext
            rw [replacePair_of_ne hquote] at ih ⊢
            rw [replacePair_of_next_ne hquote, ih]
        · rw [replacePair_pair, ih]
  | case4 c d rest hpair ih =>
      by_cases hc : c = '\\'
      · subst hc
        obtain ⟨hd, hd'⟩ : d ≠ quote ∧ d ≠ '\\' :=
          ⟨fun h => hpair ⟨rfl, .inl h⟩, fun h => hpair ⟨rfl, .inr h⟩⟩
        rw [replacePair_of_next_ne hd]
        rw [replacePair_of_ne hd'] at ih ⊢
        rw [replacePair_of_next_ne hd', ih]
      · rw [replacePair_of_ne hc, replacePair_of_ne hc, ih]

end replacements

/-! ### Literals -/

/-- The node is a literal with the given quote and the given text between its quotes: single quotes
with or without the mark of a binary string, or double quotes without the mark and without
interpolation. -/
inductive Quotes (source : List Char) (n : Node) : Char → List Char → Prop where
  | single {mark inner : List Char} (kind : n.kind = "string") (hmark : mark = [] ∨ mark = ['b'])
      (text : n.chars source = mark ++ '\'' :: (inner ++ ['\''])) : Quotes source n '\'' inner
  | double {inner : List Char} (kind : n.kind = "encapsed_string")
      (plain : ∀ c ∈ n.namedChildren, isLiteralPart c.kind = true)
      (text : n.chars source = '"' :: (inner ++ ['"'])) : Quotes source n '"' inner

theorem between?_eq_some_iff {quote : Char} {cs inner : List Char} :
    between? quote cs = some inner ↔ cs = quote :: (inner ++ [quote]) := by
  cases cs with
  | nil => simp [between?]
  | cons q rest =>
      rw [between?]
      constructor
      · intro h
        split at h
        · next hends =>
            obtain ⟨init, rfl⟩ := List.getLast?_eq_some_iff.mp hends.2
            rw [List.dropLast_concat] at h
            rw [hends.1, Option.some.inj h]
        · cases h
      · intro h
        obtain ⟨rfl, rfl⟩ := List.cons.inj h
        rw [if_pos ⟨rfl, List.getLast?_concat⟩, List.dropLast_concat]

theorem dropBinaryMark_eq_quote_iff {cs rest : List Char} :
    dropBinaryMark cs = '\'' :: rest ↔ ∃ mark, (mark = [] ∨ mark = ['b']) ∧ cs = mark ++ '\'' :: rest := by
  constructor
  · intro h
    unfold dropBinaryMark at h
    split at h
    · next cs' => exact ⟨['b'], .inr rfl, by rw [h]; rfl⟩
    · exact ⟨[], .inl rfl, h⟩
  · rintro ⟨mark, rfl | rfl, rfl⟩
    · rfl
    · rfl

/-- **The value of a literal is its text, read once.**  A node has a string value exactly if it is a
literal, and the value is what one pass from left to right makes of the text between the quotes, however
backslashes and quotes are mixed there. -/
theorem stringLiteral?_eq_some_iff (source : List Char) (n : Node) (value : String) :
    n.stringLiteral? source = some value ↔
      ∃ quote inner, n.Quotes source quote inner ∧ value = String.ofList (readEscapes quote inner) := by
  unfold stringLiteral?
  constructor
  · intro h
    split at h
    · next hkind =>
        obtain ⟨inner, hinner, rfl⟩ := Option.map_eq_some_iff.mp h
        obtain ⟨mark, hmark, htext⟩ := dropBinaryMark_eq_quote_iff.mp (between?_eq_some_iff.mp hinner)
        exact ⟨'\'', inner, .single hkind hmark htext, by rw [unescape_eq_readEscapes (by decide)]⟩
    · split at h
      · next hkind =>
          split at h
          · next hparts =>
              obtain ⟨inner, hinner, rfl⟩ := Option.map_eq_some_iff.mp h
              exact ⟨'"', inner, .double hkind (List.all_eq_true.mp hparts)
                (between?_eq_some_iff.mp hinner), by rw [unescape_eq_readEscapes (by decide)]⟩
          · cases h
      · cases h
  · rintro ⟨quote, inner, hquotes, rfl⟩
    cases hquotes with
    | single hkind hmark htext =>
        rw [if_pos hkind, between?_eq_some_iff.mpr (dropBinaryMark_eq_quote_iff.mpr ⟨_, hmark, htext⟩),
          Option.map_some, unescape_eq_readEscapes (by decide)]
    | double hkind hparts htext =>
        rw [if_neg (by rw [hkind]; decide), if_pos hkind, if_pos (List.all_eq_true.mpr hparts),
          between?_eq_some_iff.mpr htext, Option.map_some, unescape_eq_readEscapes (by decide)]

end RequiredVersion.Node
