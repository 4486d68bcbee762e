/-! # Reading bytes as text

`decode` reads UTF-8 and puts nothing for every longest run of bytes that starts a character and
breaks off; `decodeLossy` puts U+FFFD there.  The reader goes byte by byte and keeps what a started
character still needs. -/

namespace RequiredVersion.Text

/-- A place of a text: a character, or nothing where bytes are no character. -/
abbrev Glyph := Option Char

/-- The character that stands for bytes that are no text. -/
def replacement : Char := Char.ofNat 0xFFFD

/-- A character of which some bytes have been read. -/
structure Started where
  /-- The number of bytes that are missing. -/
  missing : Nat
  /-- The bits read so far. -/
  bits : Nat
  /-- The least and the greatest byte that may follow. -/
  low : UInt8
  high : UInt8

/-- The first byte of a character: what it writes and what it starts. -/
def firstByte (b : UInt8) : List Glyph × Option Started :=
  if b < 0x80 then ([some (Char.ofNat b.toNat)], none)
  else if 0xC2 ≤ b && b ≤ 0xDF then ([], some ⟨1, b.toNat % 32, 0x80, 0xBF⟩)
  else if b == 0xE0 then ([], some ⟨2, 0, 0xA0, 0xBF⟩)
  else if b == 0xED then ([], some ⟨2, 13, 0x80, 0x9F⟩)
  else if 0xE1 ≤ b && b ≤ 0xEF then ([], some ⟨2, b.toNat % 16, 0x80, 0xBF⟩)
  else if b == 0xF0 then ([], some ⟨3, 0, 0x90, 0xBF⟩)
  else if 0xF1 ≤ b && b ≤ 0xF3 then ([], some ⟨3, b.toNat % 8, 0x80, 0xBF⟩)
  else if b == 0xF4 then ([], some ⟨3, 4, 0x80, 0x8F⟩)
  else ([none], none)

/-- A byte after a started character: it goes on with it, or breaks it off and starts anew. -/
def nextByte (s : Started) (b : UInt8) : List Glyph × Option Started :=
  if s.low ≤ b && b ≤ s.high then
    let bits := s.bits * 64 + b.toNat % 64
    if s.missing ≤ 1 then ([some (Char.ofNat bits)], none)
    else ([], some ⟨s.missing - 1, bits, 0x80, 0xBF⟩)
  else
    let (written, started) := firstByte b
    (none :: written, started)

/-- Reads bytes after a started character. -/
def decodeFrom : Option Started → List UInt8 → List Glyph
  | none, [] => []
  | some _, [] => [none]
  | none, b :: rest => (firstByte b).1 ++ decodeFrom (firstByte b).2 rest
  | some s, b :: rest => (nextByte s b).1 ++ decodeFrom (nextByte s b).2 rest

/-- Reads bytes as UTF-8. -/
def decode (bytes : List UInt8) : List Glyph := decodeFrom none bytes

/-- Reads bytes as UTF-8 with replacements. -/
def decodeLossy (bytes : List UInt8) : List Char := (decode bytes).map (·.getD replacement)

/-- The places of a text. -/
def glyphs (s : String) : List Glyph := s.toList.map some

/-- The places of the text that bytes stand for. -/
def glyphsOfBytes (bytes : ByteArray) : List Glyph :=
  match String.fromUTF8? bytes with
  | some s => glyphs s
  | none => decode bytes.toList

/-- The text of bytes: as it is where they are UTF-8, else with replacements. -/
def lossyText (bytes : ByteArray) : String :=
  match String.fromUTF8? bytes with
  | some s => s
  | none => String.ofList (decodeLossy bytes.toList)

end RequiredVersion.Text
