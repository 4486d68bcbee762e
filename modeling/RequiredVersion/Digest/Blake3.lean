/-! # BLAKE3

The hash function BLAKE3 with its default output of 32 bytes.  The input is cut into chunks of 1024
bytes, each hashed block by block; the results are the leaves of a binary tree whose left
subtrees are complete, and the root of the tree gives the hash.

All words are of 32 bits and stored with the least significant byte first. -/

namespace RequiredVersion.Blake3

/-! ### The compression function -/

/-- Four words, one row of the state. -/
structure Row where
  a : UInt32
  b : UInt32
  c : UInt32
  d : UInt32

/-- The state of the compression function. -/
structure State where
  r0 : Row
  r1 : Row
  r2 : Row
  r3 : Row

/-- The bits of a word turned to the right, for `0 < n < 32`. -/
def rotr (x : UInt32) (n : UInt32) : UInt32 := (x >>> n) ||| (x <<< (32 - n))

/-- Mixes two message words into a column of the state. -/
def mixColumn (a b c d x y : UInt32) : UInt32 × UInt32 × UInt32 × UInt32 :=
  let a := a + b + x
  let d := rotr (d ^^^ a) 16
  let c := c + d
  let b := rotr (b ^^^ c) 12
  let a := a + b + y
  let d := rotr (d ^^^ a) 8
  let c := c + d
  let b := rotr (b ^^^ c) 7
  (a, b, c, d)

/-- Mixes eight message words into the four columns of the state. -/
def mixColumns (s : State) (x0 y0 x1 y1 x2 y2 x3 y3 : UInt32) : State :=
  let (a0, b0, c0, d0) := mixColumn s.r0.a s.r1.a s.r2.a s.r3.a x0 y0
  let (a1, b1, c1, d1) := mixColumn s.r0.b s.r1.b s.r2.b s.r3.b x1 y1
  let (a2, b2, c2, d2) := mixColumn s.r0.c s.r1.c s.r2.c s.r3.c x2 y2
  let (a3, b3, c3, d3) := mixColumn s.r0.d s.r1.d s.r2.d s.r3.d x3 y3
  ⟨⟨a0, a1, a2, a3⟩, ⟨b0, b1, b2, b3⟩, ⟨c0, c1, c2, c3⟩, ⟨d0, d1, d2, d3⟩⟩

/-- Turns the rows so that the diagonals become columns. -/
def diagonals (s : State) : State :=
  ⟨s.r0, ⟨s.r1.b, s.r1.c, s.r1.d, s.r1.a⟩, ⟨s.r2.c, s.r2.d, s.r2.a, s.r2.b⟩,
    ⟨s.r3.d, s.r3.a, s.r3.b, s.r3.c⟩⟩

/-- Turns the rows back. -/
def undiagonals (s : State) : State :=
  ⟨s.r0, ⟨s.r1.d, s.r1.a, s.r1.b, s.r1.c⟩, ⟨s.r2.c, s.r2.d, s.r2.a, s.r2.b⟩,
    ⟨s.r3.b, s.r3.c, s.r3.d, s.r3.a⟩⟩

/-- A round: the columns, then the diagonals. -/
def round (s : State) : List UInt32 → State
  | [m0, m1, m2, m3, m4, m5, m6, m7, m8, m9, m10, m11, m12, m13, m14, m15] =>
    undiagonals (mixColumns (diagonals (mixColumns s m0 m1 m2 m3 m4 m5 m6 m7))
      m8 m9 m10 m11 m12 m13 m14 m15)
  | _ => s

/-- The order of the message words in the next round. -/
def permute : List UInt32 → List UInt32
  | [m0, m1, m2, m3, m4, m5, m6, m7, m8, m9, m10, m11, m12, m13, m14, m15] =>
    [m2, m6, m3, m10, m7, m0, m4, m13, m1, m11, m12, m5, m9, m14, m15, m8]
  | ms => ms

/-- A number of rounds. -/
def rounds : Nat → State → List UInt32 → State
  | 0, s, _ => s
  | n + 1, s, ms => rounds n (round s ms) (permute ms)

/-- The initial chaining value. -/
def initial : List UInt32 :=
  [0x6A09E667, 0xBB67AE85, 0x3C6EF372, 0xA54FF53A, 0x510E527F, 0x9B05688C, 0x1F83D9AB, 0x5BE0CD19]

/-- What a node of the tree compresses last: its chaining value, its block and the parameters. -/
structure Output where
  chain : List UInt32
  block : List UInt32
  counter : Nat
  length : Nat
  flags : UInt32

def chunkStart : UInt32 := 1
def chunkEnd : UInt32 := 2
def parentFlag : UInt32 := 4
def rootFlag : UInt32 := 8

/-- Compresses a block to eight words. -/
def compress (o : Output) : List UInt32 :=
  match o.chain with
  | [h0, h1, h2, h3, h4, h5, h6, h7] =>
    let s : State :=
      ⟨⟨h0, h1, h2, h3⟩, ⟨h4, h5, h6, h7⟩, ⟨0x6A09E667, 0xBB67AE85, 0x3C6EF372, 0xA54FF53A⟩,
        ⟨o.counter.toUInt32, (o.counter / 0x100000000).toUInt32, o.length.toUInt32, o.flags⟩⟩
    let s := rounds 7 s o.block
    [s.r0.a ^^^ s.r2.a, s.r0.b ^^^ s.r2.b, s.r0.c ^^^ s.r2.c, s.r0.d ^^^ s.r2.d,
      s.r1.a ^^^ s.r3.a, s.r1.b ^^^ s.r3.b, s.r1.c ^^^ s.r3.c, s.r1.d ^^^ s.r3.d]
  | _ => []

/-! ### Chunks -/

/-- The words of a list of bytes; missing bytes count as zero. -/
def wordsOf : Nat → List UInt8 → List UInt32
  | 0, _ => []
  | n + 1, bytes =>
    let b (i : Nat) : UInt32 := (bytes.getD i 0).toUInt32
    (b 0 ||| (b 1 <<< 8) ||| (b 2 <<< 16) ||| (b 3 <<< 24)) :: wordsOf n (bytes.drop 4)

/-- The pieces of a list with `size` elements each, the last one shorter; one empty piece of an
empty list.  The fuel is at least the number of pieces. -/
def pieces {α : Type} (size : Nat) : Nat → List α → List (List α)
  | 0, l => [l]
  | fuel + 1, l =>
    if l.length ≤ size then [l] else l.take size :: pieces size fuel (l.drop size)

/-- Compresses the blocks of a chunk up to the last one. -/
def chunkOutput (counter : Nat) : List UInt32 → UInt32 → List (List UInt8) → Output
  | chain, start, [] => ⟨chain, wordsOf 16 [], counter, 0, start ||| chunkEnd⟩
  | chain, start, [block] =>
    ⟨chain, wordsOf 16 block, counter, block.length, start ||| chunkEnd⟩
  | chain, start, block :: rest =>
    chunkOutput counter (compress ⟨chain, wordsOf 16 block, counter, block.length, start⟩) 0 rest

/-- The last compression of a chunk. -/
def ofChunk (counter : Nat) (bytes : List UInt8) : Output :=
  chunkOutput counter initial chunkStart (pieces 64 16 bytes)

/-! ### The tree -/

/-- The node above two nodes. -/
def parent (left right : Output) : Output :=
  ⟨initial, compress left ++ compress right, 0, 64, parentFlag⟩

/-- The greatest power of two below `n`, for `1 < n`. -/
def leftSize (n : Nat) : Nat := Nat.pow 2 (n - 1).log2

/-- The tree over a list of chunks, the first of which has the given number.  The fuel is at least
the number of chunks. -/
def tree : Nat → Nat → List (List UInt8) → Output
  | _, counter, [] => ofChunk counter []
  | _, counter, [chunk] => ofChunk counter chunk
  | 0, counter, chunk :: _ => ofChunk counter chunk
  | fuel + 1, counter, chunks =>
    let n := leftSize chunks.length
    parent (tree fuel counter (chunks.take n)) (tree fuel (counter + n) (chunks.drop n))

/-- The bytes of a word. -/
def bytesOf (w : UInt32) : List UInt8 :=
  [w.toUInt8, (w >>> 8).toUInt8, (w >>> 16).toUInt8, (w >>> 24).toUInt8]

/-- The hash of a list of bytes. -/
def hash (bytes : List UInt8) : List UInt8 :=
  let chunks := pieces 1024 (bytes.length / 1024 + 1) bytes
  let root := tree chunks.length 0 chunks
  (compress { root with flags := root.flags ||| rootFlag }).flatMap bytesOf

end RequiredVersion.Blake3
