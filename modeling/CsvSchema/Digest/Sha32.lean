/-!
# Secure hash functions on words of 32 bits

SHA-256, and SHA-224, which starts from other words and keeps seven of the eight.
-/

namespace CsvSchema.Digest

/-- The constants of the 64 rounds. -/
def roundWords32 : Array UInt32 :=
  #[0x428a2f98, 0x71374491, 0xb5c0fbcf, 0xe9b5dba5, 0x3956c25b, 0x59f111f1, 0x923f82a4, 0xab1c5ed5,
    0xd807aa98, 0x12835b01, 0x243185be, 0x550c7dc3, 0x72be5d74, 0x80deb1fe, 0x9bdc06a7, 0xc19bf174,
    0xe49b69c1, 0xefbe4786, 0x0fc19dc6, 0x240ca1cc, 0x2de92c6f, 0x4a7484aa, 0x5cb0a9dc, 0x76f988da,
    0x983e5152, 0xa831c66d, 0xb00327c8, 0xbf597fc7, 0xc6e00bf3, 0xd5a79147, 0x06ca6351, 0x14292967,
    0x27b70a85, 0x2e1b2138, 0x4d2c6dfc, 0x53380d13, 0x650a7354, 0x766a0abb, 0x81c2c92e, 0x92722c85,
    0xa2bfe8a1, 0xa81a664b, 0xc24b8b70, 0xc76c51a3, 0xd192e819, 0xd6990624, 0xf40e3585, 0x106aa070,
    0x19a4c116, 0x1e376c08, 0x2748774c, 0x34b0bcb5, 0x391c0cb3, 0x4ed8aa4a, 0x5b9cca4f, 0x682e6ff3,
    0x748f82ee, 0x78a5636f, 0x84c87814, 0x8cc70208, 0x90befffa, 0xa4506ceb, 0xbef9a3f7, 0xc67178f2]

/-- The eight words that SHA-256 starts from. -/
def initial256 : Array UInt32 :=
  #[0x6a09e667, 0xbb67ae85, 0x3c6ef372, 0xa54ff53a, 0x510e527f, 0x9b05688c, 0x1f83d9ab, 0x5be0cd19]

/-- The eight words that SHA-224 starts from. -/
def initial224 : Array UInt32 :=
  #[0xc1059ed8, 0x367cd507, 0x3070dd17, 0xf70e5939, 0xffc00b31, 0x68581511, 0x64f98fa7, 0xbefa4fa4]

/-- Rotate a word right. -/
def rotateRight32 (x : UInt32) (n : UInt32) : UInt32 := (x >>> n) ||| (x <<< (32 - n))

/-- The bytes of a number, most significant first, in a given width. -/
def bigEndianBytes (width value : Nat) : List UInt8 :=
  (List.range width).map fun i => UInt8.ofNat (value >>> (8 * (width - 1 - i)))

/-- A message with the closing bit, zeros, and its length in bits, up to a whole
number of blocks. -/
def padded (blockBytes lengthBytes : Nat) (message : List UInt8) : Array UInt8 :=
  let used := message.length + 1 + lengthBytes
  let zeros := (blockBytes - used % blockBytes) % blockBytes
  (message ++ 0x80 :: List.replicate zeros 0 ++
    bigEndianBytes lengthBytes (8 * message.length)).toArray

/-- The word of four bytes at a position. -/
def word32At (bytes : Array UInt8) (start : Nat) : UInt32 :=
  (List.range 4).foldl (fun word i => (word <<< 8) ||| (bytes.getD (start + i) 0).toUInt32) 0

/-- The words that the 64 rounds mix in, from one block. -/
def schedule32 (bytes : Array UInt8) (start : Nat) : Array UInt32 :=
  let words := ((List.range 16).map fun i => word32At bytes (start + 4 * i)).toArray
  (List.range 48).foldl (fun words i =>
    let x := words.getD (i + 1) 0
    let y := words.getD (i + 14) 0
    let small := rotateRight32 x 7 ^^^ rotateRight32 x 18 ^^^ (x >>> 3)
    let large := rotateRight32 y 17 ^^^ rotateRight32 y 19 ^^^ (y >>> 10)
    words.push (words.getD i 0 + small + words.getD (i + 9) 0 + large)) words

/-- The working words of a round. -/
structure Working32 where
  a : UInt32
  b : UInt32
  c : UInt32
  d : UInt32
  e : UInt32
  f : UInt32
  g : UInt32
  h : UInt32

/-- One round, with its constant and its scheduled word already added. -/
def Working32.round (w : Working32) (word : UInt32) : Working32 :=
  let sum := rotateRight32 w.e 6 ^^^ rotateRight32 w.e 11 ^^^ rotateRight32 w.e 25
  let choice := (w.e &&& w.f) ^^^ (~~~w.e &&& w.g)
  let first := w.h + sum + choice + word
  let sum := rotateRight32 w.a 2 ^^^ rotateRight32 w.a 13 ^^^ rotateRight32 w.a 22
  let majority := (w.a &&& w.b) ^^^ (w.a &&& w.c) ^^^ (w.b &&& w.c)
  ⟨first + (sum + majority), w.a, w.b, w.c, w.d + first, w.e, w.f, w.g⟩

/-- Mix one block into the state. -/
def compress32 (bytes : Array UInt8) (state : Array UInt32) (start : Nat) : Array UInt32 :=
  let words := schedule32 bytes start
  let begun : Working32 := ⟨state.getD 0 0, state.getD 1 0, state.getD 2 0, state.getD 3 0,
    state.getD 4 0, state.getD 5 0, state.getD 6 0, state.getD 7 0⟩
  let w := (List.range 64).foldl
    (fun w i => w.round (roundWords32.getD i 0 + words.getD i 0)) begun
  #[begun.a + w.a, begun.b + w.b, begun.c + w.c, begun.d + w.d,
    begun.e + w.e, begun.f + w.f, begun.g + w.g, begun.h + w.h]

/-- The bytes of the final state. -/
def hash32 (initial : Array UInt32) (message : List UInt8) : List UInt8 :=
  let bytes := padded 64 8 message
  let state := (List.range (bytes.size / 64)).foldl
    (fun state block => compress32 bytes state (64 * block)) initial
  state.toList.flatMap fun word => bigEndianBytes 4 word.toNat

end CsvSchema.Digest
