import CsvSchema.Digest.Sha32

/-!
# Secure hash functions on words of 64 bits

SHA-512, and its variants that start from other words and keep fewer bytes: SHA-384, and
SHA-512/224 and SHA-512/256, whose initial words are themselves a hash of their name.
-/

namespace CsvSchema.Digest

/-- The constants of the 80 rounds. -/
def roundWords64 : Array UInt64 :=
  #[0x428a2f98d728ae22, 0x7137449123ef65cd, 0xb5c0fbcfec4d3b2f, 0xe9b5dba58189dbbc,
    0x3956c25bf348b538, 0x59f111f1b605d019, 0x923f82a4af194f9b, 0xab1c5ed5da6d8118,
    0xd807aa98a3030242, 0x12835b0145706fbe, 0x243185be4ee4b28c, 0x550c7dc3d5ffb4e2,
    0x72be5d74f27b896f, 0x80deb1fe3b1696b1, 0x9bdc06a725c71235, 0xc19bf174cf692694,
    0xe49b69c19ef14ad2, 0xefbe4786384f25e3, 0x0fc19dc68b8cd5b5, 0x240ca1cc77ac9c65,
    0x2de92c6f592b0275, 0x4a7484aa6ea6e483, 0x5cb0a9dcbd41fbd4, 0x76f988da831153b5,
    0x983e5152ee66dfab, 0xa831c66d2db43210, 0xb00327c898fb213f, 0xbf597fc7beef0ee4,
    0xc6e00bf33da88fc2, 0xd5a79147930aa725, 0x06ca6351e003826f, 0x142929670a0e6e70,
    0x27b70a8546d22ffc, 0x2e1b21385c26c926, 0x4d2c6dfc5ac42aed, 0x53380d139d95b3df,
    0x650a73548baf63de, 0x766a0abb3c77b2a8, 0x81c2c92e47edaee6, 0x92722c851482353b,
    0xa2bfe8a14cf10364, 0xa81a664bbc423001, 0xc24b8b70d0f89791, 0xc76c51a30654be30,
    0xd192e819d6ef5218, 0xd69906245565a910, 0xf40e35855771202a, 0x106aa07032bbd1b8,
    0x19a4c116b8d2d0c8, 0x1e376c085141ab53, 0x2748774cdf8eeb99, 0x34b0bcb5e19b48a8,
    0x391c0cb3c5c95a63, 0x4ed8aa4ae3418acb, 0x5b9cca4f7763e373, 0x682e6ff3d6b2b8a3,
    0x748f82ee5defb2fc, 0x78a5636f43172f60, 0x84c87814a1f0ab72, 0x8cc702081a6439ec,
    0x90befffa23631e28, 0xa4506cebde82bde9, 0xbef9a3f7b2c67915, 0xc67178f2e372532b,
    0xca273eceea26619c, 0xd186b8c721c0c207, 0xeada7dd6cde0eb1e, 0xf57d4f7fee6ed178,
    0x06f067aa72176fba, 0x0a637dc5a2c898a6, 0x113f9804bef90dae, 0x1b710b35131c471b,
    0x28db77f523047d84, 0x32caab7b40c72493, 0x3c9ebe0a15c9bebc, 0x431d67c49c100d4c,
    0x4cc5d4becb3e42b6, 0x597f299cfc657e2a, 0x5fcb6fab3ad6faec, 0x6c44198c4a475817]

/-- The eight words that SHA-512 starts from. -/
def initial512 : Array UInt64 :=
  #[0x6a09e667f3bcc908, 0xbb67ae8584caa73b, 0x3c6ef372fe94f82b, 0xa54ff53a5f1d36f1,
    0x510e527fade682d1, 0x9b05688c2b3e6c1f, 0x1f83d9abfb41bd6b, 0x5be0cd19137e2179]

/-- The eight words that SHA-384 starts from. -/
def initial384 : Array UInt64 :=
  #[0xcbbb9d5dc1059ed8, 0x629a292a367cd507, 0x9159015a3070dd17, 0x152fecd8f70e5939,
    0x67332667ffc00b31, 0x8eb44a8768581511, 0xdb0c2e0d64f98fa7, 0x47b5481dbefa4fa4]

/-- Rotate a word right. -/
def rotateRight64 (x : UInt64) (n : UInt64) : UInt64 := (x >>> n) ||| (x <<< (64 - n))

/-- The word of eight bytes at a position. -/
def word64At (bytes : Array UInt8) (start : Nat) : UInt64 :=
  (List.range 8).foldl (fun word i => (word <<< 8) ||| (bytes.getD (start + i) 0).toUInt64) 0

/-- The words that the 80 rounds mix in, from one block. -/
def schedule64 (bytes : Array UInt8) (start : Nat) : Array UInt64 :=
  let words := ((List.range 16).map fun i => word64At bytes (start + 8 * i)).toArray
  (List.range 64).foldl (fun words i =>
    let x := words.getD (i + 1) 0
    let y := words.getD (i + 14) 0
    let small := rotateRight64 x 1 ^^^ rotateRight64 x 8 ^^^ (x >>> 7)
    let large := rotateRight64 y 19 ^^^ rotateRight64 y 61 ^^^ (y >>> 6)
    words.push (words.getD i 0 + small + words.getD (i + 9) 0 + large)) words

/-- The working words of a round. -/
structure Working64 where
  a : UInt64
  b : UInt64
  c : UInt64
  d : UInt64
  e : UInt64
  f : UInt64
  g : UInt64
  h : UInt64

/-- One round, with its constant and its scheduled word already added. -/
def Working64.round (w : Working64) (word : UInt64) : Working64 :=
  let sum := rotateRight64 w.e 14 ^^^ rotateRight64 w.e 18 ^^^ rotateRight64 w.e 41
  let choice := (w.e &&& w.f) ^^^ (~~~w.e &&& w.g)
  let first := w.h + sum + choice + word
  let sum := rotateRight64 w.a 28 ^^^ rotateRight64 w.a 34 ^^^ rotateRight64 w.a 39
  let majority := (w.a &&& w.b) ^^^ (w.a &&& w.c) ^^^ (w.b &&& w.c)
  ⟨first + (sum + majority), w.a, w.b, w.c, w.d + first, w.e, w.f, w.g⟩

/-- Mix one block into the state. -/
def compress64 (bytes : Array UInt8) (state : Array UInt64) (start : Nat) : Array UInt64 :=
  let words := schedule64 bytes start
  let begun : Working64 := ⟨state.getD 0 0, state.getD 1 0, state.getD 2 0, state.getD 3 0,
    state.getD 4 0, state.getD 5 0, state.getD 6 0, state.getD 7 0⟩
  let w := (List.range 80).foldl
    (fun w i => w.round (roundWords64.getD i 0 + words.getD i 0)) begun
  #[begun.a + w.a, begun.b + w.b, begun.c + w.c, begun.d + w.d,
    begun.e + w.e, begun.f + w.f, begun.g + w.g, begun.h + w.h]

/-- The words of the final state. -/
def hashWords64 (initial : Array UInt64) (message : List UInt8) : Array UInt64 :=
  let bytes := padded 128 16 message
  (List.range (bytes.size / 128)).foldl
    (fun state block => compress64 bytes state (128 * block)) initial

/-- The bytes of the final state. -/
def hash64 (initial : Array UInt64) (message : List UInt8) : List UInt8 :=
  (hashWords64 initial message).toList.flatMap fun word => bigEndianBytes 8 word.toNat

/-- The initial words of a shortened SHA-512: the hash of its name, from the usual
words with every other bit pair flipped. -/
def initialNamed (name : String) : Array UInt64 :=
  hashWords64 (initial512.map (· ^^^ 0xa5a5a5a5a5a5a5a5)) name.toUTF8.toList

end CsvSchema.Digest
