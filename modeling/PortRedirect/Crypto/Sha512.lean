import PortRedirect.Text.Utf8

namespace PortRedirect.Crypto.Sha512

open PortRedirect.Text

/-! SHA-512, structurally recursive so that the kernel can run it. -/

def roundConstants : List UInt64 :=
  [0x428a2f98d728ae22, 0x7137449123ef65cd, 0xb5c0fbcfec4d3b2f, 0xe9b5dba58189dbbc,
   0x3956c25bf348b538, 0x59f111f1b605d019, 0x923f82a4af194f9b, 0xab1c5ed5da6d8118,
   0xd807aa98a3030242, 0x12835b0145706fbe, 0x243185be4ee4b28c, 0x550c7dc3d5ffb4e2,
   0x72be5d74f27b896f, 0x80deb1fe3b1696b1, 0x9bdc06a725c71235, 0xc19bf174cf692694,
   0xe49b69c19ef14ad2, 0xefbe4786384f25e3, 0x0fc19dc68b8cd5b5, 0x240ca1cc77ac9c65,
   0x2de92c6f592b0275, 0x4a7484aa6ea6e483, 0x5cb0a9dcbd41fbd4, 0x76f988da831153b5,
   0x983e5152ee66dfab, 0xa831c66d2db43210, 0xb00327c898fb213f, 0xbf597fc7beef0ee4,
   0xc6e00bf33da88fc2, 0xd5a79147930aa725, 0x06ca6351e003826f, 0x142929670a0e6e70,
   0x27b70a8546d22ffc, 0x2e1b21385c26c926, 0x4d2c6dfc5ac42aed, 0x53380d139d95b3df,
   0x650a73548baf63de, 0x766a0abb3c77b2a8, 0x81c2c92e47edaee6, 0x92722c851482353b,
   0xa2bfe8a14cf10364, 0xa81a664bbc423001, 0xc24b8b70d0f89791, 0xc76c51a30654be30,
   0xd192e819d6ef5218, 0xd69906245565a910, 0xf40e35855771202a, 0x106aa07032bbd1b8,
   0x19a4c116b8d2d0c8, 0x1e376c085141ab53, 0x2748774cdf8eeb99, 0x34b0bcb5e19b48a8,
   0x391c0cb3c5c95a63, 0x4ed8aa4ae3418acb, 0x5b9cca4f7763e373, 0x682e6ff3d6b2b8a3,
   0x748f82ee5defb2fc, 0x78a5636f43172f60, 0x84c87814a1f0ab72, 0x8cc702081a6439ec,
   0x90befffa23631e28, 0xa4506cebde82bde9, 0xbef9a3f7b2c67915, 0xc67178f2e372532b,
   0xca273eceea26619c, 0xd186b8c721c0c207, 0xeada7dd6cde0eb1e, 0xf57d4f7fee6ed178,
   0x06f067aa72176fba, 0x0a637dc5a2c898a6, 0x113f9804bef90dae, 0x1b710b35131c471b,
   0x28db77f523047d84, 0x32caab7b40c72493, 0x3c9ebe0a15c9bebc, 0x431d67c49c100d4c,
   0x4cc5d4becb3e42b6, 0x597f299cfc657e2a, 0x5fcb6fab3ad6faec, 0x6c44198c4a475817]

/-- The eight working variables. -/
structure Words where
  a : UInt64
  b : UInt64
  c : UInt64
  d : UInt64
  e : UInt64
  f : UInt64
  g : UInt64
  h : UInt64

def initialHash : Words :=
  ⟨0x6a09e667f3bcc908, 0xbb67ae8584caa73b, 0x3c6ef372fe94f82b, 0xa54ff53a5f1d36f1,
   0x510e527fade682d1, 0x9b05688c2b3e6c1f, 0x1f83d9abfb41bd6b, 0x5be0cd19137e2179⟩

def rotateRight (word count : UInt64) : UInt64 :=
  (word >>> count) ||| (word <<< (64 - count))

def schedule : Nat → List UInt64 → List UInt64
  | 0, words => words
  | count + 1, words =>
      let early := words.getD 14 0
      let late := words.getD 1 0
      let sigma0 := rotateRight early 1 ^^^ rotateRight early 8 ^^^ (early >>> 7)
      let sigma1 := rotateRight late 19 ^^^ rotateRight late 61 ^^^ (late >>> 6)
      schedule count ((words.getD 15 0 + sigma0 + words.getD 6 0 + sigma1) :: words)

def round (state : Words) (constant word : UInt64) : Words :=
  let sum1 := rotateRight state.e 14 ^^^ rotateRight state.e 18 ^^^ rotateRight state.e 41
  let choice := (state.e &&& state.f) ^^^ (~~~state.e &&& state.g)
  let first := state.h + sum1 + choice + constant + word
  let sum0 := rotateRight state.a 28 ^^^ rotateRight state.a 34 ^^^ rotateRight state.a 39
  let majority := (state.a &&& state.b) ^^^ (state.a &&& state.c) ^^^ (state.b &&& state.c)
  ⟨first + (sum0 + majority), state.a, state.b, state.c, state.d + first, state.e,
    state.f, state.g⟩

def rounds : List UInt64 → List UInt64 → Words → Words
  | constant :: constants, word :: words, state =>
      rounds constants words (round state constant word)
  | _, _, state => state

def wordOfBytes (bytes : Bytes) : UInt64 :=
  bytes.foldl (fun word byte => (word <<< 8) ||| byte.toUInt64) 0

def bytesOfWord (word : UInt64) : Bytes :=
  ([56, 48, 40, 32, 24, 16, 8, 0] : List UInt64).map fun count =>
    (word >>> count).toUInt8

def wordsOfBytes : Nat → Bytes → List UInt64
  | 0, _ => []
  | count + 1, bytes => wordOfBytes (bytes.take 8) :: wordsOfBytes count (bytes.drop 8)

def compress (state : Words) (block : Bytes) : Words :=
  let words := (schedule 64 (wordsOfBytes 16 block).reverse).reverse
  let mixed := rounds roundConstants words state
  ⟨state.a + mixed.a, state.b + mixed.b, state.c + mixed.c, state.d + mixed.d,
    state.e + mixed.e, state.f + mixed.f, state.g + mixed.g, state.h + mixed.h⟩

/-- A one bit, zeros, and the message's length in bits as a 128-bit number. -/
def pad (message : Bytes) : Bytes :=
  message ++ [0x80] ++
    List.replicate ((239 - message.length % 128) % 128) 0 ++
    bytesOfWord (UInt64.ofNat (8 * message.length / 2 ^ 64)) ++
    bytesOfWord (UInt64.ofNat (8 * message.length))

def blocks : Nat → Bytes → Words → Words
  | 0, _, state => state
  | count + 1, bytes, state =>
      blocks count (bytes.drop 128) (compress state (bytes.take 128))

def bytesOfWords (state : Words) : Bytes :=
  bytesOfWord state.a ++ bytesOfWord state.b ++ bytesOfWord state.c ++
    bytesOfWord state.d ++ bytesOfWord state.e ++ bytesOfWord state.f ++
    bytesOfWord state.g ++ bytesOfWord state.h

theorem length_bytesOfWords (state : Words) : (bytesOfWords state).length = 64 := rfl

def digest (message : Bytes) : Vector UInt8 64 :=
  let padded := pad message
  let state := blocks (padded.length / 128) padded initialHash
  ⟨(bytesOfWords state).toArray, length_bytesOfWords state⟩

example : (digest [97, 98, 99]).toList =
    [0xdd, 0xaf, 0x35, 0xa1, 0x93, 0x61, 0x7a, 0xba, 0xcc, 0x41, 0x73, 0x49, 0xae,
     0x20, 0x41, 0x31, 0x12, 0xe6, 0xfa, 0x4e, 0x89, 0xa9, 0x7e, 0xa2, 0x0a, 0x9e,
     0xee, 0xe6, 0x4b, 0x55, 0xd3, 0x9a, 0x21, 0x92, 0x99, 0x2a, 0x27, 0x4f, 0xc1,
     0xa8, 0x36, 0xba, 0x3c, 0x23, 0xa3, 0xfe, 0xeb, 0xbd, 0x45, 0x4d, 0x44, 0x23,
     0x64, 0x3c, 0xe8, 0x0e, 0x2a, 0x9a, 0xc9, 0x4f, 0xa5, 0x4c, 0xa4, 0x9f] := by
  decide +kernel

end PortRedirect.Crypto.Sha512
