/-!
# `Digest/Sha256` — the SHA-256 digest

The message is padded to whole blocks of 64 bytes, and every block stirs eight words of state
through 64 rounds. Words are 32 bits wide and wrap around.
-/

set_option autoImplicit false

namespace MetesBounds.Digest

/-- The words of the round constants: the first 32 bits of the fractions of the cube roots of the
first 64 primes. -/
def roundConstants : List UInt32 := [
  0x428a2f98, 0x71374491, 0xb5c0fbcf, 0xe9b5dba5, 0x3956c25b, 0x59f111f1, 0x923f82a4, 0xab1c5ed5,
  0xd807aa98, 0x12835b01, 0x243185be, 0x550c7dc3, 0x72be5d74, 0x80deb1fe, 0x9bdc06a7, 0xc19bf174,
  0xe49b69c1, 0xefbe4786, 0x0fc19dc6, 0x240ca1cc, 0x2de92c6f, 0x4a7484aa, 0x5cb0a9dc, 0x76f988da,
  0x983e5152, 0xa831c66d, 0xb00327c8, 0xbf597fc7, 0xc6e00bf3, 0xd5a79147, 0x06ca6351, 0x14292967,
  0x27b70a85, 0x2e1b2138, 0x4d2c6dfc, 0x53380d13, 0x650a7354, 0x766a0abb, 0x81c2c92e, 0x92722c85,
  0xa2bfe8a1, 0xa81a664b, 0xc24b8b70, 0xc76c51a3, 0xd192e819, 0xd6990624, 0xf40e3585, 0x106aa070,
  0x19a4c116, 0x1e376c08, 0x2748774c, 0x34b0bcb5, 0x391c0cb3, 0x4ed8aa4a, 0x5b9cca4f, 0x682e6ff3,
  0x748f82ee, 0x78a5636f, 0x84c87814, 0x8cc70208, 0x90befffa, 0xa4506ceb, 0xbef9a3f7, 0xc67178f2
]

/-- Eight words of state. -/
structure State where
  a : UInt32
  b : UInt32
  c : UInt32
  d : UInt32
  e : UInt32
  f : UInt32
  g : UInt32
  h : UInt32

/-- The state before the first block: the first 32 bits of the fractions of the square roots of
the first eight primes. -/
def State.start : State :=
  ⟨0x6a09e667, 0xbb67ae85, 0x3c6ef372, 0xa54ff53a, 0x510e527f, 0x9b05688c, 0x1f83d9ab, 0x5be0cd19⟩

/-- The words of a state. -/
def State.words (s : State) : List UInt32 := [s.a, s.b, s.c, s.d, s.e, s.f, s.g, s.h]

/-- A word turned to the right. -/
def turn (x : UInt32) (n : UInt32) : UInt32 := (x >>> n) ||| (x <<< (32 - n))

/-- One round with its message word and constant. -/
def State.round (s : State) (wk : UInt32 × UInt32) : State :=
  let big1 := turn s.e 6 ^^^ turn s.e 11 ^^^ turn s.e 25
  let choice := (s.e &&& s.f) ^^^ (~~~s.e &&& s.g)
  let t1 := s.h + big1 + choice + wk.2 + wk.1
  let big0 := turn s.a 2 ^^^ turn s.a 13 ^^^ turn s.a 22
  let majority := (s.a &&& s.b) ^^^ (s.a &&& s.c) ^^^ (s.b &&& s.c)
  ⟨t1 + (big0 + majority), s.a, s.b, s.c, s.d + t1, s.e, s.f, s.g⟩

/-- Words added to a state. -/
def State.add (s t : State) : State :=
  ⟨s.a + t.a, s.b + t.b, s.c + t.c, s.d + t.d, s.e + t.e, s.f + t.f, s.g + t.g, s.h + t.h⟩

/-- The next message word, from the words before it, latest first. -/
def nextWord (before : List UInt32) : UInt32 :=
  let x := before.getD 14 0
  let y := before.getD 1 0
  let small0 := turn x 7 ^^^ turn x 18 ^^^ (x >>> 3)
  let small1 := turn y 17 ^^^ turn y 19 ^^^ (y >>> 10)
  before.getD 15 0 + small0 + before.getD 6 0 + small1

/-- The sixteen words of a block and `n` more, latest first. -/
def schedule (before : List UInt32) : Nat → List UInt32
  | 0 => before
  | n + 1 => schedule (nextWord before :: before) n

/-- Four bytes as a word, most significant first. -/
def wordOf (bytes : List UInt8) : UInt32 :=
  bytes.foldl (fun w b => (w <<< 8) ||| b.toUInt32) 0

/-- The words of `n` times four bytes. -/
def wordsOf (bytes : List UInt8) : Nat → List UInt32
  | 0 => []
  | n + 1 => wordOf (bytes.take 4) :: wordsOf (bytes.drop 4) n

/-- One block worked into the state. -/
def State.block (s : State) (bytes : List UInt8) : State :=
  let words := (schedule (wordsOf bytes 16).reverse 48).reverse
  s.add ((words.zip roundConstants).foldl State.round s)

/-- A number in bytes, most significant first. -/
def bytesOf (n : Nat) : Nat → List UInt8
  | 0 => []
  | width + 1 => UInt8.ofNat (n >>> (8 * width)) :: bytesOf n width

/-- A message with its padding: a single bit, zeros, and its length in bits. -/
def padded (message : List UInt8) : List UInt8 :=
  message ++ 0x80 :: List.replicate ((119 - message.length % 64) % 64) 0 ++
    bytesOf (8 * message.length) 8

/-- The blocks of a padded message worked into the state one after the other. -/
def blocks (s : State) (bytes : List UInt8) : Nat → State
  | 0 => s
  | n + 1 => blocks (s.block (bytes.take 64)) (bytes.drop 64) n

/-- The digest of a message: 32 bytes. -/
def sha256 (message : List UInt8) : List UInt8 :=
  let bytes := padded message
  (blocks .start bytes (bytes.length / 64)).words.flatMap fun w => bytesOf w.toNat 4

end MetesBounds.Digest
