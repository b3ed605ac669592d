import ConnectTokens.Bytes

/-!
# The SHA-512 hash

A hash of 64 bytes.  The message is padded to blocks of 128 bytes, and each block
is mixed into a state of eight words in eighty rounds.

## Main Definitions

* `round`: one round, on the state and the sixteen words that are to come.
* `compress`: all rounds of one block.
* `digest`: the hash of a message.

## Design Notes

The words of a block are extended as the rounds go on: a round takes the first of
sixteen words and adds a new one behind them.
-/

namespace ConnectTokens.CommandLine.Sha512

/-- The eight words that blocks are mixed into. -/
structure State where
  a : UInt64
  b : UInt64
  c : UInt64
  d : UInt64
  e : UInt64
  f : UInt64
  g : UInt64
  h : UInt64
deriving DecidableEq

/-- The words that are to come. -/
abbrev Window := Vector UInt64 16

/-- The state in front of the first block: the fractional parts of the square
roots of the first eight primes. -/
def start : State where
  a := 0x6a09e667f3bcc908
  b := 0xbb67ae8584caa73b
  c := 0x3c6ef372fe94f82b
  d := 0xa54ff53a5f1d36f1
  e := 0x510e527fade682d1
  f := 0x9b05688c2b3e6c1f
  g := 0x1f83d9abfb41bd6b
  h := 0x5be0cd19137e2179

/-- The constants of the rounds: the fractional parts of the cube roots of the
first eighty primes. -/
def constants : List UInt64 := [
  0x428a2f98d728ae22, 0x7137449123ef65cd, 0xb5c0fbcfec4d3b2f, 0xe9b5dba58189dbbc,
  0x3956c25bf348b538, 0x59f111f1b605d019, 0x923f82a4af194f9b, 0xab1c5ed5da6d8118,
  0xd807aa98a3030242, 0x12835b0145706fbe, 0x243185be4ee4b28c, 0x550c7dc3d5ffb4e2,
  0x72be5d74f27b896f, 0x80deb1fe3b1696b1, 0x9bdc06a725c71235, 0xc19bf174cf692694,
  0xe49b69c19ef14ad2, 0xefbe4786384f25e3, 0x0fc19dc68b8cd5b5, 0x240ca1cc77ac9c65,
  0x2de92c6f592b0275, 0x4a7484aa6ea6e483, 0x5cb0a9dcbd41fbd4, 0x76f988da831153b5,
  0x983e5152ee66dfab, 0xa831c66d2db43210, 0xb00327c898fb213f, 0xbf597fc7beef0ee4,
  0xc6e00bf33da88fc2, 0xd5a79147930aa725, 0x06ca6351e003826f, 0x142929670a0e6e70,
  0x27b70a8546d22ffc, 0x2e1b21385c26c926, 0x4d2c6dfc5ac42aed, 0x53380d139d95b3df,
  0x650a73548baf63de, 0x766a0abb3c77b2a8, 0x81c2c92e47edaee6, 0x92722c851482353b,
  0xa2bfe8a14cf10364, 0xa81a664bbc423001, 0xc24b8b70d0f89791, 0xc76c51a30654be30,
  0xd192e819d6ef5218, 0xd69906245565a910, 0xf40e35855771202a, 0x106aa07032bbd1b8,
  0x19a4c116b8d2d0c8, 0x1e376c085141ab53, 0x2748774cdf8eeb99, 0x34b0bcb5e19b48a8,
  0x391c0cb3c5c95a63, 0x4ed8aa4ae3418acb, 0x5b9cca4f7763e373, 0x682e6ff3d6b2b8a3,
  0x748f82ee5defb2fc, 0x78a5636f43172f60, 0x84c87814a1f0ab72, 0x8cc702081a6439ec,
  0x90befffa23631e28, 0xa4506cebde82bde9, 0xbef9a3f7b2c67915, 0xc67178f2e372532b,
  0xca273eceea26619c, 0xd186b8c721c0c207, 0xeada7dd6cde0eb1e, 0xf57d4f7fee6ed178,
  0x06f067aa72176fba, 0x0a637dc5a2c898a6, 0x113f9804bef90dae, 0x1b710b35131c471b,
  0x28db77f523047d84, 0x32caab7b40c72493, 0x3c9ebe0a15c9bebc, 0x431d67c49c100d4c,
  0x4cc5d4becb3e42b6, 0x597f299cfc657e2a, 0x5fcb6fab3ad6faec, 0x6c44198c4a475817]

/-- A word with its bits turned towards the low end. -/
def rotate (x n : UInt64) : UInt64 := (x >>> n) ||| (x <<< (64 - n))

/-- What the first word of the state adds to a round. -/
def spreadFirst (x : UInt64) : UInt64 := rotate x 28 ^^^ rotate x 34 ^^^ rotate x 39

/-- What the fifth word of the state adds to a round. -/
def spreadFifth (x : UInt64) : UInt64 := rotate x 14 ^^^ rotate x 18 ^^^ rotate x 41

/-- The bits of `y` where `x` is set, and of `z` elsewhere. -/
def choice (x y z : UInt64) : UInt64 := (x &&& y) ^^^ (~~~x &&& z)

/-- The bits that most of three words have. -/
def majority (x y z : UInt64) : UInt64 := (x &&& y) ^^^ (x &&& z) ^^^ (y &&& z)

/-- The word behind a window. -/
def nextWord (w : Window) : UInt64 :=
  let early := rotate w[1] 1 ^^^ rotate w[1] 8 ^^^ (w[1] >>> 7)
  let late := rotate w[14] 19 ^^^ rotate w[14] 61 ^^^ (w[14] >>> 6)
  w[0] + early + w[9] + late

/-- The window one word further on. -/
def Window.advance (w : Window) : Window :=
  Vector.ofFn fun i => if h : i.val + 1 < 16 then w[i.val + 1] else nextWord w

/-- One round with its constant. -/
def round (s : State) (word constant : UInt64) : State :=
  let fresh := s.h + spreadFifth s.e + choice s.e s.f s.g + constant + word
  { a := fresh + spreadFirst s.a + majority s.a s.b s.c
    b := s.a, c := s.b, d := s.c
    e := s.d + fresh
    f := s.e, g := s.f, h := s.g }

/-- The rounds of the given constants. -/
def rounds : List UInt64 → State → Window → State
  | [], s, _ => s
  | constant :: rest, s, w => rounds rest (round s w[0] constant) w.advance

/-- Mixes a block into a state. -/
def compress (s : State) (w : Window) : State :=
  let mixed := rounds constants s w
  { a := s.a + mixed.a, b := s.b + mixed.b, c := s.c + mixed.c, d := s.d + mixed.d
    e := s.e + mixed.e, f := s.f + mixed.f, g := s.g + mixed.g, h := s.h + mixed.h }

/-- The bytes of a word, most significant first. -/
def bytesOf (x : UInt64) : Bytes := (Bytes.ofUInt64 x).reverse

/-- The words of a block. -/
def windowOf (block : Bytes) : Window :=
  Vector.ofFn fun i => Bytes.toUInt64 ((block.drop (8 * i.val)).take 8).reverse

/-- What stands behind a message: a one, zeros, and the number of its bits. -/
def padding (size : Nat) : Bytes :=
  0x80 :: List.replicate ((239 - size % 128) % 128) 0 ++ (Bytes.littleEndian 16 (8 * size)).reverse

/-- Mixes the blocks of a padded message into a state. -/
def absorb (s : State) (message : Bytes) : State :=
  if message = [] then s
  else absorb (compress s (windowOf (message.take 128))) (message.drop 128)
termination_by message.length
decreasing_by
  have := List.length_pos_iff.mpr ‹_›
  simp only [List.length_drop]
  omega

/-- The hash of a message. -/
def digest (message : Bytes) : Block 64 where
  toList :=
    let s := absorb start (message ++ padding message.length)
    bytesOf s.a ++ bytesOf s.b ++ bytesOf s.c ++ bytesOf s.d ++
      bytesOf s.e ++ bytesOf s.f ++ bytesOf s.g ++ bytesOf s.h
  length_toList := by simp [bytesOf, Bytes.ofUInt64]

end ConnectTokens.CommandLine.Sha512
