import ConnectTokens.Bytes

/-!
# The ChaCha20 stream cipher

A keystream from a 32 byte key, a 12 byte nonce and a 32 bit block counter, and
the key derivation that lets a nonce have 24 bytes.

## Main Definitions

* `block`: 64 bytes of keystream.
* `keystream`: as many bytes as wanted, from block 1 on.
* `deriveKey`: the key for the last 8 bytes of a 24 byte nonce.
-/

namespace ConnectTokens.ChaCha

/-- Sixteen 32 bit words. -/
abbrev State := Vector UInt32 16

/-- A word with its bits turned towards the high end. -/
def rotate (x n : UInt32) : UInt32 := (x <<< n) ||| (x >>> (32 - n))

/-- Adds the word at `b` to that at `a`, and mixes the sum into the word at `d`. -/
def mix (a b d : Fin 16) (turn : UInt32) (s : State) : State :=
  let sum := s[a] + s[b]
  (s.set a sum).set d (rotate (s[d] ^^^ sum) turn)

/-- The quarter round on four words. -/
def quarterRound (a b c d : Fin 16) (s : State) : State :=
  mix c d b 7 (mix a b d 8 (mix c d b 12 (mix a b d 16 s)))

/-- A round on the columns and a round on the diagonals. -/
def doubleRound (s : State) : State :=
  let columns := quarterRound 3 7 11 15 (quarterRound 2 6 10 14
    (quarterRound 1 5 9 13 (quarterRound 0 4 8 12 s)))
  quarterRound 3 4 9 14 (quarterRound 2 7 8 13
    (quarterRound 1 6 11 12 (quarterRound 0 5 10 15 columns)))

/-- All twenty rounds. -/
def rounds (s : State) : State := Nat.repeat doubleRound 10 s

/-- The words of a byte string, least significant byte first. -/
def wordsOf : Bytes → List UInt32
  | a :: b :: c :: d :: rest => Bytes.toUInt32 [a, b, c, d] :: wordsOf rest
  | _ => []

/-- The four words that every state starts with. -/
def constants : List UInt32 := [0x61707865, 0x3320646e, 0x79622d32, 0x6b206574]

/-- The state of a key and the 16 bytes that stand behind it. -/
def start (key : Block 32) (behind : Bytes) : State :=
  let words := constants ++ wordsOf key.toList ++ wordsOf behind
  Vector.ofFn fun i => words.getD i 0

/-- The bytes of a state. -/
def bytesOf (s : State) : Block 64 where
  toList := s.toList.flatMap Bytes.ofUInt32
  length_toList := by
    simp [List.length_flatMap, Bytes.ofUInt32, List.map_const']

/-- The block of keystream at a counter. -/
def block (key : Block 32) (nonce : Block 12) (counter : UInt32) : Block 64 :=
  let s := start key (Bytes.ofUInt32 counter ++ nonce.toList)
  bytesOf (Vector.zipWith (· + ·) (rounds s) s)

/-- The first `size` bytes of keystream, from block 1 on. -/
def keystream (key : Block 32) (nonce : Block 12) (size : Nat) : Bytes :=
  ((List.range ((size + 63) / 64)).flatMap fun i =>
    (block key nonce (UInt32.ofNat (i + 1))).toList).take size

/-- The key for the end of a long nonce, from its first 16 bytes. -/
def deriveKey (key : Block 32) (front : Block 16) : Block 32 :=
  let s := (rounds (start key front.toList)).toList
  Block.pad 32 ((s.take 4 ++ s.drop 12).flatMap Bytes.ofUInt32)

@[simp] theorem length_keystream (key : Block 32) (nonce : Block 12) (size : Nat) :
    (keystream key nonce size).length = size := by
  simp only [keystream, List.length_take, List.length_flatMap, Block.length_toList,
    List.map_const', List.sum_replicate_nat, List.length_range]
  omega

end ConnectTokens.ChaCha
