/-!
# Byte strings

Byte strings are lists of `UInt8`.  A field of known size is a `Block`, a byte
string that carries the proof of its length.

## Main Definitions

* `Bytes.littleEndian`, `Bytes.ofLittleEndian`: numbers written with the least
  significant byte first, and their value.
* `Block`: a byte string of a fixed length.
* `Block.pad`: a byte string brought to a fixed length with zeros behind it.

## Design Notes

The fixed-width words of the token format are written through their `Nat` values,
so that one pair of laws serves all widths: `littleEndian_ofLittleEndian` here,
and `ofLittleEndian_littleEndian` among the lemmas.
-/

namespace ConnectTokens

/-- A byte string. -/
abbrev Bytes := List UInt8

namespace Bytes

/-- The `width` lowest bytes of `n`, least significant first. -/
def littleEndian : (width n : Nat) → Bytes
  | 0, _ => []
  | width + 1, n => UInt8.ofNat n :: littleEndian width (n / 256)

/-- The number that a byte string denotes, least significant byte first. -/
def ofLittleEndian : Bytes → Nat
  | [] => 0
  | b :: rest => b.toNat + 256 * ofLittleEndian rest

@[simp] theorem length_littleEndian (width n : Nat) :
    (littleEndian width n).length = width := by
  induction width generalizing n with
  | zero => rfl
  | succ width ih => simp [littleEndian, ih]

/-- Every byte string is the writing of its own value. -/
theorem littleEndian_ofLittleEndian (bytes : Bytes) :
    littleEndian bytes.length (ofLittleEndian bytes) = bytes := by
  induction bytes with
  | nil => rfl
  | cons b rest ih =>
    have hb := b.toNat_lt
    have hdiv : (b.toNat + 256 * ofLittleEndian rest) / 256 = ofLittleEndian rest := by omega
    have hmod : UInt8.ofNat (b.toNat + 256 * ofLittleEndian rest) = b := by
      apply UInt8.toNat_inj.mp
      simp only [UInt8.toNat_ofNat']
      omega
    simp only [ofLittleEndian, List.length_cons, littleEndian, hdiv, hmod, ih]

/-- The eight bytes of a 64 bit word. -/
def ofUInt64 (x : UInt64) : Bytes := littleEndian 8 x.toNat

/-- The four bytes of a 32 bit word. -/
def ofUInt32 (x : UInt32) : Bytes := littleEndian 4 x.toNat

/-- The four bytes of a signed 32 bit word, in two's complement. -/
def ofInt32 (x : Int32) : Bytes := ofUInt32 x.toUInt32

/-- The two bytes of a 16 bit word. -/
def ofUInt16 (x : UInt16) : Bytes := littleEndian 2 x.toNat

/-- The 64 bit word that a byte string denotes. -/
def toUInt64 (bytes : Bytes) : UInt64 := UInt64.ofNat (ofLittleEndian bytes)

/-- The 32 bit word that a byte string denotes. -/
def toUInt32 (bytes : Bytes) : UInt32 := UInt32.ofNat (ofLittleEndian bytes)

/-- The signed 32 bit word that a byte string denotes. -/
def toInt32 (bytes : Bytes) : Int32 := (toUInt32 bytes).toInt32

/-- The 16 bit word that a byte string denotes. -/
def toUInt16 (bytes : Bytes) : UInt16 := UInt16.ofNat (ofLittleEndian bytes)

/-- Exclusive or, byte by byte, as far as both strings reach. -/
def xor (a b : Bytes) : Bytes := List.zipWith (· ^^^ ·) a b

/-- A byte string with `patch` written over it from `offset` on; what would
stand past the end is dropped. -/
def overwrite (bytes : Bytes) (offset : Nat) (patch : Bytes) : Bytes :=
  (bytes.take offset ++ patch ++ bytes.drop (offset + patch.length)).take bytes.length

end Bytes

/-- A byte string of exactly `size` bytes. -/
@[ext] structure Block (size : Nat) where
  toList : Bytes
  length_toList : toList.length = size
deriving DecidableEq

namespace Block

attribute [simp] Block.length_toList

/-- The first `size` bytes of a byte string, with zeros where it is shorter. -/
def pad (size : Nat) (bytes : Bytes) : Block size where
  toList := (bytes ++ List.replicate size 0).take size
  length_toList := by simp

/-- A byte string as a block, when it has the right length. -/
def ofList? (size : Nat) (bytes : Bytes) : Option (Block size) :=
  if h : bytes.length = size then some ⟨bytes, h⟩ else none

/-- The block of zeros. -/
def zero (size : Nat) : Block size := pad size []

instance (size : Nat) : Inhabited (Block size) := ⟨zero size⟩

@[simp] theorem ofList?_toList {size : Nat} (b : Block size) :
    ofList? size b.toList = some b := by
  simp [ofList?]

/-- Padding a byte string that fits leaves it in front of zeros. -/
theorem toList_pad_of_le {size : Nat} {bytes : Bytes} (h : bytes.length ≤ size) :
    (pad size bytes).toList = bytes ++ List.replicate (size - bytes.length) 0 := by
  simp only [pad, List.take_append, List.take_of_length_le h, List.take_replicate]
  congr 2
  omega

@[simp] theorem pad_toList {size : Nat} (b : Block size) : pad size b.toList = b := by
  ext1
  rw [toList_pad_of_le (by simp)]
  simp

end Block

end ConnectTokens
