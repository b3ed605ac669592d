import ConnectTokens.Bytes.Lemmas
import ConnectTokens.Nonce

/-!
# Words, tags and nonces read back

Every fixed-width field of a token is a word, a version tag or a nonce.  Each of
them has one written form: a byte string is the writing of a value exactly when
it has the right length and reads back as that value.

## Main Statements

* `Bytes.eq_ofUInt64_iff` and its companions for the other widths.
* `Block.eq_toList_iff`: a byte string of the right size is one block.
* `Scheme.ofVersionTag?_eq_some_iff`: the bytes of a tag tell its scheme.
* `Nonce.eq_bytes_iff`: the bytes of a nonce and its scheme tell the nonce.

## Design Notes

The statements are equivalences, so that one lemma serves the writer (left to
right) and the reader (right to left).
-/

namespace ConnectTokens

namespace Bytes

/-- A byte string of some width writes a number below that many powers of 256, so that no width
has more numbers than it has byte strings. -/
theorem ofLittleEndian_lt_of_length {bytes : Bytes} {width : Nat}
    (length : bytes.length = width) : ofLittleEndian bytes < 256 ^ width :=
  length ▸ ofLittleEndian_lt bytes

/-- A number that fits its width has one written form: the byte strings of that width and the
numbers below its bound stand one to one. -/
theorem eq_littleEndian_iff {bytes : Bytes} {width n : Nat} (fits : n < 256 ^ width) :
    bytes = littleEndian width n ↔ bytes.length = width ∧ ofLittleEndian bytes = n := by
  constructor
  · rintro rfl
    exact ⟨length_littleEndian width n, by
      rw [ofLittleEndian_littleEndian, Nat.mod_eq_of_lt fits]⟩
  · rintro ⟨rfl, rfl⟩
    exact (littleEndian_ofLittleEndian bytes).symm

/-- A word of 64 bits has one written form of eight bytes.  All words of a header are of this size
or the half of it. -/
theorem eq_ofUInt64_iff {bytes : Bytes} {x : UInt64} :
    bytes = ofUInt64 x ↔ bytes.length = 8 ∧ toUInt64 bytes = x := by
  rw [ofUInt64, eq_littleEndian_iff x.toNat_lt]
  refine and_congr_right fun length => ?_
  have small : ofLittleEndian bytes < UInt64.size := ofLittleEndian_lt_of_length length
  rw [toUInt64, ← UInt64.toNat_inj, UInt64.toNat_ofNat_of_lt' small]

theorem eq_ofUInt32_iff {bytes : Bytes} {x : UInt32} :
    bytes = ofUInt32 x ↔ bytes.length = 4 ∧ toUInt32 bytes = x := by
  rw [ofUInt32, eq_littleEndian_iff x.toNat_lt]
  refine and_congr_right fun length => ?_
  have small : ofLittleEndian bytes < UInt32.size := ofLittleEndian_lt_of_length length
  rw [toUInt32, ← UInt32.toNat_inj, UInt32.toNat_ofNat_of_lt' small]

theorem eq_ofUInt16_iff {bytes : Bytes} {x : UInt16} :
    bytes = ofUInt16 x ↔ bytes.length = 2 ∧ toUInt16 bytes = x := by
  rw [ofUInt16, eq_littleEndian_iff x.toNat_lt]
  refine and_congr_right fun length => ?_
  have small : ofLittleEndian bytes < UInt16.size := ofLittleEndian_lt_of_length length
  rw [toUInt16, ← UInt16.toNat_inj, UInt16.toNat_ofNat_of_lt' small]

/-- A signed word is written as the unsigned word with the same bits, so that a negative timeout
has one written form as well. -/
theorem eq_ofInt32_iff {bytes : Bytes} {x : Int32} :
    bytes = ofInt32 x ↔ bytes.length = 4 ∧ toInt32 bytes = x := by
  rw [ofInt32, eq_ofUInt32_iff, toInt32]
  refine and_congr_right fun _ => ?_
  constructor
  · intro h
    rw [h]
    simp
  · rintro rfl
    simp

@[simp] theorem length_ofUInt64 (x : UInt64) : (ofUInt64 x).length = 8 :=
  length_littleEndian 8 _

@[simp] theorem length_ofUInt32 (x : UInt32) : (ofUInt32 x).length = 4 :=
  length_littleEndian 4 _

@[simp] theorem length_ofInt32 (x : Int32) : (ofInt32 x).length = 4 :=
  length_ofUInt32 _

end Bytes

namespace Block

/-- A block is its own padding, and the only byte string of its size that is.  This is how a field
of fixed size is recognised in a row of bytes. -/
theorem eq_toList_iff {size : Nat} {bytes : Bytes} {b : Block size} :
    bytes = b.toList ↔ bytes.length = size ∧ pad size bytes = b := by
  constructor
  · rintro rfl
    exact ⟨b.length_toList, pad_toList b⟩
  · rintro ⟨length, rfl⟩
    exact (congrArg toList (pad_toList ⟨bytes, length⟩)).symm

end Block

namespace Scheme

/-- The version tag is the only byte string that tells a scheme; nothing that differs from both
tags in a single byte is taken for either. -/
theorem ofVersionTag?_eq_some_iff {bytes : Bytes} {s : Scheme} :
    ofVersionTag? bytes = some s ↔ bytes = s.versionTag.toList := by
  constructor
  · intro h
    unfold ofVersionTag? at h
    split at h
    · next isExtended => cases h; exact isExtended
    · split at h
      · next isSequence => cases h; exact isSequence
      · cases h
  · rintro rfl
    exact ofVersionTag?_versionTag s

end Scheme

namespace Nonce

/-- A nonce has one written form within its scheme.  The scheme has to be known from elsewhere,
since the form does not tell it. -/
theorem eq_bytes_iff {bytes : Bytes} {n : Nonce} :
    bytes = n.bytes ↔ bytes.length = n.scheme.nonceSize ∧ ofBytes n.scheme bytes = n := by
  cases n with
  | sequence value =>
      simp only [Nonce.bytes, scheme, ofBytes, Scheme.nonceSize, Size.sequenceNonce,
        Bytes.eq_ofUInt64_iff, sequence.injEq]
  | extended block =>
      simp only [Nonce.bytes, scheme, ofBytes, Scheme.nonceSize, Block.eq_toList_iff,
        extended.injEq]

/-- Bytes that are read under a scheme give a nonce of that scheme, whatever the bytes are. -/
@[simp] theorem scheme_ofBytes (s : Scheme) (bytes : Bytes) :
    (ofBytes s bytes).scheme = s := by
  cases s <;> rfl

end Nonce

end ConnectTokens
