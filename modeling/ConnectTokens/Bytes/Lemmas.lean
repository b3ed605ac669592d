import ConnectTokens.Bytes
import Mathlib.Algebra.Ring.Nat

/-!
# Laws of byte strings

The value of a byte string is bounded by its length, and a number that is written
with enough bytes reads back as itself.

## Main Statements

* `Bytes.ofLittleEndian_lt`: the bound.
* `Bytes.ofLittleEndian_littleEndian`: reading back keeps the digits that fit.
-/

namespace ConnectTokens.Bytes

theorem ofLittleEndian_lt (bytes : Bytes) : ofLittleEndian bytes < 256 ^ bytes.length := by
  induction bytes with
  | nil => simp [ofLittleEndian]
  | cons b rest ih =>
    have := b.toNat_lt
    simp only [ofLittleEndian, List.length_cons, Nat.pow_succ]
    omega

/-- Reading back what was written keeps the digits that fit. -/
theorem ofLittleEndian_littleEndian (width n : Nat) :
    ofLittleEndian (littleEndian width n) = n % 256 ^ width := by
  induction width generalizing n with
  | zero => simp [littleEndian, ofLittleEndian, Nat.mod_one]
  | succ width ih =>
    simp only [littleEndian, ofLittleEndian, ih, Nat.pow_succ, Nat.mul_comm (256 ^ width)]
    rw [Nat.mod_mul]
    simp

end ConnectTokens.Bytes
