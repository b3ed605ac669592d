/-!
# Decimal numbers

Numbers written with the ten ASCII digits.  Leading zeros are allowed and a
number that does not fit its width is no number.

## Main Definitions

* `natural?`: one or more digits.
* `unsigned?`, `signed?`: with an optional sign in front.
* `uint16?`, `uint32?`, `uint64?`, `int32?`, `int64?`: numbers of a fixed width.
-/

namespace ConnectTokens.Decimal

/-- The value of one or more digits. -/
def natural? (text : List Char) : Option Nat :=
  if text ≠ [] ∧ text.all Char.isDigit then some (Nat.ofDigitChars 10 text 0) else none

/-- Digits, with an optional `+` in front. -/
def unsigned? : List Char → Option Nat
  | '+' :: digits => natural? digits
  | digits => natural? digits

/-- Digits, with an optional `+` or `-` in front. -/
def signed? : List Char → Option Int
  | '-' :: digits => (natural? digits).map fun n => -(n : Int)
  | digits => (unsigned? digits).map fun n => (n : Int)

/-- Digits alone, below `2 ^ 16`. -/
def uint16? (text : List Char) : Option UInt16 :=
  ((natural? text).filter (· < UInt16.size)).map UInt16.ofNat

/-- Digits alone, below `2 ^ 32`. -/
def uint32? (text : List Char) : Option UInt32 :=
  ((natural? text).filter (· < UInt32.size)).map UInt32.ofNat

/-- An unsigned number below `2 ^ 64`. -/
def uint64? (text : List Char) : Option UInt64 :=
  ((unsigned? text).filter (· < UInt64.size)).map UInt64.ofNat

/-- A signed number from `-2 ^ 31` up to `2 ^ 31 - 1`. -/
def int32? (text : List Char) : Option Int32 :=
  ((signed? text).filter fun i =>
    Int32.minValue.toInt ≤ i ∧ i ≤ Int32.maxValue.toInt).map Int32.ofInt

/-- A signed number from `-2 ^ 63` up to `2 ^ 63 - 1`. -/
def int64? (text : List Char) : Option Int64 :=
  ((signed? text).filter fun i =>
    Int64.minValue.toInt ≤ i ∧ i ≤ Int64.maxValue.toInt).map Int64.ofInt

/-- The digits that a number is printed with read back as that number. -/
theorem natural?_toDigits (n : Nat) : natural? (Nat.toDigits 10 n) = some n := by
  have hdigits : (Nat.toDigits 10 n).all Char.isDigit = true := by
    simp only [List.all_eq_true]
    exact fun c hc => Nat.isDigit_of_mem_toDigits (by decide) (by decide) hc
  rw [natural?, if_pos ⟨Nat.toDigits_ne_nil, hdigits⟩, Nat.ofDigitChars_ten_toDigits]

end ConnectTokens.Decimal
