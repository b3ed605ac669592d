/-!
# Hexadecimal numbers

Digits to the base sixteen, read in either case and written in lower case.

## Main Definitions

* `digit?`: the value of a digit.
* `natural?`: one or more digits.
* `padded`: a number with zeros in front up to a width.
-/

namespace ConnectTokens.Hex

/-- The value of a hexadecimal digit. -/
def digit? (c : Char) : Option Nat :=
  if c.isDigit then some (c.toNat - 48)
  else if 'a' ≤ c ∧ c ≤ 'f' then some (c.toNat - 87)
  else if 'A' ≤ c ∧ c ≤ 'F' then some (c.toNat - 55)
  else none

/-- The value of one or more digits. -/
def natural? (text : List Char) : Option Nat :=
  if text = [] then none
  else (text.mapM digit?).map fun digits => digits.foldl (fun n d => 16 * n + d) 0

/-- The digits of a number. -/
def digits (n : Nat) : List Char := Nat.toDigits 16 n

/-- The digits of a number, with zeros in front up to `width`. -/
def padded (width n : Nat) : String := String.ofList ((digits n).leftpad width '0')

end ConnectTokens.Hex
