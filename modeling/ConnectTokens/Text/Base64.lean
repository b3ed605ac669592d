import ConnectTokens.Bytes

/-!
# Base64

Three bytes as four characters of the standard alphabet, with `=` in the places
that a short last group leaves.  Reading is strict: it wants every `=`, no other
character, and zeros in the bits that a short group does not use, so each byte
string has one written form.

## Main Definitions

* `encode`: the written form of a byte string.
* `decode?`: the byte string of a written form.
-/

namespace ConnectTokens.Base64

/-- The digits, in the order of their values. -/
def alphabet : List Char :=
  "ABCDEFGHIJKLMNOPQRSTUVWXYZabcdefghijklmnopqrstuvwxyz0123456789+/".toList

/-- The digit of a value below 64. -/
def digit (n : Nat) : Char := alphabet.getD n 'A'

/-- The value of a digit. -/
def value? (c : Char) : Option Nat := alphabet.idxOf? c

/-- The written form of a byte string. -/
def encode : Bytes → List Char
  | [] => []
  | [a] => [digit (a.toNat / 4), digit (a.toNat % 4 * 16), '=', '=']
  | [a, b] =>
    [digit (a.toNat / 4), digit (a.toNat % 4 * 16 + b.toNat / 16), digit (b.toNat % 16 * 4), '=']
  | a :: b :: c :: rest =>
    digit (a.toNat / 4) :: digit (a.toNat % 4 * 16 + b.toNat / 16) ::
      digit (b.toNat % 16 * 4 + c.toNat / 64) :: digit (c.toNat % 64) :: encode rest

/-- The one byte of two digits, whose last four bits are zero. -/
def oneByte? (p q : Nat) : Option Bytes :=
  if q % 16 = 0 then some [UInt8.ofNat (p * 4 + q / 16)] else none

/-- The two bytes of three digits, whose last two bits are zero. -/
def twoBytes? (p q r : Nat) : Option Bytes :=
  if r % 4 = 0 then some [UInt8.ofNat (p * 4 + q / 16), UInt8.ofNat (q * 16 + r / 4)] else none

/-- The three bytes of four digits. -/
def threeBytes (p q r s : Nat) : Bytes :=
  [UInt8.ofNat (p * 4 + q / 16), UInt8.ofNat (q * 16 + r / 4), UInt8.ofNat (r * 64 + s)]

/-- The byte string of a written form. -/
def decode? : List Char → Option Bytes
  | [] => some []
  | [a, b, '=', '='] => do oneByte? (← value? a) (← value? b)
  | [a, b, c, '='] => do twoBytes? (← value? a) (← value? b) (← value? c)
  | a :: b :: c :: d :: rest => do
    let group := threeBytes (← value? a) (← value? b) (← value? c) (← value? d)
    return group ++ (← decode? rest)
  | _ => none

end ConnectTokens.Base64
