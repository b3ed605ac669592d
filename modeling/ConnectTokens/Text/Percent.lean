import ConnectTokens.Text.Hex
import ConnectTokens.Text.Utf8

/-!
# Percent escapes

A byte written as `%` and two hexadecimal digits.  A `%` that no two digits
follow stands for itself.

## Main Definitions

* `decodeBytes`: the bytes with their escapes read.
* `decode`: the same on text, with U+FFFD where the bytes spell no text.
-/

namespace ConnectTokens.Percent

/-- The value of the ASCII code of a hexadecimal digit. -/
def hexValue? (b : UInt8) : Option Nat := Hex.digit? (Char.ofNat b.toNat)

/-- The byte that two hexadecimal digits spell. -/
def escaped? (high low : UInt8) : Option UInt8 := do
  return UInt8.ofNat (16 * (← hexValue? high) + (← hexValue? low))

/-- The bytes with their escapes read, those of `kept` bytes apart. -/
def decodeBytes (kept : UInt8 → Bool) : Bytes → Bytes
  | b :: high :: low :: rest =>
    if b = 0x25 then
      match (escaped? high low).filter (!kept ·) with
      | some byte => byte :: decodeBytes kept rest
      | none => b :: decodeBytes kept (high :: low :: rest)
    else b :: decodeBytes kept (high :: low :: rest)
  | short => short

/-- A text with its escapes read, those of `kept` bytes apart. -/
def decode (kept : UInt8 → Bool) (text : List Char) : List Char :=
  Utf8.decodeLossy (decodeBytes kept (Utf8.encode text))

end ConnectTokens.Percent
