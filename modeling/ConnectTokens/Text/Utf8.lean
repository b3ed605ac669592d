import ConnectTokens.Bytes

/-!
# UTF-8

Texts as bytes.  Bytes that are no text come in pieces: a piece is the longest
front of a character that the bytes still spell, or one byte that starts none.

## Main Definitions

* `encode`: the bytes of a text.
* `pieces`: the characters that the bytes spell, with `none` for each bad piece.
* `decode?`: the text of bytes without a bad piece.
* `decodeLossy`: the text with U+FFFD for each bad piece.

## Design Notes

One scanner, `pieces`, serves the strict and the lossy reading, so that the two
agree wherever the strict one accepts.
-/

namespace ConnectTokens.Utf8

/-- The bytes of a text. -/
def encode (text : List Char) : Bytes := text.flatMap String.utf8EncodeChar

/-- What follows a lead byte: how many bytes, and the least and the greatest
value of the first of them.  The others range from `0x80` to `0xBF`. -/
def following? (lead : UInt8) : Option (Nat × UInt8 × UInt8) :=
  if lead < 0x80 then some (0, 0x80, 0xBF)
  else if lead < 0xC2 then none
  else if lead < 0xE0 then some (1, 0x80, 0xBF)
  else if lead = 0xE0 then some (2, 0xA0, 0xBF)
  else if lead = 0xED then some (2, 0x80, 0x9F)
  else if lead < 0xF0 then some (2, 0x80, 0xBF)
  else if lead = 0xF0 then some (3, 0x90, 0xBF)
  else if lead < 0xF4 then some (3, 0x80, 0xBF)
  else if lead = 0xF4 then some (3, 0x80, 0x8F)
  else none

/-- The bytes at the front, at most `count`, that go on with a character whose
next byte lies between `low` and `high`. -/
def continuation : (count : Nat) → (low high : UInt8) → Bytes → Bytes
  | 0, _, _, _ => []
  | _ + 1, _, _, [] => []
  | count + 1, low, high, b :: rest =>
    if low ≤ b ∧ b ≤ high then b :: continuation count 0x80 0xBF rest else []

/-- The character of a lead byte and all bytes that follow it. -/
def character (lead : UInt8) (rest : Bytes) : Char :=
  let top := match rest.length with
    | 0 => lead.toNat
    | 1 => lead.toNat % 0x20
    | 2 => lead.toNat % 0x10
    | _ => lead.toNat % 0x08
  Char.ofNat (rest.foldl (fun n b => n * 0x40 + b.toNat % 0x40) top)

/-- The characters that the bytes spell, with `none` for each bad piece. -/
def pieces : Bytes → List (Option Char)
  | [] => []
  | lead :: rest =>
    match following? lead with
    | none => none :: pieces rest
    | some (count, low, high) =>
      let tail := continuation count low high rest
      (if tail.length = count then some (character lead tail) else none) ::
        pieces (rest.drop tail.length)
termination_by bytes => bytes.length

/-- The text that the bytes spell, when they spell one. -/
def decode? (bytes : Bytes) : Option (List Char) := (pieces bytes).mapM id

/-- The text that the bytes spell, with U+FFFD for each bad piece. -/
def decodeLossy (bytes : Bytes) : List Char := (pieces bytes).map (·.getD '\uFFFD')

end ConnectTokens.Utf8
