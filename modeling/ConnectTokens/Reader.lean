import ConnectTokens.Bytes
import ConnectTokens.TokenError

/-!
# Reading off the front of a byte string

A reader takes a value from the front of a byte string and leaves the rest.  The
only thing that goes wrong when bytes run out is `TokenError.truncated`.

## Main Definitions

* `Reader`: a function that takes a value off the front.
* `Reader.block`: takes a block of known size; the words are read through it.
-/

namespace ConnectTokens

/-- Takes a value off the front of a byte string, or gives the cause why not. -/
abbrev Reader (α : Type) := StateT Bytes (Except TokenError) α

namespace Reader

/-- The next `size` bytes. -/
def block (size : Nat) : Reader (Block size) := fun bytes =>
  if h : size ≤ bytes.length then
    .ok (⟨bytes.take size, by simp [h]⟩, bytes.drop size)
  else
    .error .truncated

/-- The next byte. -/
def uint8 : Reader UInt8
  | [] => .error .truncated
  | b :: rest => .ok (b, rest)

/-- A 16 bit word. -/
def uint16 : Reader UInt16 := do return Bytes.toUInt16 (← block 2).toList

/-- A 32 bit word. -/
def uint32 : Reader UInt32 := do return Bytes.toUInt32 (← block 4).toList

/-- A signed 32 bit word. -/
def int32 : Reader Int32 := do return Bytes.toInt32 (← block 4).toList

/-- A 64 bit word. -/
def uint64 : Reader UInt64 := do return Bytes.toUInt64 (← block 8).toList

/-- A block at the front is read as it stands. -/
theorem block_append {size : Nat} (b : Block size) (rest : Bytes) :
    block size (b.toList ++ rest) = .ok (b, rest) := by
  have h : size ≤ (b.toList ++ rest).length := by simp
  rw [block, dif_pos h]
  congr 2
  · ext1
    simp
  · simp

/-- A block is missing exactly when the bytes are too few. -/
theorem block_of_lt {size : Nat} {bytes : Bytes} (h : bytes.length < size) :
    block size bytes = .error .truncated := by
  rw [block, dif_neg (by omega)]

end Reader

end ConnectTokens
