import ConnectTokens.Cipher.ChaCha
import ConnectTokens.Cipher.Poly1305

/-!
# Authenticated encryption

ChaCha20 with Poly1305: the text is combined with the keystream, and the tag is
taken over the associated data and the ciphertext under the first block of the
keystream.

## Main Definitions

* `apply`: encryption and decryption, which are the same.
* `tag`: the tag of associated data and ciphertext.
* `encrypt`, `decrypt?`: both together, for texts up to `maxTextSize`.
-/

namespace ConnectTokens.Aead

/-- The most bytes that one key and nonce encrypt: the blocks are counted with
32 bits, and block 0 makes the tag. -/
def maxTextSize : Nat := (UInt32.size - 1) * 64 - 1

/-- A text combined with the keystream. -/
def apply (key : Block 32) (nonce : Block 12) (text : Bytes) : Bytes :=
  Bytes.xor text (ChaCha.keystream key nonce text.length)

/-- Zeros that bring a byte string to a multiple of sixteen. -/
def fill (bytes : Bytes) : Bytes := List.replicate ((16 - bytes.length % 16) % 16) 0

/-- What the tag is taken over. -/
def authenticated (associated ciphertext : Bytes) : Bytes :=
  associated ++ fill associated ++ ciphertext ++ fill ciphertext ++
    Bytes.littleEndian 8 associated.length ++ Bytes.littleEndian 8 ciphertext.length

/-- The tag of associated data and ciphertext. -/
def tag (key : Block 32) (nonce : Block 12) (associated ciphertext : Bytes) : Block 16 :=
  let once := Block.pad 32 (ChaCha.block key nonce 0).toList
  Poly1305.tag once (authenticated associated ciphertext)

/-- The ciphertext of a text, and its tag. -/
def encrypt (key : Block 32) (nonce : Block 12) (associated text : Bytes) :
    Option (Bytes × Block 16) :=
  if text.length ≤ maxTextSize then
    let ciphertext := apply key nonce text
    some (ciphertext, tag key nonce associated ciphertext)
  else none

/-- The text of a ciphertext whose tag is right. -/
def decrypt? (key : Block 32) (nonce : Block 12) (associated ciphertext : Bytes)
    (expected : Bytes) : Option Bytes :=
  if ciphertext.length ≤ maxTextSize ∧
      (tag key nonce associated ciphertext).toList = expected then
    some (apply key nonce ciphertext)
  else none

@[simp] theorem length_apply (key : Block 32) (nonce : Block 12) (text : Bytes) :
    (apply key nonce text).length = text.length := by
  simp [apply, Bytes.xor]

end ConnectTokens.Aead
