import ConnectTokens.Cipher.Aead
import ConnectTokens.Nonce
import ConnectTokens.PrivateKey
import ConnectTokens.TokenError

/-!
# Sealing buffers

A buffer is sealed where it stands: its last sixteen bytes receive the tag, and
what is before them is encrypted.  A buffer that cannot be sealed or opened stays
as it was.

## Main Definitions

* `Nonce.cipherKey`, `Nonce.cipherNonce`: how a nonce of either scheme enters the
  cipher.
* `sealInPlace`, `openInPlace`: the outcome, and the buffer afterwards.
-/

namespace ConnectTokens

namespace Nonce

/-- The key of the cipher: the private key, or for a random nonce a key derived
from its first sixteen bytes. -/
def cipherKey (key : PrivateKey) : Nonce → Block 32
  | sequence _ => key.block
  | extended bytes => ChaCha.deriveKey key.block (Block.pad 16 bytes.toList)

/-- The nonce of the cipher: four zeros, and then the value of the counter or the
last eight of the random bytes. -/
def cipherNonce : Nonce → Block 12
  | sequence value => ⟨List.replicate 4 0 ++ Bytes.ofUInt64 value, by simp [Bytes.ofUInt64]⟩
  | extended bytes =>
    ⟨List.replicate 4 0 ++ bytes.toList.drop 16, by simp [Size.extendedNonce]⟩

end Nonce

/-- What stands before the last sixteen bytes of a buffer. -/
def beforeTag (buffer : Bytes) : Bytes := buffer.take (buffer.length - Size.mac)

/-- The last sixteen bytes of a buffer. -/
def tagOf (buffer : Bytes) : Bytes := buffer.drop (buffer.length - Size.mac)

/-- Encrypts what stands before the last sixteen bytes, and writes the tag over
them. -/
def sealInPlace (buffer associated : Bytes) (nonce : Nonce) (key : PrivateKey) :
    Except TokenError Unit × Bytes :=
  if buffer.length < Size.mac then (.error .sealFailed, buffer)
  else
    match Aead.encrypt (nonce.cipherKey key) nonce.cipherNonce associated (beforeTag buffer) with
    | some (ciphertext, tag) => (.ok (), ciphertext ++ tag.toList)
    | none => (.error .sealFailed, buffer)

/-- Decrypts what stands before the last sixteen bytes, when they are its tag. -/
def openInPlace (buffer associated : Bytes) (nonce : Nonce) (key : PrivateKey) :
    Except TokenError Unit × Bytes :=
  if buffer.length < Size.mac then (.error .unauthentic, buffer)
  else
    match Aead.decrypt? (nonce.cipherKey key) nonce.cipherNonce associated (beforeTag buffer)
      (tagOf buffer) with
    | some text => (.ok (), text ++ tagOf buffer)
    | none => (.error .unauthentic, buffer)

end ConnectTokens
