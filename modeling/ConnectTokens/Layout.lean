import ConnectTokens.Nonce
import ConnectTokens.ServerAddresses

/-!
# Where the fields of a token stand

The fields of fixed size at the front of a token, in their order: version tag,
protocol id, create and expire time, nonce, sealed part and timeout.  Behind them
is the trailer, whose size depends on the server addresses, and zeros up to the
end.

## Main Definitions

* `Field`: a place in a token, with `Field.slice` for what stands there.
* `Layout`: the places of all fields, with `Layout.of` for a scheme.
-/

namespace ConnectTokens

/-- A place in a token. -/
@[ext] structure Field where
  offset : Nat
  length : Nat
deriving DecidableEq, Repr

namespace Field

/-- Where the bytes behind a field start. -/
def stop (f : Field) : Nat := f.offset + f.length

/-- The field of a length at the front. -/
def first (length : Nat) : Field := ⟨0, length⟩

/-- The field of a length that follows another one. -/
def after (f : Field) (length : Nat) : Field := ⟨f.stop, length⟩

/-- What stands at a place. -/
def slice (f : Field) (bytes : Bytes) : Bytes := (bytes.drop f.offset).take f.length

end Field

/-- The places of the fields of fixed size. -/
structure Layout where
  version : Field
  protocolId : Field
  createTime : Field
  expireTime : Field
  nonce : Field
  sealedPart : Field
  timeout : Field
deriving DecidableEq, Repr

namespace Layout

/-- The layout around a nonce of some size. -/
def ofNonceSize (size : Nat) : Layout :=
  let version := Field.first Size.version
  let protocolId := version.after 8
  let createTime := protocolId.after 8
  let expireTime := createTime.after 8
  let nonce := expireTime.after size
  let sealedPart := nonce.after Size.sealedPart
  let timeout := sealedPart.after 4
  { version, protocolId, createTime, expireTime, nonce, sealedPart, timeout }

/-- The layout of the tokens of a scheme. -/
def of (scheme : Scheme) : Layout := ofNonceSize scheme.nonceSize

/-- Where the trailer starts. -/
def trailerOffset (l : Layout) : Nat := l.timeout.stop

/-- How many bytes the trailer may take. -/
def trailerCapacity (l : Layout) : Nat := Size.token - l.trailerOffset

/-- Any trailer fits: the longest address list and both session keys. -/
theorem maxTrailer_le_capacity (s : Scheme) :
    ServerAddresses.maxEncodedSize + 2 * Size.key ≤ (of s).trailerCapacity := by
  cases s <;> decide

end Layout

end ConnectTokens
