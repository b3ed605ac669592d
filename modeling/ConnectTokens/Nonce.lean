import ConnectTokens.Bytes
import ConnectTokens.Sizes

/-!
# Nonces

Each token is sealed under a nonce of its own.  A deployment picks one of two
schemes: 24 random bytes, or a counter that never repeats and never wraps.  The
version tag of a token tells which one it was sealed with.

## Main Definitions

* `Scheme`, `Scheme.versionTag`, `Scheme.ofVersionTag?`: the two schemes and the
  tags that tell them.
* `Nonce`: the nonce of one token.
* `NonceSequence`, `NonceSequence.next`: the counter.
-/

namespace ConnectTokens

/-- How nonces are chosen. -/
inductive Scheme where
  /-- Random bytes for each token. -/
  | extended
  /-- The next value of a counter for each token. -/
  | sequence
deriving DecidableEq, Repr

namespace Scheme

/-- The scheme that is used where none is asked for. -/
def standard : Scheme := extended

/-- The characters that all version tags start with, `NETCODE 1.0`. -/
def tagFront : Bytes := [78, 69, 84, 67, 79, 68, 69, 32, 49, 46, 48]

/-- The version tag of tokens of a scheme: `NETCODE 1.02` or `NETCODE 1.01`, with
a zero byte at its end. -/
def versionTag : Scheme → Block Size.version
  | extended => ⟨tagFront ++ [50, 0], rfl⟩
  | sequence => ⟨tagFront ++ [49, 0], rfl⟩

/-- The scheme whose version tag a byte string is. -/
def ofVersionTag? (bytes : Bytes) : Option Scheme :=
  if bytes = extended.versionTag.toList then some extended
  else if bytes = sequence.versionTag.toList then some sequence
  else none

/-- How many bytes a nonce takes in a token. -/
def nonceSize : Scheme → Nat
  | extended => Size.extendedNonce
  | sequence => Size.sequenceNonce

/-- The name of a scheme in log lines. -/
def name : Scheme → String
  | extended => "Extended"
  | sequence => "Sequence"

@[simp] theorem ofVersionTag?_versionTag (s : Scheme) :
    ofVersionTag? s.versionTag.toList = some s := by
  cases s <;> decide

/-- A version tag is the tag of one scheme only. -/
theorem versionTag_injective {s t : Scheme} (h : s.versionTag = t.versionTag) : s = t := by
  have := ofVersionTag?_versionTag s
  rw [h, ofVersionTag?_versionTag] at this
  exact (Option.some.inj this).symm

end Scheme

/-- The nonce that one token is sealed under. -/
inductive Nonce where
  /-- A value of a counter. -/
  | sequence (value : UInt64)
  /-- Random bytes. -/
  | extended (bytes : Block Size.extendedNonce)
deriving DecidableEq

namespace Nonce

/-- The scheme that a nonce belongs to. -/
def scheme : Nonce → Scheme
  | sequence _ => .sequence
  | extended _ => .extended

/-- The nonce as a token carries it. -/
def bytes : Nonce → Bytes
  | sequence value => Bytes.ofUInt64 value
  | extended bytes => bytes.toList

/-- The nonce of a scheme that a token carries as these bytes. -/
def ofBytes (scheme : Scheme) (bytes : Bytes) : Nonce :=
  match scheme with
  | .sequence => sequence (Bytes.toUInt64 bytes)
  | .extended => extended (Block.pad Size.extendedNonce bytes)

@[simp] theorem length_bytes (n : Nonce) : n.bytes.length = n.scheme.nonceSize := by
  cases n <;> simp [bytes, scheme, Scheme.nonceSize, Bytes.ofUInt64, Size.sequenceNonce]

end Nonce

/-- A counter of nonces, known by the value that it gave last. -/
@[ext] structure NonceSequence where
  last : UInt64
deriving DecidableEq

namespace NonceSequence

/-- A counter that has given nothing yet. -/
def fresh : NonceSequence := ⟨0⟩

/-- A counter for a key whose values up to `last` are used. -/
def startingAfter (last : UInt64) : NonceSequence := ⟨last⟩

/-- Gives the next value.  At its end the counter gives nothing, and stays there. -/
def next (s : NonceSequence) : Option UInt64 × NonceSequence :=
  if s.last.toNat + 1 < UInt64.size then (some (s.last + 1), ⟨s.last + 1⟩) else (none, s)

/-- What is shown of a counter. -/
def shown (s : NonceSequence) : String :=
  "NonceSequence \x7b last: " ++ toString s.last ++ " \x7d"

end NonceSequence

end ConnectTokens
