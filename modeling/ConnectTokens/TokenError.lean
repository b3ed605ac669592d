import ConnectTokens.FaultKind
import ConnectTokens.Sizes

/-!
# Why a token is refused

The causes for which encoding, sealing, opening or reading a connect token
fails, and the message of each.

## Main Definitions

* `Malformed`: a received token is refused before any decryption.
* `TokenError`: every cause, with `TokenError.message`.
-/

namespace ConnectTokens

/-- A received token that is refused before any decryption. -/
inductive Malformed where
  /-- It does not have the size of a token. -/
  | length (found : Nat)
  /-- It does not start with a known version tag. -/
  | version
  /-- A byte behind its content is not zero. -/
  | padding
deriving DecidableEq, Repr

/-- A cause for which a token is neither made nor accepted. -/
inductive TokenError where
  /-- The address list is empty or has more than eight entries. -/
  | addressCount (found : Nat)
  /-- An address entry starts with an unknown tag. -/
  | addressKind (tag : UInt8)
  /-- The bytes end before the content that they declare. -/
  | truncated
  /-- There is more user data than a token carries. -/
  | userDataTooLarge (found : Nat)
  /-- The private part does not fit before its tag. -/
  | privateOverflow (needed : Nat)
  /-- The public part does not fit in the token. -/
  | tokenOverflow (needed : Nat)
  /-- The writer that was to take the token failed. -/
  | writeFailed (kind : FaultKind)
  /-- The private part could not be sealed. -/
  | sealFailed
  /-- The sealed part was not made with this key, nonce and associated data. -/
  | unauthentic
  /-- The token is refused before any decryption. -/
  | malformed (cause : Malformed)
deriving DecidableEq, Repr

/-- The message of a malformed token. -/
def Malformed.message : Malformed → String
  | length found => s!"connect token has {found} bytes, expected {Size.token}"
  | version => "invalid version info"
  | padding => "connect token padding is not zeroed"

/-- The message of a cause. -/
def TokenError.message : TokenError → String
  | addressCount found =>
    s!"connect token must have between 1 and {Size.maxServers} server addresses, got {found}"
  | addressKind tag => s!"unknown server address type {tag}"
  | truncated => "buffer is too small for its declared content"
  | userDataTooLarge found => s!"user data has {found} bytes, the limit is {Size.userData}"
  | privateOverflow needed =>
    s!"private connect token has {needed} bytes, the limit is {Size.privatePlain}"
  | tokenOverflow needed => s!"connect token has {needed} bytes, the limit is {Size.token}"
  | writeFailed kind => s!"failed to write connect token: {kind.text}"
  | sealFailed => "failed to seal the private connect token"
  | unauthentic => "private connect token failed authentication"
  | malformed cause => cause.message

/-- The cause for a fault while reading: readers only read what is in memory, so
all that can go wrong is that there are too few bytes. -/
def TokenError.ofFault (_ : FaultKind) : TokenError := truncated

/-- Whether a cause is that a part outgrew its fixed size. -/
def TokenError.isOverflow : TokenError → Bool
  | privateOverflow _ | tokenOverflow _ => true
  | _ => false

end ConnectTokens
