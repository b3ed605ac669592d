import ConnectTokens.TokenError

/-!
# Why no token is issued

The causes for which an issuer issues no token, and the message of each.

## Main Definitions

* `Stage`: what an issuer was doing.
* `IssuanceError`, `IssuanceError.message`: the causes.
-/

namespace ConnectTokens

/-- What an issuer is doing when a token cannot be made. -/
inductive Stage where
  | validating
  | building
  | sealing
  | assembling
deriving DecidableEq, Repr

/-- The words for what an issuer is doing. -/
def Stage.text : Stage → String
  | validating => "validating server addresses"
  | building => "building private connect token"
  | sealing => "sealing private connect token"
  | assembling => "assembling connect token"

/-- A cause for which no token is issued. -/
inductive IssuanceError where
  /-- A lifetime is not negative. -/
  | negativeExpiry (seconds : Int64)
  /-- The expire time does not lie before that of tokens that never expire. -/
  | expiryOverflow (createTime seconds : UInt64)
  /-- The counter of nonces is at its end, and the key has to be replaced. -/
  | sequenceExhausted
  /-- The clock stands before the epoch. -/
  | clockBeforeEpoch
  /-- The token itself is refused. -/
  | token (stage : Stage) (cause : TokenError)
deriving DecidableEq, Repr

namespace IssuanceError

/-- The message of a cause. -/
def message : IssuanceError → String
  | negativeExpiry seconds => s!"expiry must not be negative, got {seconds} seconds"
  | expiryOverflow createTime seconds =>
    s!"expiry of {seconds} seconds from timestamp {createTime} overflows"
  | sequenceExhausted => "connect token sequence is exhausted"
  | clockBeforeEpoch => "system clock is before the unix epoch"
  | token stage cause => s!"failed {stage.text}: {cause.message}"

/-- The cause behind a cause. -/
def cause? : IssuanceError → Option TokenError
  | token _ cause => some cause
  | _ => none

/-- What went wrong with a token at a stage. -/
def during {α : Type} (stage : Stage) (result : Except TokenError α) : Except IssuanceError α :=
  result.mapError (token stage)

end IssuanceError

end ConnectTokens
