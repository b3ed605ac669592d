import ConnectTokens.Issuance.Error

/-!
# Lifetimes

How long a token can be used to connect.  The greatest time that fits is kept for
tokens that never expire, so a finite lifetime that would reach it is refused.

## Main Definitions

* `Expiry`, `Expiry.ofSeconds`: a lifetime in seconds, or none.
* `Expiry.expireTime`: the time at which a token expires.
-/

namespace ConnectTokens

/-- How long a token can be used to connect. -/
inductive Expiry where
  /-- This many seconds from its creation. -/
  | seconds (count : UInt64)
  /-- For all time. -/
  | never
deriving DecidableEq, Repr

namespace Expiry

/-- The expire time of tokens that never expire. -/
def endOfTime : UInt64 := UInt64.ofNat (UInt64.size - 1)

/-- A lifetime of a number of seconds, which is not negative. -/
def ofSeconds (count : Int64) : Except IssuanceError Expiry :=
  if 0 ≤ count.toInt then .ok (seconds (UInt64.ofNat count.toInt.toNat))
  else .error (.negativeExpiry count)

/-- The time at which a token created at a time expires. -/
def expireTime (e : Expiry) (createTime : UInt64) : Except IssuanceError UInt64 :=
  match e with
  | never => .ok endOfTime
  | seconds count =>
    if createTime.toNat + count.toNat < endOfTime.toNat then .ok (createTime + count)
    else .error (.expiryOverflow createTime count)

end Expiry

end ConnectTokens
