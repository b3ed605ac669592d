import ConnectTokens.Token

/-!
# Delivering a token to a writer

A writer answers each offer of bytes: it takes some of them, takes none, or
fails.  An interrupted offer is made again, and what was not taken is offered
again, until all is taken or the writer gives up.

## Main Definitions

* `Reply`: the answer to one offer.
* `deliver`: a delivery, from the replies in their order.
* `Token.write`: the delivery of a wire form.
* `LimitedWriter`: a writer with bounded room.

## Design Notes

A writer is known by its replies.  One that has no reply left takes nothing, so
a delivery ends for every list of replies.
-/

namespace ConnectTokens

/-- The answer of a writer to one offer. -/
inductive Reply where
  /-- It takes this many bytes, or all if there are fewer. -/
  | took (count : Nat)
  /-- It takes nothing and fails. -/
  | failed (kind : FaultKind)
deriving DecidableEq, Repr

/-- Offers bytes until all are taken.  The second part is what was taken. -/
def deliver : List Reply → Bytes → Except FaultKind Unit × Bytes
  | _, [] => (.ok (), [])
  | [], _ :: _ => (.error .writeZero, [])
  | .took count :: replies, b :: rest =>
    if count = 0 then (.error .writeZero, [])
    else
      let offered := b :: rest
      let (outcome, taken) := deliver replies (offered.drop count)
      (outcome, offered.take count ++ taken)
  | .failed kind :: replies, b :: rest =>
    if kind = .interrupted then deliver replies (b :: rest) else (.error kind, [])

/-- Delivers the wire form of a token. -/
def Token.write (t : Token) (replies : List Reply) : Except TokenError Unit × Bytes :=
  match t.toBytes with
  | .error e => (.error e, [])
  | .ok bytes =>
    let (outcome, taken) := deliver replies bytes.toList
    (outcome.mapError .writeFailed, taken)

/-- A writer that is interrupted a number of times, then takes at most `chunk`
bytes at once and at most `capacity` in all. -/
structure LimitedWriter where
  capacity : Nat
  /-- The most bytes taken at once; no limit if absent. -/
  chunk : Option Nat
  interruptions : Nat
  /-- What it fails with when it takes nothing; if absent it does not fail. -/
  fault : Option FaultKind
deriving DecidableEq, Repr

namespace LimitedWriter

/-- The reply of a writer that takes nothing. -/
def refusal (w : LimitedWriter) : Reply :=
  match w.fault with
  | some kind => .failed kind
  | none => .took 0

/-- The replies to offers of `size` bytes that were not taken yet. -/
def takes (w : LimitedWriter) : (offers room size : Nat) → List Reply
  | 0, _, _ => [w.refusal]
  | offers + 1, room, size =>
    let count := min size (min room (w.chunk.getD size))
    if count = 0 then [w.refusal]
    else .took count :: w.takes offers (room - count) (size - count)

/-- The replies to the delivery of `size` bytes. -/
def replies (w : LimitedWriter) (size : Nat) : List Reply :=
  List.replicate w.interruptions (.failed .interrupted) ++ w.takes size w.capacity size

end LimitedWriter

end ConnectTokens
