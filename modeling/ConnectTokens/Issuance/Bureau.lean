import ConnectTokens.Issuance.Issuer

/-!
# Issuers that share counters

A bureau keeps counters of nonces and one source of random bytes.  Each of its
desks is an issuer with the place of its counter, so that desks with one place
share a counter.  Issuances at different desks, and at the same one, may be under
way at once: each goes through three steps, and the steps of all of them may
come in any order.

## Main Definitions

* `Bureau`, `Desk`: counters by place, and issuers at them.
* `Desk.issueToken`: an issuance without interruption.
* `Issuance`, `Issuance.step`: an issuance under way, and its next step.
* `Floor`, `Floor.run`: many issuances, and a run of their steps in a given order.

## Design Notes

Taking a value from a counter is one step, which is all that keeps values apart.
`Floor.record` keeps what the counters answered and whom, in the order of the steps.
-/

namespace ConnectTokens

/-- Counters of nonces, and the source of random bytes. -/
structure Bureau where
  counters : List NonceSequence
  random : RandomSource

/-- An issuer with the place of its counter. -/
structure Desk where
  issuer : Issuer
  counter : Nat
deriving DecidableEq

namespace Bureau

/-- The counter at a place. -/
def counterAt (b : Bureau) (place : Nat) : NonceSequence := b.counters.getD place .fresh

/-- What an issuer with the counter at a place draws from. -/
def supply (b : Bureau) (place : Nat) : Supply := ⟨b.counterAt place, b.random⟩

/-- The bureau after an issuer with the counter at a place left this supply. -/
def restock (b : Bureau) (place : Nat) (s : Supply) : Bureau :=
  ⟨b.counters.set place s.sequence, s.random⟩

/-- Takes a value from the counter at a place. -/
def takeValue (b : Bureau) (place : Nat) : Option UInt64 × Bureau :=
  let (value, counter) := (b.counterAt place).next
  (value, { b with counters := b.counters.set place counter })

/-- Opens a desk with a counter of its own. -/
def openDesk (b : Bureau) (issuer : Issuer) : Desk × Bureau :=
  (⟨issuer, b.counters.length⟩, { b with counters := b.counters ++ [.fresh] })

/-- Opens a desk of the sequence scheme at a counter that is there already. -/
def shareCounter (key : PrivateKey) (place : Nat) : Desk := ⟨⟨key, .sequence⟩, place⟩

/-- Lets an issuer with the counter at a place work on the bureau's supply. -/
def serve {α : Type} (b : Bureau) (place : Nat) (work : Supply → α × Supply) : α × Bureau :=
  let (result, s) := work (b.supply place)
  (result, b.restock place s)

end Bureau

namespace Desk

/-- Issues a token at an instant, without interruption. -/
def issueToken (d : Desk) (now : Instant) (r : TokenRequest) (b : Bureau) :
    Except IssuanceError Token × Bureau :=
  b.serve d.counter (d.issuer.issueToken now r)

/-- Issues a token at an instant, in its wire form. -/
def issueBytes (d : Desk) (now : Instant) (r : TokenRequest) (b : Bureau) :
    Except IssuanceError (Block Size.token) × Bureau :=
  b.serve d.counter (d.issuer.issueBytes now r)

/-- Issues a token by a clock. -/
def issueTokenByClock (d : Desk) (clock : ClockReading) (r : TokenRequest) (b : Bureau) :
    Except IssuanceError Token × Bureau :=
  b.serve d.counter (d.issuer.issueTokenByClock clock r)

/-- Issues a token by a clock, in its wire form. -/
def issueBytesByClock (d : Desk) (clock : ClockReading) (r : TokenRequest) (b : Bureau) :
    Except IssuanceError (Block Size.token) × Bureau :=
  b.serve d.counter (d.issuer.issueBytesByClock clock r)

/-- What is shown of the issuer at a desk. -/
def shown (d : Desk) (b : Bureau) : String := d.issuer.shown (b.counterAt d.counter)

end Desk

/-- What a counter answered in one step. -/
structure Receipt where
  /-- The place of the counter. -/
  place : Nat
  /-- The number of the issuance that asked; absent if someone else did. -/
  asker : Option Nat
  answer : Option UInt64
deriving DecidableEq, Repr

/-- How far an issuance is. -/
inductive Progress where
  | asked
  | drafted (draft : Draft)
  | numbered (draft : Draft) (nonce : Nonce)
  | finished (outcome : Except IssuanceError Token)

/-- An issuance under way. -/
structure Issuance where
  desk : Desk
  now : Instant
  request : TokenRequest
  progress : Progress

namespace Issuance

/-- An issuance of which nothing is done. -/
def start (desk : Desk) (now : Instant) (request : TokenRequest) : Issuance :=
  ⟨desk, now, request, .asked⟩

/-- The next step: the checks and the session keys, then the nonce, then the
seal. -/
def step (i : Issuance) (b : Bureau) : Issuance × Bureau :=
  match i.progress with
  | .asked =>
    match i.request.draft i.now b.random with
    | (.error e, random) => ({ i with progress := .finished (.error e) }, { b with random })
    | (.ok draft, random) => ({ i with progress := .drafted draft }, { b with random })
  | .drafted draft =>
    match b.serve i.desk.counter i.desk.issuer.scheme.nextNonce with
    | (.error e, b) => ({ i with progress := .finished (.error e) }, b)
    | (.ok nonce, b) => ({ i with progress := .numbered draft nonce }, b)
  | .numbered draft nonce =>
    ({ i with progress := .finished (draft.finish i.desk.issuer.key nonce) }, b)
  | .finished _ => (i, b)

/-- What a counter answers in the next step, for the issuance with a number. -/
def receipts (i : Issuance) (number : Nat) (b : Bureau) : List Receipt :=
  match i.progress, i.desk.issuer.scheme with
  | .drafted _, .sequence =>
    [⟨i.desk.counter, some number, (b.counterAt i.desk.counter).next.1⟩]
  | _, _ => []

/-- The outcome, once the issuance is finished. -/
def outcome? (i : Issuance) : Option (Except IssuanceError Token) :=
  match i.progress with
  | .finished outcome => some outcome
  | _ => none

end Issuance

/-- What happens at one moment. -/
inductive Event where
  /-- The issuance with this number takes its next step. -/
  | advance (issuance : Nat)
  /-- Someone takes a value from the counter at this place. -/
  | takeValue (place : Nat)
deriving DecidableEq, Repr

/-- Issuances under way in a bureau, with what its counters answered so far. -/
structure Floor where
  bureau : Bureau
  issuances : List Issuance
  record : List Receipt

namespace Floor

/-- A floor on which nothing has happened. -/
def opening (bureau : Bureau) (issuances : List Issuance) : Floor := ⟨bureau, issuances, []⟩

/-- The floor after an event. -/
def step (f : Floor) : Event → Floor
  | .advance n =>
    match f.issuances[n]? with
    | none => f
    | some issuance =>
      let (next, bureau) := issuance.step f.bureau
      ⟨bureau, f.issuances.set n next, f.record ++ issuance.receipts n f.bureau⟩
  | .takeValue place =>
    let (value, bureau) := f.bureau.takeValue place
    { f with bureau, record := f.record ++ [⟨place, none, value⟩] }

/-- The floor after events in their order. -/
def run (f : Floor) (events : List Event) : Floor := events.foldl step f

/-- The outcomes of the finished issuances. -/
def outcomes (f : Floor) : List (Except IssuanceError Token) :=
  f.issuances.filterMap Issuance.outcome?

end Floor

end ConnectTokens
