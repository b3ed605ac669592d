import Mathlib.Data.List.Chain
import ConnectTokens.Issuance.Bureau
import ConnectTokens.Proofs.Refusals

/-!
# What issuances draw

All secrets of all tokens come from one stream of random bytes.  How far an issuance
reads on in the stream depends on its scheme and on how it turns out, and so the place of
each secret depends on all issuances before it.  Still each token has the bytes behind one
another that nobody else has.

## Main Definitions

* `Scheme.Pays`: how many random bytes an issuance costs, by how it turns out.
* `Scheme.Counts`: what an issuance does to the counter.
* `Errand`, `Errand.ledger`: issuances one after the other, and what is noted of each.
* `Errand.Fresh`: the secrets of a ledger are fresh.

## Main Statements

* `Issuer.issueToken_spends`: what an issuance takes from its supply.
* `Errand.entry_accounts`: what one errand costs and where its secrets stand.
* `Errand.ledger_fresh`: the secrets of every ledger are fresh.

## Design Notes

An issuance changes its supply in two ways that do not meet: it reads on in the random
stream (`Pays`) and it asks the counter (`Counts`).  Both are told by the outcome alone, and
what holds of runs of issuances is proved from these two and not from the issuance.
-/

namespace ConnectTokens

/-! ### The stream -/

namespace RandomSource

/-- The source behind the next bytes. -/
def skip (s : RandomSource) (count : Nat) : RandomSource :=
  { s with position := s.position + count }

@[simp] theorem byteAt_skip (s : RandomSource) (n : Nat) : (s.skip n).byteAt = s.byteAt := rfl

@[simp] theorem position_skip (s : RandomSource) (n : Nat) :
    (s.skip n).position = s.position + n := rfl

end RandomSource

/-- The secrets of a token that can be drawn. -/
inductive Secret where
  | clientToServer
  | serverToClient
  | nonce
deriving DecidableEq, Repr

namespace Secret

/-- How many bytes a secret has. -/
def size : Secret → Nat
  | clientToServer => 32
  | serverToClient => 32
  | nonce => 24

/-- How far a secret stands behind the place where its issuance begins to read. -/
def offset : Secret → Nat
  | clientToServer => 0
  | serverToClient => 32
  | nonce => 64

/-- The bytes of a secret in a token; a value of a counter is not drawn. -/
def of? (t : Token) : Secret → Option Bytes
  | clientToServer => some t.clientToServer.toList
  | serverToClient => some t.serverToClient.toList
  | nonce =>
    match t.nonce with
    | .sequence _ => none
    | .extended bytes => some bytes.toList

/-- Secrets are the same with and without scopes, so it does not matter in which form a token is
looked at. -/
theorem of?_unscoped (t : Token) (x : Secret) : of? t.unscoped x = of? t x := by
  cases x <;> rfl

/-- Two secrets of one token have places apart: the keys follow each other, and a nonce that is
drawn follows both. -/
theorem apart_of_ne {x y : Secret} (differ : x ≠ y) :
    x.offset + x.size ≤ y.offset ∨ y.offset + y.size ≤ x.offset := by
  cases x <;> cases y <;> simp_all [offset, size]

end Secret

/-- The secrets of a token stand in the stream from a place on, one behind the other. -/
def Token.DrawnAt (t : Token) (byteAt : Nat → UInt8) (start : Nat) : Prop :=
  ∀ x bytes, Secret.of? t x = some bytes →
    bytes = (RandomSource.segment byteAt (start + x.offset) x.size).toList

/-! ### What an issuance takes -/

namespace Scheme

/-- **How many random bytes an issuance costs**, by how it turns out. -/
inductive Pays {α : Type} : Scheme → Except IssuanceError α → Nat → Prop
  /-- The clock is looked at first. -/
  | clock {scheme : Scheme} : Pays scheme (.error .clockBeforeEpoch) 0
  /-- Addresses are checked before the session keys are drawn. -/
  | servers {scheme : Scheme} {count : Nat} :
      Pays scheme (.error (.token .validating (.addressCount count))) 0
  /-- So is the lifetime. -/
  | expiry {scheme : Scheme} {createTime count : UInt64} :
      Pays scheme (.error (.expiryOverflow createTime count)) 0
  /-- User data are checked when both session keys are there. -/
  | userData {scheme : Scheme} {size : Nat} :
      Pays scheme (.error (.token .building (.userDataTooLarge size))) 64
  /-- The counter is asked when both session keys are there. -/
  | exhausted : Pays .sequence (.error .sequenceExhausted) 64
  /-- A value of the counter is not drawn. -/
  | counted {issued : α} : Pays .sequence (.ok issued) 64
  /-- A random nonce is drawn behind both session keys. -/
  | drawn {issued : α} : Pays .extended (.ok issued) 88

theorem Pays.map {α β : Type} {scheme : Scheme} {outcome : Except IssuanceError α} {cost : Nat}
    (pays : Pays scheme outcome cost) (f : α → β) : Pays scheme (outcome.map f) cost := by
  cases pays with
  | clock => exact .clock
  | servers => exact .servers
  | expiry => exact .expiry
  | userData => exact .userData
  | exhausted => exact .exhausted
  | counted => exact .counted
  | drawn => exact .drawn

/-- What was drawn for a token is paid.  A value of a counter is not drawn, and so it is not paid
for. -/
theorem Pays.covers {α : Type} {scheme : Scheme} {issued : α} {cost : Nat} {t : Token}
    {x : Secret} {bytes : Bytes} (pays : Pays scheme (.ok issued) cost)
    (kind : t.nonce.scheme = scheme) (has : x.of? t = some bytes) : x.offset + x.size ≤ cost := by
  cases pays with
  | drawn => cases x <;> simp [Secret.offset, Secret.size]
  | counted =>
      cases x with
      | clientToServer => simp [Secret.offset, Secret.size]
      | serverToClient => simp [Secret.offset, Secret.size]
      | nonce =>
          cases nonce : t.nonce with
          | sequence value => simp [Secret.of?, nonce] at has
          | extended bytes =>
              rw [nonce] at kind
              cases kind

/-- **What an issuance does to the counter**, by how it turns out. -/
inductive Counts (c : NonceSequence) : Scheme → Except IssuanceError Token → NonceSequence → Prop
  /-- Without a token the counter stays. -/
  | refused {scheme : Scheme} {e : IssuanceError} : Counts c scheme (.error e) c
  /-- The extended scheme leaves the counter alone. -/
  | drawn {t : Token} {bytes : Block Size.extendedNonce} (nonce : t.nonce = .extended bytes) :
      Counts c .extended (.ok t) c
  /-- The token has the next value. -/
  | counted {t : Token} {value : UInt64} {counter : NonceSequence}
      (taken : c.next = (some value, counter)) (nonce : t.nonce = .sequence value) :
      Counts c .sequence (.ok t) counter

theorem Counts.eq_of_refused {scheme : Scheme} {c c' : NonceSequence} {e : IssuanceError}
    (counts : Counts c scheme (.error e) c') : c' = c := by
  cases counts
  rfl

/-- Only the nonce of a token matters to the counter, and any other token with that nonce counts
the same. -/
theorem Counts.of_nonce_eq {scheme : Scheme} {c c' : NonceSequence} {t u : Token}
    (counts : Counts c scheme (.ok t) c') (same : u.nonce = t.nonce) :
    Counts c scheme (.ok u) c' := by
  cases counts with
  | drawn nonce => exact .drawn (same.trans nonce)
  | counted taken nonce => exact .counted taken (same.trans nonce)

/-- The nonce of a token is of the scheme that counts, so that the counter is known to stay for
all others. -/
theorem Counts.scheme_nonce {scheme : Scheme} {c c' : NonceSequence} {t : Token}
    (counts : Counts c scheme (.ok t) c') : t.nonce.scheme = scheme := by
  cases counts with
  | drawn nonce => rw [nonce]; rfl
  | counted taken nonce => rw [nonce]; rfl

/-- A token of the sequence scheme has the value behind the last one, which is then the last. -/
theorem Counts.exists_value {c c' : NonceSequence} {t : Token}
    (counts : Counts c .sequence (.ok t) c') :
    ∃ value : UInt64, value.toNat = c.last.toNat + 1 ∧ t.nonce = .sequence value ∧
      c' = ⟨value⟩ := by
  cases counts with
  | @counted _ value counter taken nonce =>
      obtain ⟨follows, moved⟩ := NonceSequence.next_eq_some_iff.mp taken
      exact ⟨value, follows, nonce, moved⟩

end Scheme

/-- **What an issuance takes** from its supply, by how it turns out. -/
structure Supply.Spends (s : Supply) (scheme : Scheme) (outcome : Except IssuanceError Token)
    (s' : Supply) : Prop where
  pays : ∃ cost, scheme.Pays outcome cost ∧ s'.random = s.random.skip cost
  counts : scheme.Counts s.sequence outcome s'.sequence
  drawn : ∀ t, outcome = .ok t → t.DrawnAt s.random.byteAt s.random.position

/-- What refuses a draft: the check or, behind both session keys, the user data.  Only in the
second case have random bytes been read. -/
theorem TokenRequest.draft_refused_iff {r : TokenRequest} {now : Instant}
    {random random' : RandomSource} {e : IssuanceError} :
    r.draft now random = (.error e, random') ↔
      (r.check now.seconds = .error e ∧ random' = random) ∨
        ((∃ checked, r.check now.seconds = .ok checked) ∧ Size.userData < r.userData.length ∧
          e = .token .building (.userDataTooLarge r.userData.length) ∧
          random' = random.skip 64) := by
  simp only [draft]
  split
  · next cause unchecked => simp [unchecked, eq_comm]
  · next servers expireTime checked =>
    unfold PrivateToken.build
    split
    · next fits =>
      simp [checked, IssuanceError.during, Except.mapError, Except.map, Nat.not_lt.mpr fits]
    · next tooLarge =>
      have large : Size.userData < r.userData.length := Nat.lt_of_not_le tooLarge
      constructor
      · rintro ⟨⟩
        exact .inr ⟨⟨_, checked⟩, large, rfl, rfl⟩
      · rintro (⟨unchecked, -⟩ | ⟨-, -, rfl, rfl⟩)
        · cases checked.symm.trans unchecked
        · rfl

/-- The cost of a request without a draft is that of its refusal, under either scheme, since no
nonce has been asked for. -/
theorem TokenRequest.pays_of_draft_eq_error {r : TokenRequest} {now : Instant}
    {random random' : RandomSource} {e : IssuanceError} {α : Type} (scheme : Scheme)
    (refused : r.draft now random = (.error e, random')) :
    ∃ cost, scheme.Pays (.error e : Except IssuanceError α) cost ∧
      random' = random.skip cost := by
  rcases draft_refused_iff.mp refused with ⟨unchecked, rfl⟩ | ⟨-, -, rfl, rfl⟩
  · rcases check_eq_error_iff.mp unchecked with ⟨-, rfl⟩ | ⟨-, late⟩
    · exact ⟨0, .servers, rfl⟩
    · obtain ⟨count, -, -, rfl⟩ := Expiry.expireTime_eq_error_iff.mp late
      exact ⟨0, .expiry, rfl⟩
  · exact ⟨64, .userData, rfl⟩

namespace Issuer

/-- **What an issuance takes from its supply** is told by its outcome: random bytes, a value of
the counter, and where in the stream each secret stands. -/
theorem issueToken_spends (issuer : Issuer) (now : Instant) (r : TokenRequest) (s : Supply) :
    s.Spends issuer.scheme (issuer.issueToken now r s).1 (issuer.issueToken now r s).2 := by
  cases issued : issuer.issueToken now r s with
  | mk outcome s' =>
      cases outcome with
      | error e =>
          obtain ⟨random, refused, rfl⟩ | ⟨d, random, drafted, refused⟩ :=
            issueToken_eq_error_iff.mp issued
          · exact ⟨TokenRequest.pays_of_draft_eq_error _ refused, .refused, nofun⟩
          · obtain ⟨-, -, -, -, -, -, -, rfl⟩ := TokenRequest.draft_eq_ok_iff.mp drafted
            obtain ⟨counts, -, rfl, rfl⟩ := Scheme.nextNonce_eq_error_iff.mp refused
            rw [counts]
            exact ⟨⟨64, .exhausted, rfl⟩, .refused, nofun⟩
      | ok t =>
          obtain ⟨d, random, nonce, drafted, given, rfl⟩ := issueToken_eq_ok_iff.mp issued
          obtain ⟨servers, expireTime, -, -, -, rfl, rfl⟩ :=
            TokenRequest.draft_eq_ok_iff.mp drafted
          cases scheme : issuer.scheme with
          | extended =>
              rw [scheme] at given
              obtain ⟨rfl, rfl⟩ := Scheme.extended_nextNonce_eq_ok_iff.mp given
              refine ⟨⟨88, .drawn, rfl⟩, .drawn rfl, ?_⟩
              rintro _ ⟨⟩ x bytes has
              cases x <;> cases has <;> rfl
          | sequence =>
              rw [scheme] at given
              obtain ⟨value, counter, taken, rfl, rfl⟩ :=
                Scheme.sequence_nextNonce_eq_ok_iff.mp given
              refine ⟨⟨64, .counted, rfl⟩, .counted taken rfl, ?_⟩
              rintro _ ⟨⟩ x bytes has
              cases x <;> cases has <;> rfl

/-- What an issuance by a clock takes from its supply.  Before the epoch it takes nothing. -/
theorem issueTokenByClock_spends (issuer : Issuer) (clock : ClockReading) (r : TokenRequest)
    (s : Supply) :
    s.Spends issuer.scheme (issuer.issueTokenByClock clock r s).1
      (issuer.issueTokenByClock clock r s).2 := by
  rw [issueTokenByClock, byClock]
  split
  · refine ⟨⟨0, .clock, rfl⟩, .refused, ?_⟩
    rintro t ⟨⟩
  · exact issuer.issueToken_spends _ r s

/-- To issue bytes is to issue a token and to write it, which costs nothing more. -/
theorem issueBytes_eq (issuer : Issuer) (now : Instant) (r : TokenRequest) (s : Supply) :
    issuer.issueBytes now r s =
      ((issuer.issueToken now r s).1.map Token.wire, (issuer.issueToken now r s).2) := by
  rw [issueBytes]
  cases issuer.issueToken now r s with
  | mk outcome left =>
      cases outcome with
      | error e => rfl
      | ok t => simp only [Except.bind, Except.map, assemble_eq]

theorem issueBytesByClock_eq (issuer : Issuer) (clock : ClockReading) (r : TokenRequest)
    (s : Supply) :
    issuer.issueBytesByClock clock r s = ((issuer.issueTokenByClock clock r s).1.map Token.wire,
      (issuer.issueTokenByClock clock r s).2) := by
  rw [issueBytesByClock, issueTokenByClock, byClock, byClock]
  split
  · rfl
  · exact issuer.issueBytes_eq _ r s

end Issuer

/-! ### Errands -/

/-- When a token is asked for. -/
inductive Moment where
  /-- At an instant that is given. -/
  | instant (now : Instant)
  /-- At what a clock reads. -/
  | clock (reading : ClockReading)
deriving DecidableEq

/-- What an issuer hands out. -/
inductive Handed where
  | token (t : Token)
  | wire (bytes : Block Size.token)
deriving DecidableEq

/-- The token that is handed out; a wire form is read. -/
def Handed.token? : Handed → Option Token
  | token t => some t
  | wire bytes => (Token.parse bytes.toList).toOption

/-- An order for a token: at which desk, when, for what and in which form. -/
structure Errand where
  desk : Desk
  moment : Moment
  request : TokenRequest
  inWireForm : Bool
deriving DecidableEq

namespace Errand

/-- Does an errand at a bureau. -/
def place (e : Errand) (b : Bureau) : Except IssuanceError Handed × Bureau :=
  match e.moment, e.inWireForm with
  | .instant now, false => (e.desk.issueToken now e.request b).map (·.map .token) id
  | .instant now, true => (e.desk.issueBytes now e.request b).map (·.map .wire) id
  | .clock reading, false =>
    (e.desk.issueTokenByClock reading e.request b).map (·.map .token) id
  | .clock reading, true =>
    (e.desk.issueBytesByClock reading e.request b).map (·.map .wire) id

/-- The form in which an errand has its token. -/
def present (e : Errand) (t : Token) : Handed :=
  if e.inWireForm then .wire t.wire else .token t

/-- The issuance of an errand, in whichever form its token is handed out. -/
def issue (e : Errand) (s : Supply) : Except IssuanceError Token × Supply :=
  match e.moment with
  | .instant now => e.desk.issuer.issueToken now e.request s
  | .clock reading => e.desk.issuer.issueTokenByClock reading e.request s

theorem issue_spends (e : Errand) (s : Supply) :
    s.Spends e.desk.issuer.scheme (e.issue s).1 (e.issue s).2 := by
  unfold issue
  cases e.moment with
  | instant now => exact e.desk.issuer.issueToken_spends now e.request s
  | clock reading => exact e.desk.issuer.issueTokenByClock_spends reading e.request s

/-- **However it is asked for, an errand is one issuance** from the supply of its desk.  The forms
differ in what they hand out, and in nothing that they take. -/
theorem place_eq (e : Errand) (b : Bureau) :
    e.place b = ((e.issue (b.supply e.desk.counter)).1.map e.present,
      b.restock e.desk.counter (e.issue (b.supply e.desk.counter)).2) := by
  obtain ⟨desk, moment, request, inWireForm⟩ := e
  -- The form is put on the outcome behind the issuance, and so it can be put on at once.
  have twice (outcome : Except IssuanceError Token) :
      (outcome.map Token.wire).map Handed.wire = outcome.map fun t => .wire t.wire := by
    cases outcome <;> rfl
  cases moment with
  | instant now =>
      cases inWireForm with
      | false => rfl
      | true =>
          simp only [place, issue, Desk.issueBytes, Bureau.serve, Issuer.issueBytes_eq,
            Prod.map, twice]
          rfl
  | clock reading =>
      cases inWireForm with
      | false => rfl
      | true =>
          simp only [place, issue, Desk.issueBytesByClock, Bureau.serve,
            Issuer.issueBytesByClock_eq, Prod.map, twice]
          rfl

/-! ### Ledgers -/

/-- What is noted of an errand: how far the stream was read before and behind it, and what
was handed out. -/
structure Entry where
  errand : Errand
  before : Nat
  outcome : Except IssuanceError Handed
  behind : Nat

/-- Does an errand and notes it. -/
def entry (e : Errand) (b : Bureau) : Entry :=
  ⟨e, b.random.position, (e.place b).1, (e.place b).2.random.position⟩

/-- Does errands one after the other and notes them. -/
def ledger : List Errand → Bureau → List Entry
  | [], _ => []
  | e :: rest, b => e.entry b :: ledger rest (e.place b).2

/-- The token that was handed out for an errand has a secret. -/
def Entry.Has (n : Entry) (x : Secret) (bytes : Bytes) : Prop :=
  ∃ handed t, n.outcome = .ok handed ∧ handed.token? = some t ∧ x.of? t = some bytes

/-- **One errand is accounted for**: what it costs, and where its secrets stand. -/
structure Entry.Accounts (n : Entry) (byteAt : Nat → UInt8) : Prop where
  /-- The outcome tells how many bytes were read. -/
  pays : ∃ cost, n.errand.desk.issuer.scheme.Pays n.outcome cost ∧ n.behind = n.before + cost
  /-- What is handed out is a token of the scheme. -/
  handed : ∀ handed, n.outcome = .ok handed →
    ∃ t, handed.token? = some t ∧ t.nonce.scheme = n.errand.desk.issuer.scheme
  /-- Its secrets stand one behind the other, from where the errand began. -/
  drawn : ∀ x bytes, n.Has x bytes →
    bytes = (RandomSource.segment byteAt (n.before + x.offset) x.size).toList

/-- What was drawn for an errand was drawn while it was done: its secrets stand between where the
stream was before it and where it is behind it. -/
theorem Entry.Accounts.covers {n : Entry} {byteAt : Nat → UInt8} (accounts : n.Accounts byteAt)
    {x : Secret} {bytes : Bytes} (has : n.Has x bytes) :
    n.before + x.offset + x.size ≤ n.behind := by
  obtain ⟨handed, t, issued, token, has⟩ := has
  obtain ⟨cost, pays, behind⟩ := accounts.pays
  obtain ⟨t', token', kind⟩ := accounts.handed handed issued
  obtain rfl : t' = t := Option.some.inj (token'.symm.trans token)
  rw [issued] at pays
  have := pays.covers kind has
  omega

/-- Either form of a token has its secrets, and the nonce.  The bytes of one are read back for
that, which leaves out its scopes only. -/
theorem exists_token?_present (e : Errand) (t : Token) :
    ∃ t', (e.present t).token? = some t' ∧ t'.nonce = t.nonce ∧ ∀ x, Secret.of? t' x = x.of? t := by
  unfold present
  split
  · refine ⟨t.unscoped, ?_, rfl, Secret.of?_unscoped t⟩
    rw [Handed.token?, Token.parse_wire]
    rfl
  · exact ⟨t, rfl, rfl, fun _ => rfl⟩

theorem outcome_entry (e : Errand) (b : Bureau) :
    (e.entry b).outcome = (e.issue (b.supply e.desk.counter)).1.map e.present := by
  rw [entry, place_eq]

/-- Whatever is handed out is a form of the token that was issued, so that its secrets are those
of that token. -/
theorem exists_issue_of_outcome_eq_ok {e : Errand} {b : Bureau} {handed : Handed}
    (handedOut : (e.entry b).outcome = .ok handed) :
    ∃ t, (e.issue (b.supply e.desk.counter)).1 = .ok t ∧ handed = e.present t := by
  rw [outcome_entry] at handedOut
  cases issued : (e.issue (b.supply e.desk.counter)).1 with
  | error cause =>
      rw [issued] at handedOut
      cases handedOut
  | ok t =>
      rw [issued] at handedOut
      exact ⟨t, rfl, (Except.ok.inj handedOut).symm⟩

/-- **One errand**: it is accounted for, and the stream stays.  This is the step of all inductions
over a ledger. -/
theorem entry_accounts (e : Errand) (b : Bureau) :
    (e.entry b).Accounts b.random.byteAt ∧ (e.place b).2.random.byteAt = b.random.byteAt := by
  obtain ⟨⟨cost, pays, read⟩, counts, drawn⟩ := e.issue_spends (b.supply e.desk.counter)
  have read' : (e.place b).2.random = b.random.skip cost := by
    rw [place_eq]
    exact read
  have behind : (e.entry b).behind = (e.entry b).before + cost := by
    rw [entry, read', RandomSource.position_skip]
  refine ⟨⟨⟨cost, ?_, behind⟩, ?_, ?_⟩, by rw [read', RandomSource.byteAt_skip]⟩
  · rw [outcome_entry]
    exact pays.map e.present
  · intro handed handedOut
    obtain ⟨t, issued, rfl⟩ := exists_issue_of_outcome_eq_ok handedOut
    obtain ⟨t', token, nonce, -⟩ := e.exists_token?_present t
    rw [issued] at counts
    exact ⟨t', token, nonce ▸ counts.scheme_nonce⟩
  · rintro x bytes ⟨handed, t', handedOut, token, has⟩
    obtain ⟨t, issued, rfl⟩ := exists_issue_of_outcome_eq_ok handedOut
    obtain ⟨t'', token', -, same⟩ := e.exists_token?_present t
    obtain rfl : t'' = t' := Option.some.inj (token'.symm.trans token)
    rw [same] at has
    exact drawn t issued x bytes has

/-! ### Fresh secrets -/

/-- **The secrets of a ledger are fresh**, where the errands were done one after the other
from a place in the stream on. -/
structure Fresh (errands : List Errand) (random : RandomSource) (ledger : List Entry) :
    Prop where
  /-- Each errand is noted, in its turn. -/
  errands : ledger.map Entry.errand = errands
  /-- The first errand reads on from where the stream stood. -/
  first : ∀ n, ledger.head? = some n → n.before = random.position
  /-- Each other errand reads on from where the one before it stopped. -/
  next : ledger.IsChain fun n n' => n'.before = n.behind
  /-- What is read for an errand is its cost, and its secrets stand in what is read. -/
  accounts : ∀ n ∈ ledger, n.Accounts random.byteAt
  /-- No byte is used for two tokens or for two secrets of one. -/
  apart : ∀ (i j : Nat) (n n' : Entry) (x y : Secret) (bytes bytes' : Bytes),
    (i, x) ≠ (j, y) → ledger[i]? = some n → ledger[j]? = some n' →
    n.Has x bytes → n'.Has y bytes' →
      n.before + x.offset + x.size ≤ n'.before + y.offset ∨
        n'.before + y.offset + y.size ≤ n.before + x.offset

theorem accounts_of_mem_ledger {errands : List Errand} {b : Bureau} {n : Entry}
    (noted : n ∈ ledger errands b) :
    n.Accounts b.random.byteAt ∧ b.random.position ≤ n.before := by
  induction errands generalizing b with
  | nil => cases noted
  | cons e rest ih =>
      obtain ⟨accounts, stream⟩ := e.entry_accounts b
      obtain ⟨cost, -, behind⟩ := accounts.pays
      rcases List.mem_cons.mp noted with rfl | later
      · exact ⟨accounts, Nat.le_refl _⟩
      · obtain ⟨accounts', begins⟩ := ih later
        rw [stream] at accounts'
        have begun : (e.place b).2.random.position = b.random.position + cost := behind
        exact ⟨accounts', by omega⟩

/-- Of two errands of a ledger the later one reads behind the earlier one, whether or not the
earlier one was refused. -/
theorem pairwise_ledger (errands : List Errand) (b : Bureau) :
    (ledger errands b).Pairwise fun n n' => n.behind ≤ n'.before := by
  induction errands generalizing b with
  | nil => exact .nil
  | cons e rest ih =>
      refine List.pairwise_cons.mpr ⟨fun n later => ?_, ih _⟩
      exact (accounts_of_mem_ledger later).2

theorem map_errand_ledger (errands : List Errand) (b : Bureau) :
    (ledger errands b).map Entry.errand = errands := by
  induction errands generalizing b with
  | nil => rfl
  | cons e rest ih => exact congrArg (e :: ·) (ih _)

theorem before_of_head?_ledger {errands : List Errand} {b : Bureau} {n : Entry}
    (head : (ledger errands b).head? = some n) : n.before = b.random.position := by
  cases errands with
  | nil => cases head
  | cons e rest =>
      cases head
      rfl

/-- Each errand begins where the one before it ended: no byte of the stream is left out between
them. -/
theorem isChain_ledger (errands : List Errand) (b : Bureau) :
    (ledger errands b).IsChain fun n n' => n'.before = n.behind := by
  induction errands generalizing b with
  | nil => exact .nil
  | cons e rest ih =>
      refine List.isChain_cons.mpr ⟨fun n head => ?_, ih _⟩
      exact before_of_head?_ledger head

/-- **Fresh secrets.**  Whichever errands are done one after the other, at whichever desks, each
token has bytes of the random stream that are used nowhere else. -/
theorem ledger_fresh (errands : List Errand) (b : Bureau) :
    Fresh errands b.random (ledger errands b) := by
  constructor
  case errands => exact map_errand_ledger errands b
  case first => exact fun n => before_of_head?_ledger
  case next => exact isChain_ledger errands b
  case accounts => exact fun n noted => (accounts_of_mem_ledger noted).1
  case apart =>
    intro i j n n' x y bytes bytes' differ at_i at_j has has'
    have covers := (accounts_of_mem_ledger (List.mem_of_getElem? at_i)).1.covers has
    have covers' := (accounts_of_mem_ledger (List.mem_of_getElem? at_j)).1.covers has'
    obtain ⟨inside, rfl⟩ := List.getElem?_eq_some_iff.mp at_i
    obtain ⟨inside', rfl⟩ := List.getElem?_eq_some_iff.mp at_j
    -- Errands read one behind the other, and within one errand the secrets have places apart.
    have ordered := List.pairwise_iff_getElem.mp (pairwise_ledger errands b)
    rcases Nat.lt_trichotomy i j with before | rfl | behind
    · have := ordered i j inside inside' before
      omega
    · have other : x ≠ y := fun same => differ (by rw [same])
      have := Secret.apart_of_ne other
      omega
    · have := ordered j i inside' inside behind
      omega

end Errand

end ConnectTokens
