import ConnectTokens.Proofs.Draws

/-!
# How issuances turn out

Four things can stand against an issuance, in any combination, and a fifth if it goes by a
clock.  Nothing else does: the sealing and the assembling of a token never fail.  An issuance
fails with the first of the causes that stand against it, and leaves the counter as it was.

## Main Definitions

* `Issuer.causes`, `Issuer.causesByClock`: all that stands against an issuance, in order.
* `Supply.DecidedBy`: an issuance turns out as the causes say.

## Main Statements

* `IssuanceError.of?_bind`: the cause of two steps in a row.
* `Issuer.of?_issueToken`: the cause of an issuance is the first one.
* `Issuer.issuances_decided`: issuances at an instant and by a clock, in either form.

## Design Notes

Each cause of the list is there on its own account, whether or not another one is there before
it.  The order of the steps is then the order of the list, and steps in a row are lists in a
row.
-/

namespace ConnectTokens

/-! ### Causes -/

namespace IssuanceError

/-- The cause, unless all is right. -/
def ifNot (right : Prop) [Decidable right] (cause : IssuanceError) : List IssuanceError :=
  if right then [] else [cause]

@[simp] theorem ifNot_eq_nil_iff {right : Prop} [Decidable right] {cause : IssuanceError} :
    ifNot right cause = [] ↔ right := by
  by_cases h : right <;> simp [ifNot, h]

/-- Why an outcome holds nothing. -/
def of? {α : Type} : Except IssuanceError α → Option IssuanceError
  | .ok _ => none
  | .error cause => some cause

variable {α β : Type}

theorem of?_eq_some_iff {outcome : Except IssuanceError α} {cause : IssuanceError} :
    of? outcome = some cause ↔ outcome = .error cause := by
  cases outcome <;> simp [of?]

theorem of?_eq_none_iff {outcome : Except IssuanceError α} :
    of? outcome = none ↔ ∃ a, outcome = .ok a := by
  cases outcome <;> simp [of?]

@[simp] theorem of?_map (outcome : Except IssuanceError α) (f : α → β) :
    of? (outcome.map f) = of? outcome := by
  cases outcome <;> rfl

/-- A step that fails for one cause only has that cause exactly if it fails.  Each step of an
issuance is one of these. -/
theorem of?_eq_head?_ifNot {right : Prop} [Decidable right] {cause : IssuanceError}
    {outcome : Except IssuanceError α} (passes : right → ∃ a, outcome = .ok a)
    (fails : ¬ right → outcome = .error cause) : of? outcome = (ifNot right cause).head? := by
  by_cases holds : right
  · rw [ifNot, if_pos holds]
    exact of?_eq_none_iff.mpr (passes holds)
  · rw [ifNot, if_neg holds]
    exact of?_eq_some_iff.mpr (fails holds)

/-- **Of two steps in a row** the causes of the first one count before those of the second, which
is not taken if there are any. -/
theorem of?_bind {outcome : Except IssuanceError α} {next : α → Except IssuanceError β}
    {causes later : List IssuanceError} (first : of? outcome = causes.head?)
    (second : ∀ a, of? (next a) = later.head?) :
    of? (outcome.bind next) = (causes ++ later).head? := by
  rw [List.head?_append, ← first]
  cases outcome with
  | error cause => rfl
  | ok a => exact second a

end IssuanceError

open IssuanceError (ifNot of?)

/-- What stands against a list of servers. -/
def ServerAddresses.causes (addresses : List SocketAddress) : List IssuanceError :=
  ifNot (1 ≤ addresses.length ∧ addresses.length ≤ Size.maxServers)
    (.token .validating (.addressCount addresses.length))

/-- What stands against a lifetime that begins at some time. -/
def Expiry.causes (createTime : UInt64) : Expiry → List IssuanceError
  | never => []
  | seconds count =>
    ifNot (createTime.toNat + count.toNat ≤ 2 ^ 64 - 2) (.expiryOverflow createTime count)

/-- What stands against user data. -/
def PrivateToken.causes (userData : Bytes) : List IssuanceError :=
  ifNot (userData.length ≤ Size.userData) (.token .building (.userDataTooLarge userData.length))

/-- What stands against one more nonce of a scheme. -/
def Scheme.causes (scheme : Scheme) (counter : NonceSequence) : List IssuanceError :=
  ifNot (scheme = sequence → counter.last.toNat ≠ 2 ^ 64 - 1) .sequenceExhausted

namespace Issuer

/-- **All that stands against an issuance** at an instant, in the order in which it counts. -/
def causes (issuer : Issuer) (now : Instant) (r : TokenRequest) (counter : NonceSequence) :
    List IssuanceError :=
  ServerAddresses.causes r.servers ++ r.expiry.causes now.seconds ++
    PrivateToken.causes r.userData ++ issuer.scheme.causes counter

/-- All that stands against an issuance by a clock: only a clock that stands before the epoch
counts, or else what it reads. -/
def causesByClock (issuer : Issuer) (clock : ClockReading) (r : TokenRequest)
    (counter : NonceSequence) : List IssuanceError :=
  match clock.sinceEpoch? with
  | none => [.clockBeforeEpoch]
  | some now => issuer.causes now r counter

end Issuer

/-! ### The cause of each step -/

theorem ServerAddresses.of?_ofList (addresses : List SocketAddress) :
    of? (IssuanceError.during .validating (ofList addresses)) =
      (causes addresses).head? := by
  refine IssuanceError.of?_eq_head?_ifNot (fun counted => ?_) (fun uncounted => ?_)
  · rw [ofList, dif_pos counted]
    exact ⟨_, rfl⟩
  · rw [ofList, dif_neg uncounted]
    rfl

theorem Expiry.of?_expireTime (e : Expiry) (createTime : UInt64) :
    of? (e.expireTime createTime) = (e.causes createTime).head? := by
  cases e with
  | never => rfl
  | seconds count =>
      have last : endOfTime.toNat = 2 ^ 64 - 1 := toNat_endOfTime
      refine IssuanceError.of?_eq_head?_ifNot (fun fits => ?_) (fun late => ?_)
      · exact ⟨_, if_pos (by omega)⟩
      · exact if_neg (by omega)

/-- A private part is refused for the size of its user data, or not at all. -/
theorem PrivateToken.of?_build (clientId : UInt64) (timeout : Int32) (servers : ServerAddresses)
    (userData : Bytes) (clientToServer serverToClient : Block Size.key) :
    of? (IssuanceError.during .building
      (build clientId timeout servers userData clientToServer serverToClient)) =
      (causes userData).head? := by
  refine IssuanceError.of?_eq_head?_ifNot (fun fits => ?_) (fun large => ?_)
  · rw [build, if_pos fits]
    exact ⟨_, rfl⟩
  · rw [build, if_neg large]
    rfl

/-- A nonce is refused for a counter at its end, or not at all; the extended scheme never refuses
one. -/
theorem Scheme.of?_nextNonce (scheme : Scheme) (s : Supply) :
    of? (scheme.nextNonce s).1 = (scheme.causes s.sequence).head? := by
  refine IssuanceError.of?_eq_head?_ifNot (fun left => ?_) (fun ended => ?_)
  · have below : scheme = sequence → s.sequence.last.toNat < 2 ^ 64 - 1 := by
      intro counts
      have := s.sequence.last.toNat_lt
      have := left counts
      omega
    obtain ⟨nonce, s', given⟩ := exists_nextNonce_iff.mpr below
    exact ⟨nonce, congrArg Prod.fst given⟩
  · obtain ⟨counts, used⟩ := Classical.not_imp.mp ended
    exact congrArg Prod.fst (nextNonce_eq_error_iff.mpr ⟨counts, not_not.mp used, rfl, rfl⟩)

namespace TokenRequest

/-- The check asks for the servers and then for the lifetime, and the first cause of the two lists
is its error. -/
theorem of?_check (r : TokenRequest) (createTime : UInt64) :
    of? (r.check createTime) =
      (ServerAddresses.causes r.servers ++ r.expiry.causes createTime).head? := by
  refine IssuanceError.of?_bind (ServerAddresses.of?_ofList r.servers) fun servers => ?_
  rw [← List.append_nil (r.expiry.causes createTime)]
  exact IssuanceError.of?_bind (r.expiry.of?_expireTime createTime) fun _ => rfl

/-- The user data are looked at behind the check, so that their cause comes third in the list. -/
theorem of?_draft (r : TokenRequest) (now : Instant) (random : RandomSource) :
    of? (r.draft now random).1 =
      (ServerAddresses.causes r.servers ++ r.expiry.causes now.seconds ++
        PrivateToken.causes r.userData).head? := by
  have inARow : (r.draft now random).1 = (r.check now.seconds).bind fun (servers, expireTime) =>
      (IssuanceError.during .building (PrivateToken.build r.clientId r.timeout servers r.userData
        (random.draw Size.key).1 ((random.draw Size.key).2.draw Size.key).1)).map fun content =>
          { content, protocolId := r.protocolId, createTime := now.seconds, expireTime } := by
    rw [draft]
    cases r.check now.seconds <;> rfl
  rw [inARow]
  refine IssuanceError.of?_bind (r.of?_check now.seconds) fun _ => ?_
  rw [IssuanceError.of?_map, PrivateToken.of?_build]

end TokenRequest

namespace Issuer

/-- **The cause of an issuance is the first one.**  The list of causes is what the request, the
time and the counter say, without any step being taken. -/
theorem of?_issueToken (issuer : Issuer) (now : Instant) (r : TokenRequest) (s : Supply) :
    of? (issuer.issueToken now r s).1 = (issuer.causes now r s.sequence).head? := by
  have inARow : (issuer.issueToken now r s).1 = (r.draft now s.random).1.bind fun d =>
      (issuer.scheme.nextNonce { s with random := (r.draft now s.random).2 }).1.map
        (d.token issuer.key) := by
    rw [issueToken]
    rcases r.draft now s.random with ⟨_ | d, random⟩
    · rfl
    · simp only [Except.bind]
      rcases issuer.scheme.nextNonce { s with random } with ⟨_ | nonce, left⟩
      · rfl
      · exact d.finish_eq issuer.key nonce
  rw [inARow]
  refine IssuanceError.of?_bind (r.of?_draft now s.random) fun d => ?_
  rw [IssuanceError.of?_map, Scheme.of?_nextNonce]

end Issuer

/-! ### Issuances -/

/-- **An issuance turns out as its causes say.**  Without a cause something is issued, and
otherwise the first cause is the error. -/
structure Supply.DecidedBy {α : Type} (s : Supply) (causes : List IssuanceError)
    (result : Except IssuanceError α × Supply) : Prop where
  issued_iff : (∃ a, result.1 = .ok a) ↔ causes = []
  refused_iff : ∀ cause, result.1 = .error cause ↔ causes.head? = some cause
  /-- An error leaves the counter as it was. -/
  counter : ∀ cause, result.1 = .error cause → result.2.sequence = s.sequence

namespace Supply.DecidedBy

variable {α β : Type} {s : Supply} {causes : List IssuanceError}

theorem of_of?_eq {result : Except IssuanceError α × Supply}
    (first : of? result.1 = causes.head?)
    (counter : ∀ cause, result.1 = .error cause → result.2.sequence = s.sequence) :
    s.DecidedBy causes result where
  issued_iff := by rw [← IssuanceError.of?_eq_none_iff, first, List.head?_eq_none_iff]
  refused_iff := by
    intro cause
    rw [← IssuanceError.of?_eq_some_iff, first]
  counter := counter

/-- What is made of what is issued does not matter: the causes and the supply are those of the
issuance. -/
theorem map {outcome : Except IssuanceError α} {left : Supply}
    (decided : s.DecidedBy causes (outcome, left)) (f : α → β) :
    s.DecidedBy causes (outcome.map f, left) := by
  refine of_of?_eq ?_ ?_
  · rw [IssuanceError.of?_map]
    cases outcome with
    | error cause => exact ((decided.refused_iff cause).mp rfl).symm
    | ok a =>
        rw [decided.issued_iff.mp ⟨a, rfl⟩]
        rfl
  · intro cause refused
    cases outcome with
    | error cause => exact decided.counter cause rfl
    | ok a => cases refused

end Supply.DecidedBy

namespace Issuer

variable (issuer : Issuer) (r : TokenRequest) (s : Supply)

/-- Nothing stands against a request that is right in all four respects: its servers, its
lifetime, its user data and the counter. -/
theorem causes_eq_nil_iff (now : Instant) :
    issuer.causes now r s.sequence = [] ↔
      (1 ≤ r.servers.length ∧ r.servers.length ≤ 8) ∧
        (∀ count, r.expiry = .seconds count →
          now.seconds.toNat + count.toNat ≤ 2 ^ 64 - 2) ∧
        r.userData.length ≤ 256 ∧
        (issuer.scheme = .sequence → s.sequence.last.toNat ≠ 2 ^ 64 - 1) := by
  have lifetime : r.expiry.causes now.seconds = [] ↔
      ∀ count, r.expiry = .seconds count → now.seconds.toNat + count.toNat ≤ 2 ^ 64 - 2 := by
    cases r.expiry with
    | never => simp [Expiry.causes]
    | seconds count => simp [Expiry.causes]
  rw [causes, List.append_eq_nil_iff, List.append_eq_nil_iff, List.append_eq_nil_iff, lifetime,
    and_assoc, and_assoc]
  simp only [ServerAddresses.causes, PrivateToken.causes, Scheme.causes,
    IssuanceError.ifNot_eq_nil_iff]
  rfl

theorem issueToken_decided (now : Instant) :
    s.DecidedBy (issuer.causes now r s.sequence) (issuer.issueToken now r s) := by
  refine .of_of?_eq (issuer.of?_issueToken now r s) ?_
  intro cause refused
  have counts := (issuer.issueToken_spends now r s).counts
  rw [refused] at counts
  exact counts.eq_of_refused

theorem issueBytes_decided (now : Instant) :
    s.DecidedBy (issuer.causes now r s.sequence) (issuer.issueBytes now r s) := by
  rw [issueBytes_eq]
  exact (issuer.issueToken_decided r s now).map Token.wire

/-- By a clock that stands before the epoch nothing happens, and by any other one it turns out as
at its instant. -/
theorem byClock_decided {α : Type} {issue : Instant → Supply → Except IssuanceError α × Supply}
    (decided : ∀ now, s.DecidedBy (issuer.causes now r s.sequence) (issue now s))
    (clock : ClockReading) :
    s.DecidedBy (issuer.causesByClock clock r s.sequence) (byClock clock issue s) := by
  unfold causesByClock byClock
  cases clock.sinceEpoch? with
  | none => exact .of_of?_eq rfl fun _ _ => rfl
  | some now => exact decided now

/-- **How every issuance turns out.**  Without a cause against it there is a token, and
otherwise the first cause is the error; the counter is then as it was.  This holds at an
instant and by a clock, and of tokens as of their wire forms. -/
theorem issuances_decided :
    (∀ now,
      (issuer.causes now r s.sequence = [] ↔
        (1 ≤ r.servers.length ∧ r.servers.length ≤ 8) ∧
          (∀ count, r.expiry = .seconds count →
            now.seconds.toNat + count.toNat ≤ 2 ^ 64 - 2) ∧
          r.userData.length ≤ 256 ∧
          (issuer.scheme = .sequence → s.sequence.last.toNat ≠ 2 ^ 64 - 1)) ∧
      s.DecidedBy (issuer.causes now r s.sequence) (issuer.issueToken now r s) ∧
      s.DecidedBy (issuer.causes now r s.sequence) (issuer.issueBytes now r s)) ∧
    (∀ clock,
      s.DecidedBy (issuer.causesByClock clock r s.sequence)
        (issuer.issueTokenByClock clock r s) ∧
      s.DecidedBy (issuer.causesByClock clock r s.sequence)
        (issuer.issueBytesByClock clock r s) ∧
      (clock.seconds.toInt < 0 →
        issuer.issueTokenByClock clock r s = (.error .clockBeforeEpoch, s) ∧
          issuer.issueBytesByClock clock r s = (.error .clockBeforeEpoch, s)) ∧
      (0 ≤ clock.seconds.toInt →
        ∃ now : Instant, now.seconds.toNat = clock.seconds.toInt ∧ now.nanos = clock.nanos ∧
          issuer.issueTokenByClock clock r s = issuer.issueToken now r s ∧
          issuer.issueBytesByClock clock r s = issuer.issueBytes now r s)) ∧
    Stage.validating.text = "validating server addresses" ∧
    Stage.building.text = "building private connect token" := by
  refine ⟨fun now => ⟨issuer.causes_eq_nil_iff r s now, issuer.issueToken_decided r s now,
    issuer.issueBytes_decided r s now⟩, fun clock => ⟨?_, ?_, ?_, ?_⟩, rfl, rfl⟩
  · exact issuer.byClock_decided r s (issuer.issueToken_decided r s) clock
  · exact issuer.byClock_decided r s (issuer.issueBytes_decided r s) clock
  · intro early
    have before : clock.sinceEpoch? = none := if_neg (Int.not_le.mpr early)
    rw [issueTokenByClock, issueBytesByClock, byClock, byClock, before]
    exact ⟨rfl, rfl⟩
  · intro late
    obtain ⟨now, stands, seconds, nanos⟩ := ClockReading.sinceEpoch?_of_nonneg late
    refine ⟨now, seconds, nanos, ?_⟩
    rw [issueTokenByClock, issueBytesByClock, byClock, byClock, stands]
    exact ⟨rfl, rfl⟩

/-- A request for nine servers, with a lifetime up to the end of time and too much user data. -/
def hopelessRequest : TokenRequest :=
  { scopedRequest with
    servers := List.replicate 9 (.v4 ⟨[192, 0, 2, 9], rfl⟩ 40000)
    expiry := .seconds (18446744073709551615 - 1000)
    userData := List.replicate 257 0 }

/-- A counter at its end. -/
def spentSupply : Supply := ⟨⟨18446744073709551615⟩, .seeded 1⟩

/-- Where everything stands against an issuance the servers count first, and with servers that
are right the lifetime does; by an early clock neither counts.  A request that is right has its
token. -/
theorem issuances_decided_hopeless :
    countingIssuer.causes ⟨1000, 0⟩ hopelessRequest spentSupply.sequence =
      [.token .validating (.addressCount 9), .expiryOverflow 1000 (18446744073709551615 - 1000),
        .token .building (.userDataTooLarge 257), .sequenceExhausted] ∧
    (countingIssuer.issueToken ⟨1000, 0⟩ hopelessRequest spentSupply).1 =
      .error (.token .validating (.addressCount 9)) ∧
    (countingIssuer.issueToken ⟨1000, 0⟩ hopelessRequest spentSupply).2.sequence =
      spentSupply.sequence ∧
    (countingIssuer.issueBytes ⟨1000, 0⟩
        { hopelessRequest with servers := scopedRequest.servers } spentSupply).1 =
      .error (.expiryOverflow 1000 (18446744073709551615 - 1000)) ∧
    countingIssuer.issueTokenByClock ⟨-1, 0⟩ hopelessRequest spentSupply =
      (.error .clockBeforeEpoch, spentSupply) ∧
    ∃ t, (countingIssuer.issueToken ⟨1000, 0⟩ scopedRequest ⟨⟨6⟩, .seeded 1⟩).1 = .ok t := by
  obtain ⟨atInstant, byReading, -⟩ :=
    issuances_decided countingIssuer hopelessRequest spentSupply
  obtain ⟨-, decided, -⟩ := atInstant ⟨1000, 0⟩
  have refused : (countingIssuer.issueToken ⟨1000, 0⟩ hopelessRequest spentSupply).1 =
      .error (.token .validating (.addressCount 9)) := (decided.refused_iff _).mpr (by decide)
  obtain ⟨-, -, early, -⟩ := byReading ⟨-1, 0⟩
  refine ⟨?_, refused, decided.counter _ refused, ?_, (early (by decide)).1, ?_⟩
  · have large : hopelessRequest.userData.length = 257 := List.length_replicate
    rw [causes, PrivateToken.causes, large]
    decide
  · obtain ⟨-, -, decided⟩ := (issuances_decided countingIssuer
      { hopelessRequest with servers := scopedRequest.servers } spentSupply).1 ⟨1000, 0⟩
    exact (decided.refused_iff _).mpr (by decide)
  · obtain ⟨-, decided, -⟩ := (issuances_decided countingIssuer scopedRequest
      ⟨⟨6⟩, .seeded 1⟩).1 ⟨1000, 0⟩
    exact decided.issued_iff.mpr (by decide)

end Issuer

end ConnectTokens
