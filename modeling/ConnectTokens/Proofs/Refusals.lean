import ConnectTokens.Matchmaker.Basic
import ConnectTokens.Proofs.Lifetime

/-!
# Why there is no token

The exact causes for which an issuance fails, from the checks of a request up to the
policy of a matchmaker.

## Main Definitions

* `Matchmaker.Refuses`: when a matchmaker issues no token, and for which cause.

## Main Statements

* `TokenRequest.check_eq_error_iff`, `Scheme.nextNonce_eq_error_iff`: the refusals of the
  steps.
* `Issuer.issueToken_eq_error_iff`: what refuses is the draft or the scheme.
* `Matchmaker.issueTokenByClock_eq_error_iff`: the causes of a matchmaker.

## Design Notes

A matchmaker asks for the same addresses, lifetime and user data for all clients, so
that its refusals do not depend on who asks.
-/

namespace ConnectTokens

theorem ServerAddresses.ofList_eq_error_iff {addresses : List SocketAddress} {e : TokenError} :
    ofList addresses = .error e ↔
      ¬ (1 ≤ addresses.length ∧ addresses.length ≤ Size.maxServers) ∧
        e = .addressCount addresses.length := by
  rw [ofList]
  split
  · next counted => simp [counted]
  · next uncounted => simp [uncounted, eq_comm]

/-- A lifetime is refused if its end is beyond the greatest finite time, and then both of its
terms are told. -/
theorem Expiry.expireTime_eq_error_iff {e : Expiry} {createTime : UInt64}
    {cause : IssuanceError} :
    e.expireTime createTime = .error cause ↔
      ∃ count, e = .seconds count ∧ 2 ^ 64 - 1 ≤ createTime.toNat + count.toNat ∧
        cause = .expiryOverflow createTime count := by
  cases e with
  | never => simp [expireTime]
  | seconds count =>
      simp only [expireTime, toNat_endOfTime]
      split
      · next fits =>
        simp only [reduceCtorEq, seconds.injEq, false_iff]
        rintro ⟨_, rfl, late, -⟩
        omega
      · next late =>
        constructor
        · rintro ⟨⟩
          exact ⟨count, rfl, Nat.le_of_not_lt late, rfl⟩
        · rintro ⟨_, ⟨⟩, -, rfl⟩
          rfl

namespace TokenRequest

/-- The servers are looked at before the lifetime is, so that of two causes theirs is the one that
is told. -/
theorem check_eq_error_iff {r : TokenRequest} {createTime : UInt64} {e : IssuanceError} :
    r.check createTime = .error e ↔
      (¬ (1 ≤ r.servers.length ∧ r.servers.length ≤ Size.maxServers) ∧
        e = .token .validating (.addressCount r.servers.length)) ∨
      ((1 ≤ r.servers.length ∧ r.servers.length ≤ Size.maxServers) ∧
        r.expiry.expireTime createTime = .error e) := by
  simp only [check, IssuanceError.during]
  cases checked : ServerAddresses.ofList r.servers with
  | error cause =>
      obtain ⟨uncounted, rfl⟩ := ServerAddresses.ofList_eq_error_iff.mp checked
      simp [Except.mapError, bind, Except.bind, uncounted, eq_comm]
  | ok servers =>
      have counted : 1 ≤ r.servers.length ∧ r.servers.length ≤ Size.maxServers :=
        ServerAddresses.ofList_eq_ok_iff.mp checked ▸ ⟨servers.one_le_length, servers.length_le⟩
      simp only [Except.mapError, bind, Except.bind, counted, not_true_eq_false, false_and,
        false_or, true_and]
      cases r.expiry.expireTime createTime <;> simp [pure, Except.pure]

/-- User data that fit are no cause, and a refused check draws nothing from the stream. -/
theorem draft_eq_error_iff {r : TokenRequest} {now : Instant} {random random' : RandomSource}
    {e : IssuanceError} (fits : r.userData.length ≤ Size.userData) :
    r.draft now random = (.error e, random') ↔
      r.check now.seconds = .error e ∧ random' = random := by
  simp only [draft]
  split
  · next cause refused => simp [refused, eq_comm]
  · next servers expireTime checked =>
    simp [checked, PrivateToken.build, fits, IssuanceError.during, Except.mapError, Except.map]

end TokenRequest

/-- Only a counter at its end has no nonce, and it stays there.  The extended scheme does not ask
it. -/
theorem Scheme.nextNonce_eq_error_iff {scheme : Scheme} {s s' : Supply} {e : IssuanceError} :
    scheme.nextNonce s = (.error e, s') ↔
      scheme = .sequence ∧ s.sequence.last.toNat = 2 ^ 64 - 1 ∧ e = .sequenceExhausted ∧
        s' = s := by
  cases scheme with
  | extended => simp [nextNonce]
  | sequence =>
      simp only [nextNonce, true_and]
      split
      · next value counter taken =>
        have below := (NonceSequence.next_eq_some_iff.mp taken).1
        have := value.toNat_lt
        simp only [Prod.mk.injEq, reduceCtorEq, false_and, false_iff]
        omega
      · next counter taken =>
        obtain ⟨atEnd, rfl⟩ := NonceSequence.next_eq_none_iff.mp taken
        constructor
        · rintro ⟨⟩
          exact ⟨atEnd, rfl, rfl⟩
        · rintro ⟨-, rfl, rfl⟩
          rfl

namespace Issuer

/-- **What refuses** is the draft or, behind it, the scheme.  Sealing and writing, which come
last, never do. -/
theorem issueToken_eq_error_iff {issuer : Issuer} {now : Instant} {r : TokenRequest}
    {s s' : Supply} {e : IssuanceError} :
    issuer.issueToken now r s = (.error e, s') ↔
      (∃ random, r.draft now s.random = (.error e, random) ∧ s' = { s with random }) ∨
      ∃ d random, r.draft now s.random = (.ok d, random) ∧
        issuer.scheme.nextNonce { s with random } = (.error e, s') := by
  rw [issueToken]
  split
  · next cause random refused =>
    rw [refused]
    constructor
    · rintro ⟨⟩
      exact .inl ⟨random, rfl, rfl⟩
    · rintro (⟨_, ⟨⟩, rfl⟩ | ⟨_, _, ⟨⟩, -⟩)
      rfl
  · next d random drafted =>
    rw [drafted]
    split
    · next cause left refused =>
      constructor
      · rintro ⟨⟩
        exact .inr ⟨d, random, rfl, refused⟩
      · rintro (⟨_, ⟨⟩, -⟩ | ⟨_, _, ⟨⟩, refused'⟩)
        cases refused.symm.trans refused'
        rfl
    · next nonce left given =>
      rw [Draft.finish_eq]
      constructor
      · rintro ⟨⟩
      · rintro (⟨_, ⟨⟩, -⟩ | ⟨_, _, ⟨⟩, refused⟩)
        cases given.symm.trans refused

end Issuer

namespace Matchmaker

/-- The number of servers of a matchmaker is one that a token can have. -/
def Counted (m : Matchmaker) : Prop :=
  1 ≤ m.settings.servers.length ∧ m.settings.servers.length ≤ Size.maxServers

/-- **Why a matchmaker issues no token**, by the reading of its clock and the supply
that it has.  The causes are in the order in which they count. -/
inductive Refuses (m : Matchmaker) (clock : ClockReading) (s : Supply) : IssuanceError → Prop
  /-- The clock stands before the epoch. -/
  | clock (early : clock.sinceEpoch? = none) : Refuses m clock s .clockBeforeEpoch
  /-- There are no servers, or too many. -/
  | servers {now : Instant} (stands : clock.sinceEpoch? = some now) (uncounted : ¬ m.Counted) :
      Refuses m clock s (.token .validating (.addressCount m.settings.servers.length))
  /-- The lifetime would end at the time that is kept for tokens that never expire, or
  later. -/
  | expiry {now : Instant} {count : UInt64} (stands : clock.sinceEpoch? = some now)
      (counted : m.Counted) (finite : m.settings.expiry = .seconds count)
      (late : 2 ^ 64 - 1 ≤ now.seconds.toNat + count.toNat) :
      Refuses m clock s (.expiryOverflow now.seconds count)
  /-- The counter of nonces is at its end. -/
  | sequence {now : Instant} (stands : clock.sinceEpoch? = some now) (counted : m.Counted)
      (fits : m.settings.expiry.Fits now.seconds) (counts : m.settings.scheme = .sequence)
      (used : s.sequence.last.toNat = 2 ^ 64 - 1) :
      Refuses m clock s .sequenceExhausted

/-- What a matchmaker asks for at an instant is valid by its settings: neither the client nor the
protocol has a part in it. -/
theorem valid_request_iff {m : Matchmaker} {client protocol : UInt64} {now : Instant} :
    (m.request client protocol).Valid now ↔ m.Counted ∧ m.settings.expiry.Fits now.seconds := by
  constructor
  · intro valid
    exact ⟨⟨valid.one_le_servers, valid.servers_le⟩, valid.expiry_fits⟩
  · rintro ⟨counted, fits⟩
    exact ⟨counted.1, counted.2, fits, by simp [request]⟩

/-- **When a matchmaker issues no token, and why**: each cause with the state of the clock, the
settings and the counter in which it is the first one. -/
theorem issueTokenByClock_eq_error_iff {m : Matchmaker} {clock : ClockReading}
    {client protocol : UInt64} {s : Supply} {e : IssuanceError} :
    (∃ s', m.issuer.issueTokenByClock clock (m.request client protocol) s = (.error e, s')) ↔
      m.Refuses clock s e := by
  have data : (m.request client protocol).userData.length ≤ Size.userData := by simp [request]
  rw [Issuer.issueTokenByClock, Issuer.byClock]
  split
  · next early =>
    constructor
    · rintro ⟨_, ⟨⟩⟩
      exact .clock early
    · rintro (_ | stands | stands | stands)
      · exact ⟨s, rfl⟩
      all_goals cases early.symm.trans stands
  · next now stands =>
    simp only [Issuer.issueToken_eq_error_iff, TokenRequest.draft_eq_error_iff data]
    constructor
    · rintro ⟨s', ⟨_, ⟨refused, rfl⟩, -⟩ | ⟨d, random, drafted, refused⟩⟩
      · obtain ⟨uncounted, rfl⟩ | ⟨counted, refused⟩ := TokenRequest.check_eq_error_iff.mp refused
        · exact .servers stands uncounted
        · obtain ⟨count, finite, late, rfl⟩ := Expiry.expireTime_eq_error_iff.mp refused
          exact .expiry stands counted finite late
      · obtain ⟨counts, used, rfl, -⟩ := Scheme.nextNonce_eq_error_iff.mp refused
        obtain ⟨counted, fits⟩ :=
          valid_request_iff.mp (TokenRequest.exists_draft_iff.mp ⟨d, random, drafted⟩)
        exact .sequence stands counted fits counts used
    · rintro (early | ⟨stands', uncounted⟩ | ⟨stands', counted, finite, late⟩ |
        ⟨stands', counted, fits, counts, used⟩)
      · cases early.symm.trans stands
      all_goals obtain rfl : _ = now := Option.some.inj (stands'.symm.trans stands)
      · exact ⟨_, .inl ⟨_, ⟨TokenRequest.check_eq_error_iff.mpr (.inl ⟨uncounted, rfl⟩), rfl⟩, rfl⟩⟩
      · have refused := Expiry.expireTime_eq_error_iff.mpr ⟨_, finite, late, rfl⟩
        exact ⟨_, .inl ⟨_, ⟨TokenRequest.check_eq_error_iff.mpr (.inr ⟨counted, refused⟩), rfl⟩,
          rfl⟩⟩
      · obtain ⟨d, random, drafted⟩ :=
          TokenRequest.exists_draft_iff.mpr (valid_request_iff.mpr ⟨counted, fits⟩)
        exact ⟨_, .inr ⟨d, random, drafted,
          Scheme.nextNonce_eq_error_iff.mpr ⟨counts, used, rfl, rfl⟩⟩⟩

end Matchmaker

end ConnectTokens
