import ConnectTokens.Proofs.Issuing

/-!
# The lifetime of a token

Tokens are created, and their expiry is checked, in whole seconds, and the clock runs
on within them.  A token still never outlives its lifetime, and falls short of it by
less than a second.  The greatest time is kept for tokens that never expire.

## Main Definitions

* `Token.Lives`: what a server sees of the lifetime of a token.

## Main Statements

* `Expiry.seconds_expireTime_eq_ok_iff`: the expire time of a finite lifetime.
* `Instant.totalNanos_lt_iff`: whole seconds and nanoseconds.
* `Issuer.issueBytes_lives`: the lifetime of what is issued and carried in wire form.
-/

namespace ConnectTokens

namespace Instant

/-- An instant is before a whole second exactly when its own second is.  The nanoseconds do not
carry over, for there are fewer than a second of them. -/
theorem totalNanos_lt_iff {t : Instant} {n : Nat} :
    t.totalNanos < n * 1000000000 ↔ t.seconds.toNat < n := by
  have := t.nanos.isLt
  rw [totalNanos]
  omega

/-- What is not later has no later second, so what has expired once stays expired. -/
theorem seconds_le_of_totalNanos_le {t u : Instant} (le : t.totalNanos ≤ u.totalNanos) :
    t.seconds.toNat ≤ u.seconds.toNat := by
  have := u.nanos.isLt
  rw [totalNanos, totalNanos] at le
  omega

end Instant

/-- What a clock reads that does not stand before the epoch: an instant with the same second and
the same nanoseconds. -/
theorem ClockReading.sinceEpoch?_of_nonneg {clock : ClockReading}
    (late : 0 ≤ clock.seconds.toInt) :
    ∃ now, clock.sinceEpoch? = some now ∧ now.seconds.toNat = clock.seconds.toInt ∧
      now.nanos = clock.nanos := by
  have below := clock.seconds.toInt_lt
  have fits : clock.seconds.toInt.toNat < 2 ^ 64 := by omega
  refine ⟨_, if_pos late, ?_, rfl⟩
  rw [UInt64.toNat_ofNat_of_lt' fits, Int.toNat_of_nonneg late]

namespace Expiry

theorem toNat_endOfTime : endOfTime.toNat = 2 ^ 64 - 1 := by decide

/-- A lifetime without end gives the greatest time, which no other lifetime gives, whatever the
create time. -/
theorem never_expireTime_eq_ok_iff {createTime expireTime : UInt64} :
    never.expireTime createTime = .ok expireTime ↔ expireTime.toNat = 2 ^ 64 - 1 := by
  rw [Expiry.expireTime, Except.ok.injEq, ← UInt64.toNat_inj, toNat_endOfTime]
  exact eq_comm

/-- A finite lifetime ends at the sum, which does not wrap and is not the greatest time.  Of the
sums that fit a word, only the greatest is refused. -/
theorem seconds_expireTime_eq_ok_iff {count createTime expireTime : UInt64} :
    (seconds count).expireTime createTime = .ok expireTime ↔
      expireTime.toNat = createTime.toNat + count.toNat ∧ expireTime.toNat < 2 ^ 64 - 1 := by
  simp only [Expiry.expireTime, toNat_endOfTime]
  split
  · next fits =>
    have sum : (createTime + count).toNat = createTime.toNat + count.toNat := by
      rw [UInt64.toNat_add]
      exact Nat.mod_eq_of_lt (by omega)
    rw [Except.ok.injEq, ← UInt64.toNat_inj, sum]
    omega
  · next tooLong =>
    simp only [reduceCtorEq, false_iff]
    omega

end Expiry

namespace Token

/-- A token is expired from the first nanosecond of its expire time on. -/
theorem isExpired_iff {t : Token} {now : Instant} :
    t.isExpired now = true ↔ t.expireTime.toNat ≤ now.seconds.toNat := by
  rw [isExpired, decide_eq_true_iff, UInt64.le_iff_toNat_le]

theorem isExpired_eq_false_iff {t : Token} {now : Instant} :
    t.isExpired now = false ↔ now.seconds.toNat < t.expireTime.toNat := by
  rw [← Bool.not_eq_true, isExpired_iff, Nat.not_le]

/-- **The life of a token** that was created at an instant with a lifetime, as a server
sees it at other instants. -/
structure Lives (t : Token) (created : Instant) (e : Expiry) : Prop where
  /-- A finite lifetime is over from the second on that it ends in. -/
  ends : ∀ count, e = .seconds count → ∀ now,
    t.isExpired now = true ↔ created.seconds.toNat + count.toNat ≤ now.seconds.toNat
  /-- With the nanoseconds counted, no token outlives its lifetime. -/
  within : ∀ count, e = .seconds count → ∀ now, t.isExpired now = false →
    now.totalNanos < created.totalNanos + count.toNat * 1000000000
  /-- A token lasts until one second before the end of its lifetime. -/
  lasts : ∀ count, e = .seconds count → 1 ≤ count.toNat → ∀ now,
    now.totalNanos ≤ created.totalNanos + (count.toNat - 1) * 1000000000 →
      t.isExpired now = false
  /-- Without a lifetime only the greatest second is too late. -/
  never : e = .never → ∀ now, t.isExpired now = true ↔ now.seconds.toNat = 2 ^ 64 - 1
  /-- An expired token stays expired. -/
  stays : ∀ now later, t.isExpired now = true → now.totalNanos ≤ later.totalNanos →
    t.isExpired later = true
  /-- The greatest time is that of tokens that never expire, and of no other. -/
  reserved : t.expireTime.toNat = 2 ^ 64 - 1 ↔ e = .never

/-- A token lives as its expire time tells.  It remains to know the expire time, which issuing
computes and the wire form keeps. -/
theorem lives_of_expireTime {t : Token} {created : Instant} {e : Expiry}
    (expires : e.expireTime created.seconds = .ok t.expireTime) : t.Lives created e := by
  have stays : ∀ now later, t.isExpired now = true → now.totalNanos ≤ later.totalNanos →
      t.isExpired later = true := by
    intro now later expired notLater
    rw [isExpired_iff] at expired ⊢
    exact Nat.le_trans expired (Instant.seconds_le_of_totalNanos_le notLater)
  cases e with
  | never =>
      have greatest := Expiry.never_expireTime_eq_ok_iff.mp expires
      refine ⟨nofun, nofun, nofun, fun _ now => ?_, stays, iff_of_true greatest rfl⟩
      have := now.seconds.toNat_lt
      rw [isExpired_iff, greatest]
      omega
  | seconds count =>
      obtain ⟨sum, below⟩ := Expiry.seconds_expireTime_eq_ok_iff.mp expires
      refine ⟨?_, ?_, ?_, nofun, stays, iff_of_false (Nat.ne_of_lt below) nofun⟩
      · rintro _ ⟨⟩ now
        rw [isExpired_iff, sum]
      · rintro _ ⟨⟩ now valid
        rw [isExpired_eq_false_iff, sum, ← Instant.totalNanos_lt_iff] at valid
        have begun : created.seconds.toNat * 1000000000 ≤ created.totalNanos :=
          Nat.le_add_right ..
        omega
      · rintro _ ⟨⟩ positive now early
        rw [isExpired_eq_false_iff, sum, ← Instant.totalNanos_lt_iff]
        -- What the creation lost of its second is less than the second that is given up.
        have begun : created.totalNanos < (created.seconds.toNat + 1) * 1000000000 :=
          Instant.totalNanos_lt_iff.mpr (Nat.lt_succ_self _)
        omega

end Token

namespace Issuer

/-- **The lifetime of a token.**  What an issuer issues at an instant and what is carried
in wire form lives, for the server that reads it, as its request asked. -/
theorem issueBytes_lives {issuer : Issuer} {now : Instant} {r : TokenRequest}
    {s s' : Supply} {b : Block Size.token}
    (issued : issuer.issueBytes now r s = (.ok b, s')) :
    ∃ t, Token.parse b.toList = .ok t ∧ t.Lives now r.expiry := by
  obtain ⟨t, issuedToken, rfl⟩ := issueBytes_eq_ok_iff.mp issued
  obtain ⟨servers, expireTime, _, _, nonce, -, expires, -, -, rfl⟩ :=
    draftOf_of_issueToken issuedToken
  exact ⟨_, Token.parse_wire _, Token.lives_of_expireTime expires⟩

/-- A token for thirty seconds that is created at the end of a second is expired at the
thirtieth second from then on, and not a nanosecond before. -/
theorem issueBytes_lives_thirty :
    ∃ b s' t, countingIssuer.issueBytes ⟨1000, 999999999⟩ scopedRequest ⟨⟨6⟩, .seeded 1⟩ =
        (.ok b, s') ∧
      Token.parse b.toList = .ok t ∧ t.isExpired ⟨1029, 999999999⟩ = false ∧
      t.isExpired ⟨1030, 0⟩ = true ∧ t.expireTime.toNat ≠ 2 ^ 64 - 1 := by
  have fits : (1000 : UInt64).toNat + (30 : UInt64).toNat < 2 ^ 64 - 1 := by decide
  have below : (6 : UInt64).toNat < 2 ^ 64 - 1 := by decide
  have valid : scopedRequest.Valid ⟨1000, 999999999⟩ := ⟨by decide, by decide, fits, by decide⟩
  obtain ⟨t₀, s', issuedToken⟩ : ∃ t s', countingIssuer.issueToken ⟨1000, 999999999⟩
      scopedRequest ⟨⟨6⟩, .seeded 1⟩ = (.ok t, s') :=
    exists_issueToken_iff.mpr ⟨valid, fun _ => below⟩
  have issued := issueBytes_eq_ok_iff.mpr ⟨t₀, issuedToken, rfl⟩
  obtain ⟨t, accepted, lives⟩ := issueBytes_lives issued
  refine ⟨t₀.wire, s', t, issued, accepted, lives.lasts 30 rfl (by decide) _ (by decide),
    (lives.ends 30 rfl _).mpr (by decide), fun greatest => ?_⟩
  cases lives.reserved.mp greatest

end Issuer

end ConnectTokens
