import ConnectTokens.Issuance.Issuer
import ConnectTokens.Proofs.Opening

/-!
# What an issuer issues

An issuance succeeds exactly when its request is valid and its scheme has a nonce
left, and then the token is told by the request, the session keys, the nonce and
the private key.  Whatever is issued reads back and opens to what was asked.

## Main Definitions

* `TokenRequest.Valid`: what can be asked at an instant.
* `Draft.token`: the token of a draft under a nonce, which is always there.

## Main Statements

* `TokenRequest.draft_eq_ok_iff`, `TokenRequest.exists_draft_iff`: when a request gets
  a draft, and which.
* `Issuer.issueToken_eq_ok_iff`: the steps of an issuance that succeeds.
* `Issuer.issueBytes_opens`: from the wire form back to the request.
-/

namespace ConnectTokens

/-- A list is taken exactly as it is.  Being taken at all is the proof that it has one to eight
addresses. -/
theorem ServerAddresses.ofList_eq_ok_iff {addresses : List SocketAddress}
    {s : ServerAddresses} : ofList addresses = .ok s ↔ s.toList = addresses := by
  constructor
  · intro h
    unfold ofList at h
    split at h
    · cases h
      rfl
    · cases h
  · rintro rfl
    rw [ofList, dif_pos ⟨s.one_le_length, s.length_le⟩]

namespace Expiry

/-- The lifetime ends before the time that is kept for tokens that never expire. -/
def Fits : Expiry → (createTime : UInt64) → Prop
  | never, _ => True
  | seconds count, createTime => createTime.toNat + count.toNat < 2 ^ 64 - 1

theorem exists_expireTime_iff {e : Expiry} {createTime : UInt64} :
    (∃ expireTime, e.expireTime createTime = .ok expireTime) ↔ e.Fits createTime := by
  cases e with
  | never => exact ⟨fun _ => trivial, fun _ => ⟨endOfTime, rfl⟩⟩
  | seconds count =>
      have last : endOfTime.toNat = 2 ^ 64 - 1 := by decide
      simp only [expireTime, last, Fits]
      split
      · next fits => exact ⟨fun _ => fits, fun _ => ⟨_, rfl⟩⟩
      · next tooLong => exact ⟨fun ⟨_, h⟩ => (nomatch h), fun fits => absurd fits tooLong⟩

/-- A lifetime is refused for one cause only: the expire time would not be a finite one. -/
theorem cause_of_expireTime_eq_error {e : Expiry} {createTime : UInt64} {cause : IssuanceError}
    (refused : e.expireTime createTime = .error cause) :
    ∃ count, cause = .expiryOverflow createTime count := by
  cases e with
  | never => cases refused
  | seconds count =>
      simp only [expireTime] at refused
      split at refused
      · cases refused
      · cases refused
        exact ⟨count, rfl⟩

end Expiry

/-! ### Requests -/

namespace TokenRequest

/-- What can be asked of an issuer at an instant: one to eight servers, a lifetime
that fits and no more user data than a token carries. -/
structure Valid (r : TokenRequest) (now : Instant) : Prop where
  one_le_servers : 1 ≤ r.servers.length
  servers_le : r.servers.length ≤ Size.maxServers
  expiry_fits : r.expiry.Fits now.seconds
  userData_le : r.userData.length ≤ Size.userData

/-- The draft of a request whose checks gave these servers and this expire time. -/
def draftOf (r : TokenRequest) (now : Instant) (servers : ServerAddresses)
    (expireTime : UInt64) (clientToServer serverToClient : Block Size.key) : Draft where
  content := { clientId := r.clientId, timeout := r.timeout, servers, clientToServer,
               serverToClient, userData := Block.pad Size.userData r.userData }
  protocolId := r.protocolId
  createTime := now.seconds
  expireTime := expireTime

/-- A request passes its check when its servers are taken and its lifetime ends, and both are
handed on as the request has them. -/
theorem check_eq_ok_iff {r : TokenRequest} {createTime expireTime : UInt64}
    {servers : ServerAddresses} :
    r.check createTime = .ok (servers, expireTime) ↔
      servers.toList = r.servers ∧ r.expiry.expireTime createTime = .ok expireTime := by
  rw [← ServerAddresses.ofList_eq_ok_iff]
  simp only [check, IssuanceError.during]
  cases ServerAddresses.ofList r.servers with
  | error e => simp [Except.mapError, bind, Except.bind]
  | ok s =>
      cases r.expiry.expireTime createTime with
      | error e => simp [Except.mapError, bind, Except.bind]
      | ok expire => simp [Except.mapError, bind, Except.bind, pure, Except.pure]

/-- **The draft of a request.**  The session keys are the next two segments of the random stream,
the one from client to server first. -/
theorem draft_eq_ok_iff {r : TokenRequest} {now : Instant} {random random' : RandomSource}
    {d : Draft} :
    r.draft now random = (.ok d, random') ↔
      ∃ servers expireTime, servers.toList = r.servers ∧
        r.expiry.expireTime now.seconds = .ok expireTime ∧
        r.userData.length ≤ Size.userData ∧
        d = r.draftOf now servers expireTime (random.draw Size.key).1
          ((random.draw Size.key).2.draw Size.key).1 ∧
        random' = ((random.draw Size.key).2.draw Size.key).2 := by
  simp only [draft]
  split
  · next e refused =>
    constructor
    · intro h
      cases h
    · rintro ⟨servers, expireTime, hasServers, expires, -⟩
      rw [check_eq_ok_iff.mpr ⟨hasServers, expires⟩] at refused
      cases refused
  · next servers expireTime checked =>
    obtain ⟨hasServers, expires⟩ := check_eq_ok_iff.mp checked
    -- Behind the checks only the user data can still be refused.
    by_cases fits : r.userData.length ≤ Size.userData
    · simp only [PrivateToken.build, if_pos fits, IssuanceError.during, Except.mapError,
        Except.map, Prod.mk.injEq, Except.ok.injEq]
      constructor
      · rintro ⟨rfl, rfl⟩
        exact ⟨servers, expireTime, hasServers, expires, fits, rfl, rfl⟩
      · rintro ⟨servers', expireTime', hasServers', expires', -, rfl, rfl⟩
        obtain rfl : servers = servers' :=
          ServerAddresses.ext (hasServers.trans hasServers'.symm)
        obtain rfl : expireTime = expireTime' :=
          Except.ok.inj (expires.symm.trans expires')
        exact ⟨rfl, rfl⟩
    · simp only [PrivateToken.build, if_neg fits, IssuanceError.during, Except.mapError,
        Except.map, Prod.mk.injEq]
      constructor
      · rintro ⟨h, -⟩
        cases h
      · rintro ⟨_, _, _, _, fits', -⟩
        exact absurd fits' fits

/-- A request gets a draft exactly when it is valid, whatever the random bytes are: the source of
keys never runs out. -/
theorem exists_draft_iff {r : TokenRequest} {now : Instant} {random : RandomSource} :
    (∃ d random', r.draft now random = (.ok d, random')) ↔ r.Valid now := by
  constructor
  · rintro ⟨d, random', drafted⟩
    obtain ⟨servers, expireTime, hasServers, expires, fits, -⟩ := draft_eq_ok_iff.mp drafted
    exact ⟨hasServers ▸ servers.one_le_length, hasServers ▸ servers.length_le,
      Expiry.exists_expireTime_iff.mp ⟨expireTime, expires⟩, fits⟩
  · intro valid
    obtain ⟨expireTime, expires⟩ := Expiry.exists_expireTime_iff.mpr valid.expiry_fits
    exact ⟨_, _, draft_eq_ok_iff.mpr ⟨⟨r.servers, valid.one_le_servers, valid.servers_le⟩,
      expireTime, rfl, expires, valid.userData_le, rfl, rfl⟩⟩

/-- The cause of a refused check is in the addresses or the lifetime.  It is known before any
random bytes are drawn. -/
theorem cause_of_check_eq_error {r : TokenRequest} {createTime : UInt64} {e : IssuanceError}
    (refused : r.check createTime = .error e) :
    (∃ cause, e = .token .validating cause) ∨ ∃ count, e = .expiryOverflow createTime count := by
  simp only [check, IssuanceError.during] at refused
  cases servers : ServerAddresses.ofList r.servers with
  | error cause =>
      rw [servers] at refused
      cases refused
      exact .inl ⟨cause, rfl⟩
  | ok s =>
      cases expires : r.expiry.expireTime createTime with
      | ok expireTime =>
          rw [servers, expires] at refused
          cases refused
      | error cause =>
          obtain ⟨count, rfl⟩ := Expiry.cause_of_expireTime_eq_error expires
          rw [servers, expires] at refused
          cases refused
          exact .inr ⟨count, rfl⟩

/-- A request without a draft is not valid, and its counter is not the cause, for no counter has
been asked yet. -/
theorem refused_of_draft_eq_error {r : TokenRequest} {now : Instant}
    {random random' : RandomSource} {e : IssuanceError}
    (refused : r.draft now random = (.error e, random')) :
    ¬ r.Valid now ∧ e ≠ .sequenceExhausted := by
  constructor
  · intro valid
    obtain ⟨d, left, drafted⟩ := exists_draft_iff.mpr valid
    rw [drafted] at refused
    cases refused
  · simp only [draft] at refused
    split at refused
    · next e checked =>
      cases refused
      obtain ⟨_, rfl⟩ | ⟨_, rfl⟩ := cause_of_check_eq_error checked <;> nofun
    · unfold PrivateToken.build at refused
      split at refused <;> cases refused
      nofun

end TokenRequest

/-! ### Nonces -/

namespace NonceSequence

/-- A counter gives the number behind its last one, and that becomes its last one.  It never wraps
around, since the sum is one of natural numbers. -/
theorem next_eq_some_iff {c c' : NonceSequence} {value : UInt64} :
    c.next = (some value, c') ↔ value.toNat = c.last.toNat + 1 ∧ c' = ⟨value⟩ := by
  rw [next]
  split
  · next below =>
    have sum : (c.last + 1).toNat = c.last.toNat + 1 := by
      rw [UInt64.toNat_add]
      exact Nat.mod_eq_of_lt below
    simp only [Prod.mk.injEq, Option.some.injEq]
    constructor
    · rintro ⟨rfl, rfl⟩
      exact ⟨sum, rfl⟩
    · rintro ⟨value_eq, rfl⟩
      obtain rfl : c.last + 1 = value := UInt64.toNat_inj.mp (sum.trans value_eq.symm)
      exact ⟨rfl, rfl⟩
  · next atEnd =>
    have := value.toNat_lt
    simp only [Prod.mk.injEq, reduceCtorEq, false_and, false_iff, UInt64.size] at atEnd ⊢
    omega

theorem next_eq_none_iff {c c' : NonceSequence} :
    c.next = (none, c') ↔ c.last.toNat = 2 ^ 64 - 1 ∧ c' = c := by
  have := c.last.toNat_lt
  rw [next, UInt64.size]
  split
  · next below =>
    simp only [Prod.mk.injEq, reduceCtorEq, false_and, false_iff]
    omega
  · next atEnd =>
    simp only [Prod.mk.injEq, true_and]
    exact ⟨fun h => ⟨by omega, h.symm⟩, fun h => h.2.symm⟩

end NonceSequence

namespace Scheme

/-- The extended scheme draws a nonce and leaves the counter alone, so that issuers of both
schemes can share a supply. -/
theorem extended_nextNonce_eq_ok_iff {s s' : Supply} {nonce : Nonce} :
    extended.nextNonce s = (.ok nonce, s') ↔
      nonce = .extended (s.random.draw Size.extendedNonce).1 ∧
        s' = { s with random := (s.random.draw Size.extendedNonce).2 } := by
  simp [nextNonce, eq_comm]

/-- The sequence scheme takes a value and draws nothing, so that the random stream is spent on
keys alone. -/
theorem sequence_nextNonce_eq_ok_iff {s s' : Supply} {nonce : Nonce} :
    sequence.nextNonce s = (.ok nonce, s') ↔
      ∃ value counter, s.sequence.next = (some value, counter) ∧ nonce = .sequence value ∧
        s' = { s with sequence := counter } := by
  simp only [nextNonce]
  split
  · next value counter taken =>
    simp only [taken, Prod.mk.injEq, Option.some.injEq, Except.ok.injEq]
    constructor
    · rintro ⟨rfl, rfl⟩
      exact ⟨value, counter, ⟨rfl, rfl⟩, rfl, rfl⟩
    · rintro ⟨_, _, ⟨rfl, rfl⟩, rfl, rfl⟩
      exact ⟨rfl, rfl⟩
  · next counter taken => simp [taken]

/-- Each scheme gives nonces of its own kind, which is the kind that the version tag of the token
announces. -/
theorem scheme_of_nextNonce {scheme : Scheme} {s s' : Supply} {nonce : Nonce}
    (given : scheme.nextNonce s = (.ok nonce, s')) : nonce.scheme = scheme := by
  cases scheme with
  | extended =>
      obtain ⟨rfl, -⟩ := extended_nextNonce_eq_ok_iff.mp given
      rfl
  | sequence =>
      obtain ⟨_, _, _, rfl, -⟩ := sequence_nextNonce_eq_ok_iff.mp given
      rfl

/-- A scheme has a nonce unless its counter is at its end.  The extended scheme always has one. -/
theorem exists_nextNonce_iff {scheme : Scheme} {s : Supply} :
    (∃ nonce s', scheme.nextNonce s = (.ok nonce, s')) ↔
      (scheme = .sequence → s.sequence.last.toNat < 2 ^ 64 - 1) := by
  cases scheme with
  | extended =>
      exact ⟨fun _ h => (nomatch h),
        fun _ => ⟨_, _, extended_nextNonce_eq_ok_iff.mpr ⟨rfl, rfl⟩⟩⟩
  | sequence =>
      simp only [sequence_nextNonce_eq_ok_iff, true_implies]
      constructor
      · rintro ⟨_, _, value, counter, taken, -⟩
        have := value.toNat_lt
        have := (NonceSequence.next_eq_some_iff.mp taken).1
        omega
      · intro below
        have := s.sequence.last.toNat_lt
        cases taken : s.sequence.next with
        | mk answer counter =>
            cases answer with
            | none =>
                have := (NonceSequence.next_eq_none_iff.mp taken).1
                omega
            | some value => exact ⟨_, _, value, counter, rfl, rfl, rfl⟩

end Scheme

/-! ### Tokens -/

namespace Draft

/-- The token of a draft under a nonce. -/
def token (d : Draft) (key : PrivateKey) (nonce : Nonce) : Token where
  protocolId := d.protocolId
  createTime := d.createTime
  expireTime := d.expireTime
  nonce := nonce
  sealedPart := d.content.sealedBlock d.protocolId d.expireTime nonce key
  timeout := d.content.timeout
  servers := d.content.servers
  clientToServer := d.content.clientToServer
  serverToClient := d.content.serverToClient

/-- **Once there is a nonce, nothing fails**: a draft is sealed and becomes a token under any key.
-/
theorem finish_eq (d : Draft) (key : PrivateKey) (nonce : Nonce) :
    d.finish key nonce = .ok (d.token key nonce) := by
  rw [finish, Token.sealPrivate, PrivateToken.sealed_eq]
  rfl

/-- The token of a draft opens to the content of the draft, under the key that it was sealed with
and as it is read from the wire. -/
theorem openPrivate_token (d : Draft) (key : PrivateKey) (nonce : Nonce) :
    (d.token key nonce).unscoped.openPrivate key = .ok d.content.unscoped :=
  PrivateToken.ofSealed_sealedBlock d.content d.protocolId d.expireTime nonce key

end Draft

namespace Issuer

/-- **The steps of an issuance that succeeds**: a draft, a nonce, and the token of both.  What is
drawn for the draft is no longer there for the nonce. -/
theorem issueToken_eq_ok_iff {issuer : Issuer} {now : Instant} {r : TokenRequest}
    {s s' : Supply} {t : Token} :
    issuer.issueToken now r s = (.ok t, s') ↔
      ∃ d random nonce, r.draft now s.random = (.ok d, random) ∧
        issuer.scheme.nextNonce { s with random } = (.ok nonce, s') ∧
        t = d.token issuer.key nonce := by
  rw [issueToken]
  split
  · next refused => simp [refused]
  · next d random drafted =>
    simp only [drafted, Prod.mk.injEq, Except.ok.injEq]
    split
    · next refused => simp [refused]
    · next nonce s given =>
      rw [Draft.finish_eq]
      constructor
      · intro h
        cases h
        exact ⟨d, random, nonce, ⟨rfl, rfl⟩, given, rfl⟩
      · rintro ⟨_, _, nonce', ⟨rfl, rfl⟩, given', rfl⟩
        rw [given] at given'
        cases given'
        rfl

/-- **What is issued** is the token of the request: of its servers, of the expire time
that its lifetime gives, of two session keys and of a nonce of the issuer's scheme. -/
theorem draftOf_of_issueToken {issuer : Issuer} {now : Instant} {r : TokenRequest}
    {s s' : Supply} {t : Token} (issued : issuer.issueToken now r s = (.ok t, s')) :
    ∃ servers expireTime clientToServer serverToClient nonce,
      servers.toList = r.servers ∧ r.expiry.expireTime now.seconds = .ok expireTime ∧
      r.userData.length ≤ Size.userData ∧ nonce.scheme = issuer.scheme ∧
      t = (r.draftOf now servers expireTime clientToServer serverToClient).token
        issuer.key nonce := by
  obtain ⟨d, random, nonce, drafted, given, rfl⟩ := issueToken_eq_ok_iff.mp issued
  obtain ⟨servers, expireTime, hasServers, expires, fits, rfl, -⟩ :=
    TokenRequest.draft_eq_ok_iff.mp drafted
  exact ⟨servers, expireTime, _, _, nonce, hasServers, expires, fits,
    Scheme.scheme_of_nextNonce given, rfl⟩

/-- An issuance succeeds exactly when its request is valid and there is a nonce.  Nothing else can
stand in its way. -/
theorem exists_issueToken_iff {issuer : Issuer} {now : Instant} {r : TokenRequest}
    {s : Supply} :
    (∃ t s', issuer.issueToken now r s = (.ok t, s')) ↔
      r.Valid now ∧ (issuer.scheme = .sequence → s.sequence.last.toNat < 2 ^ 64 - 1) := by
  simp only [issueToken_eq_ok_iff]
  constructor
  · rintro ⟨_, s', d, random, nonce, drafted, given, rfl⟩
    exact ⟨TokenRequest.exists_draft_iff.mp ⟨d, random, drafted⟩,
      (Scheme.exists_nextNonce_iff (s := { s with random })).mp ⟨nonce, s', given⟩⟩
  · rintro ⟨valid, notExhausted⟩
    obtain ⟨d, random, drafted⟩ := TokenRequest.exists_draft_iff.mpr valid
    obtain ⟨nonce, s', given⟩ :=
      (Scheme.exists_nextNonce_iff (s := { s with random })).mpr notExhausted
    exact ⟨_, s', d, random, nonce, drafted, given, rfl⟩

/-- By a clock, tokens are issued at the instant at which it stands, and by a clock that stands
before the epoch none are. -/
theorem issueTokenByClock_eq_ok_iff {issuer : Issuer} {clock : ClockReading} {r : TokenRequest}
    {s s' : Supply} {t : Token} :
    issuer.issueTokenByClock clock r s = (.ok t, s') ↔
      ∃ now, clock.sinceEpoch? = some now ∧ issuer.issueToken now r s = (.ok t, s') := by
  rw [issueTokenByClock, byClock]
  split
  · next early => simp [early]
  · next now stands => simp [stands]

/-- Nothing fails behind a token: its wire form is there as soon as the token is. -/
theorem assemble_eq (t : Token) : assemble t = .ok t.wire := by
  rw [assemble, Token.toBytes_eq]
  rfl

/-- The wire form of what is issued.  Issuing bytes succeeds when issuing a token does, and leaves
the same supply. -/
theorem issueBytes_eq_ok_iff {issuer : Issuer} {now : Instant} {r : TokenRequest}
    {s s' : Supply} {b : Block Size.token} :
    issuer.issueBytes now r s = (.ok b, s') ↔
      ∃ t, issuer.issueToken now r s = (.ok t, s') ∧ b = t.wire := by
  rw [issueBytes]
  cases issuer.issueToken now r s with
  | mk outcome left =>
      cases outcome with
      | error e => simp [Except.bind]
      | ok t =>
          simp only [Except.bind, assemble_eq, Prod.mk.injEq, Except.ok.injEq]
          constructor
          · rintro ⟨rfl, rfl⟩
            exact ⟨t, ⟨rfl, rfl⟩, rfl⟩
          · rintro ⟨_, ⟨rfl, rfl⟩, rfl⟩
            exact ⟨rfl, rfl⟩

/-- **End to end issuance.**  What is issued in wire form reads back as a token with
what was asked and the times that follow from the instant, and opens under the private
key to a private part that agrees with the token and the request.  The token is the
one that issuing without the wire form gives from the same counter and random bytes. -/
theorem issueBytes_opens {issuer : Issuer} {now : Instant} {r : TokenRequest}
    {s s' : Supply} {b : Block Size.token}
    (issued : issuer.issueBytes now r s = (.ok b, s')) :
    ∃ t p, Token.parse b.toList = .ok t ∧ t.openPrivate issuer.key = .ok p ∧
      t.protocolId = r.protocolId ∧ t.timeout = r.timeout ∧
      t.createTime = now.seconds ∧ r.expiry.expireTime t.createTime = .ok t.expireTime ∧
      t.nonce.scheme = issuer.scheme ∧
      p.clientId = r.clientId ∧ p.timeout = t.timeout ∧
      p.servers = t.servers ∧ t.servers.toList = r.servers.map SocketAddress.unscoped ∧
      p.clientToServer = t.clientToServer ∧ p.serverToClient = t.serverToClient ∧
      p.userData.toList =
        r.userData ++ List.replicate (256 - r.userData.length) 0 ∧
      ∃ t₀, issuer.issueToken now r s = (.ok t₀, s') ∧ t = t₀.unscoped := by
  obtain ⟨t₀, issuedToken, rfl⟩ := issueBytes_eq_ok_iff.mp issued
  obtain ⟨d, random, nonce, drafted, given, rfl⟩ := issueToken_eq_ok_iff.mp issuedToken
  obtain ⟨servers, expireTime, hasServers, expires, fits, rfl, -⟩ :=
    TokenRequest.draft_eq_ok_iff.mp drafted
  refine ⟨_, _, Token.parse_wire _, Draft.openPrivate_token _ issuer.key nonce, rfl, rfl, rfl,
    expires, Scheme.scheme_of_nextNonce given, rfl, rfl, rfl, ?_, rfl, rfl,
    Block.toList_pad_of_le fits, _, issuedToken, rfl⟩
  rw [← hasServers]
  rfl

/-- A request with a timeout that is off, for an IPv4 server and for one in IPv6 that
has flow information and a scope. -/
def scopedRequest : TokenRequest where
  clientId := 9
  protocolId := 5
  servers := [.v4 ⟨[10, 0, 0, 1], rfl⟩ 40000,
    .v6 ⟨[254, 128, 0, 0, 0, 0, 0, 0, 0, 0, 0, 0, 0, 0, 0, 1], rfl⟩ 40001 8 3]
  expiry := .seconds 30
  timeout := -1
  userData := [1, 2, 3]

/-- An issuer with a counter. -/
def countingIssuer : Issuer := ⟨⟨Block.zero Size.key⟩, .sequence⟩

/-- An issuance under the sequence scheme for two servers, one of which has a scope.  The scope is
gone from what is opened, and the rest is as it was asked for. -/
theorem issueBytes_opens_scoped :
    ∃ b s' t p,
      countingIssuer.issueBytes ⟨1000, 0⟩ scopedRequest ⟨⟨6⟩, .seeded 1⟩ = (.ok b, s') ∧
      Token.parse b.toList = .ok t ∧ t.openPrivate countingIssuer.key = .ok p ∧
      t.nonce.scheme = .sequence ∧ t.expireTime = 1030 ∧ p.timeout = -1 ∧
      p.servers.toList = [.v4 ⟨[10, 0, 0, 1], rfl⟩ 40000,
        .v6 ⟨[254, 128, 0, 0, 0, 0, 0, 0, 0, 0, 0, 0, 0, 0, 0, 1], rfl⟩ 40001 0 0] ∧
      p.userData.toList = [1, 2, 3] ++ List.replicate 253 0 := by
  have fits : (1000 : UInt64).toNat + (30 : UInt64).toNat < 2 ^ 64 - 1 := by decide
  have below : (6 : UInt64).toNat < 2 ^ 64 - 1 := by decide
  have valid : scopedRequest.Valid ⟨1000, 0⟩ := ⟨by decide, by decide, fits, by decide⟩
  have issuable : ∃ t s', countingIssuer.issueToken ⟨1000, 0⟩ scopedRequest
      ⟨⟨6⟩, .seeded 1⟩ = (.ok t, s') := exists_issueToken_iff.mpr ⟨valid, fun _ => below⟩
  obtain ⟨t₀, s', issuedToken⟩ := issuable
  have issued : countingIssuer.issueBytes ⟨1000, 0⟩ scopedRequest ⟨⟨6⟩, .seeded 1⟩ =
      (.ok t₀.wire, s') := issueBytes_eq_ok_iff.mpr ⟨t₀, issuedToken, rfl⟩
  obtain ⟨t, p, accepted, opened, -, timeout, created, expires, scheme, -, timeout',
    sameServers, servers, -, -, userData, -⟩ := issueBytes_opens issued
  rw [created] at expires
  refine ⟨t₀.wire, s', t, p, issued, accepted, opened, scheme, (Except.ok.inj expires).symm,
    timeout'.trans timeout, ?_, userData⟩
  rw [sameServers, servers]
  rfl

end Issuer

end ConnectTokens
