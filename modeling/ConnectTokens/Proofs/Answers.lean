import ConnectTokens.Proofs.Encoding
import ConnectTokens.Proofs.Numerals
import ConnectTokens.Proofs.Refusals

/-!
# What a matchmaker answers

A request for a match is bad if an id is none, fails if no token is issued, and is
granted a token otherwise.  The token is for the client and the protocol that the
request names, by the settings of the matchmaker.

## Main Definitions

* `Matchmaker.IsId`: the texts that are ids.
* `Matchmaker.Grants`: the answer with a token.
* `Matchmaker.AnswersToken`: all answers to requests for a token.

## Main Statements

* `Matchmaker.readIds_eq_error_iff`: which id is at fault.
* `Matchmaker.matchWith_of_refused`, `Matchmaker.matchWith_of_issued`: how a match turns out,
  in whatever form the token is presented.
* `Matchmaker.matchToken_answers`: what is answered to a request for a token.
-/

namespace ConnectTokens.Matchmaker

variable {m : Matchmaker} {clock : ClockReading} {s s' : Supply}

/-! ### Ids -/

/-- A text is an id. -/
def IsId (text : String) : Prop := ∃ id, Decimal.Writes text.toList id

/-- A part of the path is an id exactly if it writes a word in decimal digits, with or without a
plus sign. -/
theorem readId_eq_ok_iff {name : IdName} {text : String} {id : UInt64} :
    readId name text = .ok id ↔ Decimal.Writes text.toList id := by
  rw [← Decimal.uint64?_eq_some_iff, readId]
  split
  · next read => simp [read]
  · next unread => simp [unread]

/-- A part of the path that is no id is refused with the name of the id and with the part itself.
-/
theorem readId_eq_error_iff {name : IdName} {text : String} {e : MatchError} :
    readId name text = .error e ↔ ¬ IsId text ∧ e = .invalidId name text := by
  rw [IsId, ← Decimal.uint64?_eq_none_iff, readId]
  split
  · next read => simp [read]
  · next unread => simp [unread, eq_comm]

/-- Both ids are there exactly if each part writes its word.  The order of the two is that of the
path. -/
theorem readIds_eq_ok_iff {protocolText clientText : String} {protocol client : UInt64} :
    readIds protocolText clientText = .ok (protocol, client) ↔
      Decimal.Writes protocolText.toList protocol ∧ Decimal.Writes clientText.toList client := by
  rw [← @readId_eq_ok_iff .protocolId, ← @readId_eq_ok_iff .clientId, readIds]
  cases readId .protocolId protocolText with
  | error e => simp [bind, Except.bind]
  | ok p => cases readId .clientId clientText <;> simp [bind, Except.bind, pure, Except.pure]

/-- The id of the protocol is looked at first, so that of two bad ids it is the one that is named.
-/
theorem readIds_eq_error_iff {protocolText clientText : String} {e : MatchError} :
    readIds protocolText clientText = .error e ↔
      (¬ IsId protocolText ∧ e = .invalidId .protocolId protocolText) ∨
      (IsId protocolText ∧ ¬ IsId clientText ∧ e = .invalidId .clientId clientText) := by
  rw [readIds]
  cases protocolRead : readId .protocolId protocolText with
  | error cause =>
      obtain ⟨isNone, rfl⟩ := readId_eq_error_iff.mp protocolRead
      simp [bind, Except.bind, isNone, eq_comm]
  | ok protocol =>
      have isId : IsId protocolText := ⟨protocol, readId_eq_ok_iff.mp protocolRead⟩
      cases clientRead : readId .clientId clientText with
      | error cause =>
          obtain ⟨isNone, rfl⟩ := readId_eq_error_iff.mp clientRead
          simp [bind, Except.bind, isId, isNone, eq_comm]
      | ok client =>
          have isId' : IsId clientText := ⟨client, readId_eq_ok_iff.mp clientRead⟩
          simp [bind, Except.bind, pure, Except.pure, isId, isId']

/-! ### How a match turns out -/

section Outcome

variable {protocolText clientText : String} {protocol client : UInt64}

/-- A request for a match has a bad id, or is refused, or a token is issued for it.  All answers
are gone through by these three cases. -/
theorem badId_or_refused_or_issued (m : Matchmaker) (clock : ClockReading)
    (protocolText clientText : String) (s : Supply) :
    (∃ e, readIds protocolText clientText = .error e) ∨
      ∃ protocol client s', readIds protocolText clientText = .ok (protocol, client) ∧
        ((∃ e, m.issuer.issueTokenByClock clock (m.request client protocol) s =
            (.error e, s')) ∨
          ∃ t, m.issuer.issueTokenByClock clock (m.request client protocol) s = (.ok t, s')) := by
  cases ids : readIds protocolText clientText with
  | error e => exact .inl ⟨e, rfl⟩
  | ok read =>
      obtain ⟨protocol, client⟩ := read
      cases outcome : m.issuer.issueTokenByClock clock (m.request client protocol) s with
      | mk result left =>
          cases result with
          | error e => exact .inr ⟨protocol, client, left, rfl, .inl ⟨e, outcome⟩⟩
          | ok t => exact .inr ⟨protocol, client, left, rfl, .inr ⟨t, outcome⟩⟩

/-- The answer when no token is issued, with its log.  How a token would have been presented does
not matter. -/
theorem issueMatch_of_refused {e : IssuanceError}
    (refused : m.issuer.issueTokenByClock clock (m.request client protocol) s = (.error e, s'))
    (present : Token → List Char → Response) :
    m.issueMatch clock client protocol present s =
      { response := (MatchError.issuance e).response
        log := (m.request client protocol).log (.error e) ++ [⟨.error,
          s!"Failed to generate connect token for client {Matchmaker.clientText client}: {e.message}"⟩]
        supply := s' } := by
  rw [issueMatch, refused]

/-- The answer with a token, with its log.  The token is in wire form and in base64, and the rest
is left to the presentation. -/
theorem issueMatch_of_issued {t : Token}
    (issued : m.issuer.issueTokenByClock clock (m.request client protocol) s = (.ok t, s'))
    (present : Token → List Char → Response) :
    m.issueMatch clock client protocol present s =
      { response := present t (Base64.encode t.wire.toList)
        log := (m.request client protocol).log (.ok t) ++ [⟨.info,
          s!"Matched client {Matchmaker.clientText client} to {t.servers.first.text}"⟩]
        supply := s' } := by
  have encoded : encodeToken t = .ok (Base64.encode t.wire.toList) := by
    rw [encodeToken, Issuer.assemble_eq]
    rfl
  simp only [issueMatch, issued, encoded]

/-- A bad id is answered before the issuer is asked: there is no log of a refusal, and the supply
is as it was. -/
theorem matchWith_of_badId {e : MatchError} (bad : readIds protocolText clientText = .error e)
    (present : Token → List Char → Response) :
    m.matchWith clock protocolText clientText present s = ⟨e.response, [], s⟩ := by
  rw [matchWith, bad]

theorem matchWith_of_refused {e : IssuanceError}
    (ids : readIds protocolText clientText = .ok (protocol, client))
    (refused : m.issuer.issueTokenByClock clock (m.request client protocol) s = (.error e, s'))
    (present : Token → List Char → Response) :
    (m.matchWith clock protocolText clientText present s).response =
        (MatchError.issuance e).response ∧
      (m.matchWith clock protocolText clientText present s).supply = s' := by
  simp only [matchWith, ids, issueMatch_of_refused refused, and_self]

theorem matchWith_of_issued {t : Token}
    (ids : readIds protocolText clientText = .ok (protocol, client))
    (issued : m.issuer.issueTokenByClock clock (m.request client protocol) s = (.ok t, s'))
    (present : Token → List Char → Response) :
    (m.matchWith clock protocolText clientText present s).response =
        present t (Base64.encode t.wire.toList) ∧
      (m.matchWith clock protocolText clientText present s).supply = s' := by
  simp only [matchWith, ids, issueMatch_of_issued issued, and_self]

end Outcome

/-! ### Tokens -/

/-- **A response grants a token** for a client of a protocol: it holds, in base64, the
wire form of a token for the protocol, and what the key of the matchmaker opens in it is
for the client. -/
def Grants (m : Matchmaker) (clock : ClockReading) (protocol client : UInt64)
    (response : Response) : Prop :=
  ∃ now bytes t p, clock.sinceEpoch? = some now ∧
    response = .plain 200 (String.ofList (Base64.encode bytes)) ∧
    Base64.decode? response.body.toList = some bytes ∧ bytes.length = 2048 ∧
    Token.parse bytes = .ok t ∧ t.openPrivate m.key = .ok p ∧
    t.protocolId = protocol ∧ p.clientId = client ∧
    p.servers.toList = m.settings.servers.map SocketAddress.unscoped ∧ t.servers = p.servers ∧
    p.timeout = m.settings.timeout ∧ t.timeout = p.timeout ∧
    p.userData.toList = List.replicate 256 0 ∧
    (∀ count, m.settings.expiry = .seconds count →
      t.expireTime.toNat = now.seconds.toNat + count.toNat) ∧
    (m.settings.expiry = .never → t.expireTime.toNat = 2 ^ 64 - 1)

/-- **What a matchmaker owes** to a request for a token. -/
structure AnswersToken (m : Matchmaker) (clock : ClockReading) (protocolText clientText : String)
    (s : Supply) (a : Answer) : Prop where
  /-- A request is bad exactly if an id is none. -/
  bad : a.response.status = 400 ↔ ¬ (IsId protocolText ∧ IsId clientText)
  /-- The id of the protocol is looked at first. -/
  badProtocol : ¬ IsId protocolText →
    a.response = .plain 400 ("Unable to parse protocolID: " ++ protocolText)
  badClient : IsId protocolText → ¬ IsId clientText →
    a.response = .plain 400 ("Unable to parse clientID: " ++ clientText)
  /-- A bad request draws no random byte and takes no value of the counter. -/
  free : a.response.status = 400 → a.supply = s
  /-- A good request fails exactly if no token is issued. -/
  fails : IsId protocolText → IsId clientText →
    (a.response.status = 500 ↔ ∃ e, m.Refuses clock s e)
  cause : IsId protocolText → IsId clientText → ∀ e, m.Refuses clock s e →
    a.response = .plain 500 ("Failed to generate connect token: " ++ e.message)
  /-- What does not fail is granted, and the ids are not exchanged. -/
  granted : ∀ protocol client, Decimal.Writes protocolText.toList protocol →
    Decimal.Writes clientText.toList client → (¬ ∃ e, m.Refuses clock s e) →
      m.Grants clock protocol client a.response

/-- The user data that a matchmaker asks for are zeros, 256 of them, for every client and every
protocol. -/
theorem toList_userData (client protocol : UInt64) :
    (Block.pad Size.userData (m.request client protocol).userData).toList =
      List.replicate 256 0 := by
  have full : (m.request client protocol).userData.length = Size.userData :=
    List.length_replicate
  rw [Block.toList_pad_of_le (Nat.le_of_eq full), full, Nat.sub_self]
  exact List.append_nil _

/-- What a matchmaker issues is granted: the token that the client reads from the answer is the
one that was asked for, its private part included. -/
theorem grants_of_issued {protocol client : UInt64} {t : Token}
    (issued : m.issuer.issueTokenByClock clock (m.request client protocol) s = (.ok t, s')) :
    m.Grants clock protocol client
      (.plain 200 (String.ofList (Base64.encode t.wire.toList))) := by
  obtain ⟨now, stands, issued⟩ := Issuer.issueTokenByClock_eq_ok_iff.mp issued
  obtain ⟨servers, expireTime, _, _, nonce, hasServers, expires, -, -, rfl⟩ :=
    Issuer.draftOf_of_issueToken issued
  have servers_eq : servers.unscoped.toList = m.settings.servers.map SocketAddress.unscoped :=
    congrArg (List.map SocketAddress.unscoped) hasServers
  refine ⟨now, _, _, _, stands, rfl, ?_, Token.length_wire _, Token.parse_wire _,
    Draft.openPrivate_token _ m.key nonce, rfl, rfl, servers_eq, rfl, rfl, rfl, ?_, ?_, ?_⟩
  · rw [Response.plain, String.toList_ofList, Base64.decode?_encode]
  · exact toList_userData client protocol
  · intro count finite
    have expires : (Expiry.seconds count).expireTime now.seconds = .ok expireTime :=
      finite ▸ expires
    exact (Expiry.seconds_expireTime_eq_ok_iff.mp expires).1
  · intro never
    have expires : Expiry.never.expireTime now.seconds = .ok expireTime := never ▸ expires
    exact Expiry.never_expireTime_eq_ok_iff.mp expires

/-- A request with a bad id is answered as stated, and the supply is untouched. -/
theorem answersToken_of_badId {protocolText clientText : String} {e : MatchError}
    (bad : readIds protocolText clientText = .error e) :
    m.AnswersToken clock protocolText clientText s ⟨e.response, [], s⟩ := by
  obtain ⟨badProtocol, rfl⟩ | ⟨isId, badClient, rfl⟩ := readIds_eq_error_iff.mp bad
  · exact {
      bad := iff_of_true rfl fun isIds => badProtocol isIds.1
      badProtocol := fun _ => rfl
      badClient := fun isId => absurd isId badProtocol
      free := fun _ => rfl
      fails := fun isId => absurd isId badProtocol
      cause := fun isId => absurd isId badProtocol
      granted := fun protocol _ writes => absurd ⟨protocol, writes⟩ badProtocol }
  · exact {
      bad := iff_of_true rfl fun isIds => badClient isIds.2
      badProtocol := fun noId => absurd isId noId
      badClient := fun _ _ => rfl
      free := fun _ => rfl
      fails := fun _ isId => absurd isId badClient
      cause := fun _ isId => absurd isId badClient
      granted := fun _ client _ writes => absurd ⟨client, writes⟩ badClient }

section GoodRequest

variable {protocolText clientText : String} {protocol client : UInt64} {a : Answer}

/-- Who asks does not matter to a refusal: its causes are in the settings, the clock and the
counter, and none is in the ids. -/
theorem exists_issueTokenByClock_of_refuses {e : IssuanceError} (refuses : m.Refuses clock s e)
    (client protocol : UInt64) :
    ∃ s', m.issuer.issueTokenByClock clock (m.request client protocol) s = (.error e, s') :=
  issueTokenByClock_eq_error_iff.mpr refuses

/-- A good request for which no token is issued is answered as stated, with the cause of the
refusal in its text. -/
theorem answersToken_of_refused {e : IssuanceError}
    (ids : readIds protocolText clientText = .ok (protocol, client))
    (refused : m.issuer.issueTokenByClock clock (m.request client protocol) s = (.error e, s'))
    (response : a.response = (MatchError.issuance e).response) :
    m.AnswersToken clock protocolText clientText s a := by
  obtain ⟨writesProtocol, writesClient⟩ := readIds_eq_ok_iff.mp ids
  have refuses : m.Refuses clock s e := issueTokenByClock_eq_error_iff.mp ⟨s', refused⟩
  have status : a.response.status = 500 := by rw [response]; rfl
  exact {
    bad := iff_of_false (by rw [status]; decide)
      (not_not_intro ⟨⟨protocol, writesProtocol⟩, ⟨client, writesClient⟩⟩)
    badProtocol := absurd ⟨protocol, writesProtocol⟩
    badClient := fun _ => absurd ⟨client, writesClient⟩
    free := fun bad => by rw [status] at bad; cases bad
    fails := fun _ _ => iff_of_true status ⟨e, refuses⟩
    cause := by
      intro _ _ e' refuses'
      -- One cause only: the issuance has one outcome.
      obtain ⟨_, refused'⟩ := exists_issueTokenByClock_of_refuses refuses' client protocol
      cases refused.symm.trans refused'
      exact response
    granted := fun _ _ _ _ issuable => absurd ⟨e, refuses⟩ issuable }

/-- A good request for which a token is issued is answered as stated, and there was no cause
against it. -/
theorem answersToken_of_issued {t : Token}
    (ids : readIds protocolText clientText = .ok (protocol, client))
    (issued : m.issuer.issueTokenByClock clock (m.request client protocol) s = (.ok t, s'))
    (response : a.response = .plain 200 (String.ofList (Base64.encode t.wire.toList))) :
    m.AnswersToken clock protocolText clientText s a := by
  obtain ⟨writesProtocol, writesClient⟩ := readIds_eq_ok_iff.mp ids
  have issuable : ¬ ∃ e, m.Refuses clock s e := by
    rintro ⟨e, refuses⟩
    obtain ⟨_, refused⟩ := exists_issueTokenByClock_of_refuses refuses client protocol
    cases issued.symm.trans refused
  have status : a.response.status = 200 := by rw [response]; rfl
  exact {
    bad := iff_of_false (by rw [status]; decide)
      (not_not_intro ⟨⟨protocol, writesProtocol⟩, ⟨client, writesClient⟩⟩)
    badProtocol := absurd ⟨protocol, writesProtocol⟩
    badClient := fun _ => absurd ⟨client, writesClient⟩
    free := fun bad => by rw [status] at bad; cases bad
    fails := fun _ _ => iff_of_false (by rw [status]; decide) issuable
    cause := fun _ _ e refuses => absurd ⟨e, refuses⟩ issuable
    granted := by
      intro protocol' client' writesProtocol' writesClient' _
      cases ids.symm.trans (readIds_eq_ok_iff.mpr ⟨writesProtocol', writesClient'⟩)
      rw [response]
      exact grants_of_issued issued }

end GoodRequest

/-- **What is answered to a request for a token**, for all settings, keys, readings of the
clock, states of the supply and parts of the path.  It is what is answered to all URIs
with these parts. -/
theorem matchToken_answers (m : Matchmaker) (clock : ClockReading)
    (protocolText clientText : String) (s : Supply) :
    m.AnswersToken clock protocolText clientText s
        (m.matchToken clock protocolText clientText s) ∧
      ∀ uri, Route.of? "GET" uri = some (.token protocolText clientText) →
        m.answer clock "GET" uri s = m.matchToken clock protocolText clientText s := by
  refine ⟨?_, fun uri routed => by rw [answer, routed]⟩
  obtain ⟨e, bad⟩ | ⟨protocol, client, left, ids, ⟨e, refused⟩ | ⟨t, issued⟩⟩ :=
    m.badId_or_refused_or_issued clock protocolText clientText s
  · rw [matchToken, matchWith_of_badId bad]
    exact answersToken_of_badId bad
  · exact answersToken_of_refused ids refused (matchWith_of_refused ids refused _).1
  · exact answersToken_of_issued ids issued (matchWith_of_issued ids issued _).1

/-- A matchmaker with the standard settings. -/
def standardMatchmaker : Matchmaker := ⟨.standard, ⟨Block.zero Size.key⟩⟩

/-- Leading zeros and a plus sign are taken, and of two bad ids the first is named. -/
theorem matchToken_answers_standard :
    standardMatchmaker.Grants ⟨1000, 0⟩ 7 9
        (standardMatchmaker.answer ⟨1000, 0⟩ "GET" "/match/007/+9" (opening (.seeded 1))).response ∧
      (standardMatchmaker.answer ⟨1000, 0⟩ "GET" "/match/x/y" (opening (.seeded 1))).response =
        .plain 400 "Unable to parse protocolID: x" := by
  have routed : Route.of? "GET" "/match/007/+9" = some (.token "007" "+9") := by decide +kernel
  have routed' : Route.of? "GET" "/match/x/y" = some (.token "x" "y") := by decide +kernel
  have issuable : ¬ ∃ e, standardMatchmaker.Refuses ⟨1000, 0⟩ (opening (.seeded 1)) e := by
    rintro ⟨e, early | ⟨stands, uncounted⟩ | ⟨stands, counted, finite, late⟩ |
      ⟨stands, counted, fits, counts, used⟩⟩
    · cases early
    · exact uncounted ⟨by decide, by decide⟩
    · cases finite
      cases stands
      exact absurd late (by decide)
    · cases counts
  have noId : ¬ IsId "x" := Decimal.uint64?_eq_none_iff.mp (by decide)
  obtain ⟨answers, answered⟩ :=
    matchToken_answers standardMatchmaker ⟨1000, 0⟩ "007" "+9" (opening (.seeded 1))
  obtain ⟨answers', answered'⟩ :=
    matchToken_answers standardMatchmaker ⟨1000, 0⟩ "x" "y" (opening (.seeded 1))
  rw [answered _ routed, answered' _ routed']
  refine ⟨answers.granted 7 9 ?_ ?_ issuable, answers'.badProtocol noId⟩
  · exact Decimal.uint64?_eq_some_iff.mp (by decide)
  · exact Decimal.uint64?_eq_some_iff.mp (by decide)

end ConnectTokens.Matchmaker
