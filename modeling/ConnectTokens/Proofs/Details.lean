import ConnectTokens.Proofs.AddressText
import ConnectTokens.Proofs.Answers
import ConnectTokens.Proofs.JsonText

/-!
# A match with its details

The two kinds of match differ in nothing but how a token is presented.  The response with
details reads back from its JSON text, and what it tells about the token is what the
token tells.

## Main Definitions

* `MatchResponse.lexemes`, `MatchResponse.value`: the JSON text of a response as lexemes and
  as a value.
* `MatchResponse.Tells`: a response tells of the token in it.
* `Matchmaker.Agree`: the answers of the two kinds of match belong together.

## Main Statements

* `MatchResponse.ofText?_render`: a response reads back from its JSON text.
* `MatchResponse.tells_ofToken`: the response of a token tells of it.
* `Matchmaker.matchDetails_agrees`: the two kinds of match agree.
-/

namespace ConnectTokens

open Json

namespace MatchResponse

/-- The texts of the server addresses. -/
def addressTexts (r : MatchResponse) : List (List Char) :=
  r.serverAddresses.map SocketAddress.chars

/-- The digits of the expire time. -/
def timeDigits (r : MatchResponse) : List Char := Nat.toDigits 10 r.expireTimestamp.toNat

/-- The lexemes of a response. -/
def lexemes (r : MatchResponse) : List Lexeme :=
  [.openObject, .string (some "connectToken".toList), .colon, .string (some r.connectToken),
    .comma, .string (some "serverAddresses".toList), .colon, .openArray] ++
  (List.intercalate [.comma] (r.addressTexts.map fun text => [.string (some text)]) ++
  [.closeArray, .comma, .string (some "clientToServerKey".toList), .colon,
    .string (some r.clientToServerKey), .comma, .string (some "serverToClientKey".toList),
    .colon, .string (some r.serverToClientKey), .comma,
    .string (some "expireTimestamp".toList), .colon, .number r.timeDigits, .closeObject])

/-- The value of a response. -/
def value (r : MatchResponse) : Json.Value :=
  .object [(some "connectToken".toList, .string (some r.connectToken)),
    (some "serverAddresses".toList, .array (r.addressTexts.map fun text => .string (some text))),
    (some "clientToServerKey".toList, .string (some r.clientToServerKey)),
    (some "serverToClientKey".toList, .string (some r.serverToClientKey)),
    (some "expireTimestamp".toList, .number r.timeDigits)]

/-- A member of an object is read as its name, a colon and the value; the names in use hold no
character that is escaped. -/
theorem lexes_member (name : String) {value rest : List Char} {lexemes : List Lexeme}
    (lexes : Lexeme.Lexes (value ++ rest) lexemes) :
    Lexeme.Lexes (member name value ++ rest)
      (.string (some name.toList) :: .colon :: lexemes) := by
  rw [member, List.append_assoc, List.append_assoc, List.singleton_append]
  exact .quote _ (.mark ':' .colon rfl rfl lexes)

/-- A response is read as its lexemes.  The texts in it may hold any characters, since the printer
escapes what has to be. -/
theorem lexes_render (r : MatchResponse) : Lexeme.Lexes r.render r.lexemes := by
  -- From the end on: each lexeme is put in front of those behind it.
  have ends : Lexeme.EndsNumber ['\x7d'] := by
    rintro c ⟨⟩
    decide
  have time := lexes_member "expireTimestamp"
    (.digits r.expireTimestamp.toNat ends (.mark '\x7d' .closeObject rfl rfl .nil))
  have key := lexes_member "serverToClientKey"
    (.quote r.serverToClientKey (.mark ',' .comma rfl rfl time))
  have keys := lexes_member "clientToServerKey"
    (.quote r.clientToServerKey (.mark ',' .comma rfl rfl key))
  have addresses := Lexeme.Lexes.mark '[' .openArray rfl rfl (.quotes r.addressTexts
    (.mark ']' .closeArray rfl rfl (.mark ',' .comma rfl rfl keys)))
  have servers := Lexeme.Lexes.quote "serverAddresses".toList
    (.mark ':' .colon rfl rfl addresses)
  have whole := Lexeme.Lexes.mark '\x7b' .openObject rfl rfl (lexes_member "connectToken"
    (.quote r.connectToken (.mark ',' .comma rfl rfl servers)))
  simpa only [render, member, addressArray, addressTexts, lexemes, timeDigits, List.map_map,
    Function.comp_def, List.append_assoc, List.cons_append, List.nil_append] using whole

/-- The lexemes of a response build its value, whatever the texts, and however many addresses
there are. -/
theorem run_lexemes (r : MatchResponse) : Machine.run .value [] r.lexemes = some r.value := by
  have items := Machine.run_items r.addressTexts
    [.object [(some "connectToken".toList, .string (some r.connectToken))]
      (some "serverAddresses".toList)]
  exact (items _).trans rfl

/-- The addresses read back from their texts, in their order, if none has flow information. -/
theorem addresses?_addressTexts {r : MatchResponse}
    (flowless : ∀ a ∈ r.serverAddresses, a.flow = 0) :
    addresses? (.array (r.addressTexts.map fun text => .string (some text))) =
      some r.serverAddresses := by
  rw [addresses?, addressTexts, List.map_map]
  have each : ∀ a ∈ r.serverAddresses,
      address? (((fun text => .string (some text)) ∘ SocketAddress.chars) a) = some (id a) :=
    fun a isServer => SocketAddress.ofText?_chars (flowless a isServer)
  rw [mapM_map_eq_some each, List.map_id]

theorem word?_timeDigits (r : MatchResponse) :
    word? (.number r.timeDigits) = some r.expireTimestamp := by
  have fits : r.expireTimestamp.toNat < UInt64.size := r.expireTimestamp.toNat_lt
  simp [word?, timeDigits, Decimal.natural?_toDigits, Option.filter_some, fits]

/-- The value of a response reads back: each of its five fields stands in it once, under its name.
-/
theorem ofValue?_value {r : MatchResponse} (flowless : ∀ a ∈ r.serverAddresses, a.flow = 0) :
    ofValue? r.value = some r := by
  have members : ofValue? r.value = ofValues? (.string (some r.connectToken))
      (.array (r.addressTexts.map fun text => .string (some text)))
      (.string (some r.clientToServerKey)) (.string (some r.serverToClientKey))
      (.number r.timeDigits) := rfl
  rw [members, ofValues?, addresses?_addressTexts flowless, word?_timeDigits]
  rfl

/-- **A response without flow information reads back from its JSON text**, whatever its texts and
its expire time are. -/
theorem ofText?_render {r : MatchResponse} (flowless : ∀ a ∈ r.serverAddresses, a.flow = 0) :
    ofText? r.render = some r := by
  rw [ofText?, Json.Value.ofText?, (lexes_render r).ofText?_eq, Option.bind_eq_bind,
    Option.bind_some, run_lexemes, Option.bind_some, ofValue?_value flowless]

/-- **A response tells of a token**: its first field is the token in base64, and the
others are what is read from it, but for the scopes of the addresses. -/
structure Tells (r : MatchResponse) (t : Token) : Prop where
  token : ∃ bytes, Base64.decode? r.connectToken = some bytes ∧ Token.parse bytes = .ok t
  clientToServer : r.clientToServerKey = Base64.encode t.clientToServer.toList
  serverToClient : r.serverToClientKey = Base64.encode t.serverToClient.toList
  expireTime : r.expireTimestamp = t.expireTime
  servers : t.servers.toList = r.serverAddresses.map SocketAddress.unscoped

/-- The response of a token in base64 tells of what a client reads from it.  Scopes are in the
texts of the addresses, but not in the token. -/
theorem tells_ofToken (t : Token) :
    (ofToken t (Base64.encode t.wire.toList)).Tells t.unscoped where
  token := ⟨t.wire.toList, Base64.decode?_encode _, Token.parse_wire t⟩
  clientToServer := rfl
  serverToClient := rfl
  expireTime := rfl
  servers := rfl

end MatchResponse

/-- A refusal is no good answer, so that the status alone tells whether there is a token. -/
theorem MatchError.status_response_ne (e : MatchError) : e.response.status ≠ 200 := by
  cases e with
  | invalidId name value => exact (by decide : 400 ≠ 200)
  | issuance cause => exact (by decide : 500 ≠ 200)

namespace Matchmaker

/-- **The answers of the two kinds of match agree**: an answer in plain text, and one with
details. -/
structure Agree (m : Matchmaker) (clock : ClockReading) (protocolText clientText : String)
    (s : Supply) (plain detailed : Answer) : Prop where
  status : detailed.response.status = plain.response.status
  supply : detailed.supply = plain.supply
  /-- Without a token there is no difference. -/
  refusal : plain.response.status ≠ 200 → detailed.response = plain.response
  /-- With a token, the detailed answer is the response that is made of the token and of
  the plain answer.  It reads back, and it tells of the token. -/
  details : plain.response.status = 200 → ∃ protocol client issued r t,
    Decimal.Writes protocolText.toList protocol ∧ Decimal.Writes clientText.toList client ∧
    m.issuer.issueTokenByClock clock (m.request client protocol) s =
      (.ok issued, plain.supply) ∧
    r = MatchResponse.ofToken issued plain.response.body.toList ∧
    detailed.response = .json (String.ofList r.render) ∧
    MatchResponse.ofText? detailed.response.body.toList = some r ∧
    r.connectToken = plain.response.body.toList ∧ r.serverAddresses = m.settings.servers ∧
    r.Tells t

/-- The servers of what is issued are those of the settings, in their order and with their scopes.
-/
theorem servers_of_issued {m : Matchmaker} {clock : ClockReading} {client protocol : UInt64}
    {s s' : Supply} {t : Token}
    (issued : m.issuer.issueTokenByClock clock (m.request client protocol) s = (.ok t, s')) :
    t.servers.toList = m.settings.servers := by
  obtain ⟨now, -, issued⟩ := Issuer.issueTokenByClock_eq_ok_iff.mp issued
  obtain ⟨servers, _, _, _, _, hasServers, -, -, -, rfl⟩ := Issuer.draftOf_of_issueToken issued
  exact hasServers

section Agree

variable {m : Matchmaker} {clock : ClockReading} {protocolText clientText : String} {s : Supply}
variable {plain detailed : Answer}

/-- Two refusals for one cause agree.  There is nothing of a token in either of them. -/
theorem agree_of_refused {e : MatchError} (isPlain : plain.response = e.response)
    (isDetailed : detailed.response = e.response) (supply : detailed.supply = plain.supply) :
    m.Agree clock protocolText clientText s plain detailed where
  status := by rw [isPlain, isDetailed]
  supply := supply
  refusal _ := by rw [isPlain, isDetailed]
  details good := by
    rw [isPlain] at good
    exact absurd good e.status_response_ne

/-- Two presentations of one token agree: the details say in JSON what is in the token that the
plain answer shows. -/
theorem agree_of_issued {protocol client : UInt64} {t : Token}
    (flowless : ∀ a ∈ m.settings.servers, a.flow = 0)
    (ids : readIds protocolText clientText = .ok (protocol, client))
    (issued : m.issuer.issueTokenByClock clock (m.request client protocol) s =
      (.ok t, plain.supply))
    (isPlain : plain.response = .plain 200 (String.ofList (Base64.encode t.wire.toList)))
    (isDetailed : detailed.response = .json (String.ofList
      (MatchResponse.ofToken t (Base64.encode t.wire.toList)).render))
    (supply : detailed.supply = plain.supply) :
    m.Agree clock protocolText clientText s plain detailed where
  status := by rw [isPlain, isDetailed]; rfl
  supply := supply
  refusal bad := by
    rw [isPlain] at bad
    exact absurd rfl bad
  details _ := by
    obtain ⟨writesProtocol, writesClient⟩ := readIds_eq_ok_iff.mp ids
    have servers := servers_of_issued issued
    have body : plain.response.body.toList = Base64.encode t.wire.toList := by
      rw [isPlain]
      exact String.toList_ofList
    have flowless : ∀ a ∈ t.servers.toList, a.flow = 0 := servers ▸ flowless
    refine ⟨protocol, client, t, _, t.unscoped, writesProtocol, writesClient, issued, rfl, ?_, ?_,
      rfl, servers, ?_⟩
    · rw [body, isDetailed]
    · rw [body, isDetailed, Response.json, String.toList_ofList]
      exact MatchResponse.ofText?_render flowless
    · rw [body]
      exact MatchResponse.tells_ofToken t

theorem agree_matchToken_matchDetails (flowless : ∀ a ∈ m.settings.servers, a.flow = 0) :
    m.Agree clock protocolText clientText s (m.matchToken clock protocolText clientText s)
      (m.matchDetails clock protocolText clientText s) := by
  rw [matchToken, matchDetails]
  obtain ⟨e, bad⟩ | ⟨protocol, client, left, ids, ⟨e, refused⟩ | ⟨t, issued⟩⟩ :=
    m.badId_or_refused_or_issued clock protocolText clientText s
  · rw [matchWith_of_badId bad, matchWith_of_badId bad]
    exact agree_of_refused rfl rfl rfl
  · have outcome := matchWith_of_refused ids refused
    exact agree_of_refused (outcome _).1 (outcome _).1 ((outcome _).2.trans (outcome _).2.symm)
  · have outcome := matchWith_of_issued ids issued
    refine agree_of_issued flowless ids ?_ (outcome _).1 (outcome _).1
      ((outcome _).2.trans (outcome _).2.symm)
    rw [(outcome _).2, issued]

end Agree

/-- **The two kinds of match agree**, from the same state of the supply, for all settings
without flow information, keys, readings of the clock and parts of the path.  So do the
answers to all URIs that have these parts. -/
theorem matchDetails_agrees {m : Matchmaker} (flowless : ∀ a ∈ m.settings.servers, a.flow = 0)
    (clock : ClockReading) (protocolText clientText : String) (s : Supply) :
    m.Agree clock protocolText clientText s (m.matchToken clock protocolText clientText s)
        (m.matchDetails clock protocolText clientText s) ∧
      ∀ uri uri', Route.of? "GET" uri = some (.token protocolText clientText) →
        Route.of? "GET" uri' = some (.details protocolText clientText) →
          m.Agree clock protocolText clientText s (m.answer clock "GET" uri s)
            (m.answer clock "GET" uri' s) := by
  have agree : m.Agree clock protocolText clientText s
      (m.matchToken clock protocolText clientText s)
      (m.matchDetails clock protocolText clientText s) := agree_matchToken_matchDetails flowless
  refine ⟨agree, fun uri uri' routed routed' => ?_⟩
  rw [answer, routed, answer, routed']
  exact agree

/-- A matchmaker for an IPv4 server and for three in IPv6: one with groups of zeros, one
mapped from IPv4 and one with a scope. -/
def mixedMatchmaker : Matchmaker where
  settings := { Settings.standard with
    servers := [.v4 ⟨[198, 51, 100, 1], rfl⟩ 40000,
      .v6 ⟨[32, 1, 13, 184, 0, 0, 0, 0, 0, 0, 0, 0, 0, 0, 0, 1], rfl⟩ 40001 0 0,
      .v6 ⟨[0, 0, 0, 0, 0, 0, 0, 0, 0, 0, 255, 255, 192, 0, 2, 2], rfl⟩ 40002 0 0,
      .v6 ⟨[254, 128, 0, 0, 0, 0, 0, 0, 0, 0, 0, 0, 0, 0, 0, 4], rfl⟩ 40003 0 3]
    expiry := .never }
  key := ⟨Block.zero Size.key⟩

/-- Servers of both kinds, one of them with a scope, are told in the details as they stand in the
settings, and the response reads back. -/
theorem matchDetails_agrees_mixed :
    ∃ r t, (mixedMatchmaker.answer ⟨1000, 0⟩ "GET" "/match/5/9/json"
        (opening (.seeded 1))).response = .json (String.ofList r.render) ∧
      MatchResponse.ofText? r.render = some r ∧ r.Tells t ∧
      r.serverAddresses = mixedMatchmaker.settings.servers := by
  have routed : Route.of? "GET" "/match/5/9" = some (.token "5" "9") := by decide +kernel
  have routed' : Route.of? "GET" "/match/5/9/json" = some (.details "5" "9") := by
    decide +kernel
  have flowless : ∀ a ∈ mixedMatchmaker.settings.servers, a.flow = 0 := by decide
  have valid : (mixedMatchmaker.request 9 5).Valid ⟨1000, 0⟩ :=
    valid_request_iff.mpr ⟨⟨by decide, by decide⟩, trivial⟩
  obtain ⟨t, left, issued⟩ : ∃ t left, mixedMatchmaker.issuer.issueToken ⟨1000, 0⟩
      (mixedMatchmaker.request 9 5) (opening (.seeded 1)) = (.ok t, left) :=
    Issuer.exists_issueToken_iff.mpr ⟨valid, nofun⟩
  have stands : (⟨1000, 0⟩ : ClockReading).sinceEpoch? = some ⟨1000, 0⟩ := by decide
  have issuedByClock : mixedMatchmaker.issuer.issueTokenByClock ⟨1000, 0⟩
      (mixedMatchmaker.request 9 5) (opening (.seeded 1)) = (.ok t, left) :=
    Issuer.issueTokenByClock_eq_ok_iff.mpr ⟨_, stands, issued⟩
  have ids : readIds "5" "9" = .ok (5, 9) := readIds_eq_ok_iff.mpr
    ⟨Decimal.uint64?_eq_some_iff.mp (by decide), Decimal.uint64?_eq_some_iff.mp (by decide)⟩
  have granted : (mixedMatchmaker.answer ⟨1000, 0⟩ "GET" "/match/5/9"
      (opening (.seeded 1))).response.status = 200 := by
    simp only [answer, routed]
    rw [matchToken, (matchWith_of_issued ids issuedByClock _).1]
    rfl
  have agree := (matchDetails_agrees flowless ⟨1000, 0⟩ "5" "9" (opening (.seeded 1))).2
    "/match/5/9" "/match/5/9/json" routed routed'
  obtain ⟨_, _, _, r, t, -, -, -, -, isDetailed, reads, -, servers, tells⟩ := agree.details granted
  rw [isDetailed, Response.json, String.toList_ofList] at reads
  exact ⟨r, t, isDetailed, reads, tells, servers⟩

end Matchmaker

end ConnectTokens
