import ConnectTokens.Proofs.Details
import ConnectTokens.Proofs.Draws

/-!
# Requests and what a client reads

A request either has no route, or it asks for a match in one of two forms.  In either form
a client finds the token that was issued, and nothing where none was.

## Main Definitions

* `Route.ids`, `Route.present`: the ids that a route names, and the form that it asks for.
* `Response.token?`: the token that a client reads in a response.

## Main Statements

* `Matchmaker.answer_of_route`: a request with a route is a match in its form.
* `Route.token?_present`: in either form a client reads the token that was issued.
* `Matchmaker.exists_response_matchWith`: a good request is answered with a token, unless
  there is a cause against it.
* `Matchmaker.answer_counts`: what a request does to the counter of a matchmaker.
-/

namespace ConnectTokens

/-! ### Responses that are read -/

namespace SocketAddress

/-- The address without flow information, which no text shows. -/
def flowless : SocketAddress → SocketAddress
  | v4 octets portNumber => v4 octets portNumber
  | v6 octets portNumber _ scope => v6 octets portNumber 0 scope

theorem flow_flowless (a : SocketAddress) : a.flowless.flow = 0 := by
  cases a <;> rfl

theorem chars_flowless (a : SocketAddress) : a.flowless.chars = a.chars := by
  cases a <;> rfl

end SocketAddress

namespace MatchResponse

/-- The response with the addresses as their texts show them. -/
def flowless (r : MatchResponse) : MatchResponse :=
  { r with serverAddresses := r.serverAddresses.map SocketAddress.flowless }

theorem render_flowless (r : MatchResponse) : r.flowless.render = r.render := by
  have each : (fun a => Json.quote (SocketAddress.chars a)) ∘ SocketAddress.flowless =
      fun a => Json.quote a.chars := by
    funext a
    exact congrArg Json.quote a.chars_flowless
  have addresses : addressArray r.flowless.serverAddresses = addressArray r.serverAddresses := by
    rw [addressArray, flowless, List.map_map, each, addressArray]
  rw [render, addresses, render]
  rfl

/-- Every response reads back from its JSON text, but for flow information, which no text of an
address holds. -/
theorem ofText?_render_eq_flowless (r : MatchResponse) : ofText? r.render = some r.flowless := by
  rw [← render_flowless]
  refine ofText?_render fun a served => ?_
  obtain ⟨a', -, rfl⟩ := List.mem_map.mp served
  exact a'.flow_flowless

end MatchResponse

namespace Response

/-- What stands for a token in a good response, by the type of its content. -/
def encoded? (r : Response) : Option (List Char) :=
  if r.contentType = some "application/json" then
    (MatchResponse.ofText? r.body.toList).map MatchResponse.connectToken
  else some r.body.toList

theorem encoded?_plain (status : Nat) (body : String) :
    (plain status body).encoded? = some body.toList := by
  have other : some "text/plain; charset=utf-8" ≠ some "application/json" := by decide
  exact if_neg other

theorem encoded?_json (body : String) :
    (json body).encoded? = (MatchResponse.ofText? body.toList).map MatchResponse.connectToken :=
  if_pos rfl

/-- **The token that a client reads** in a response. -/
def token? (r : Response) : Option Token :=
  if r.status = 200 then
    (r.encoded?.bind Base64.decode?).bind fun bytes => (Token.parse bytes).toOption
  else none

theorem token?_of_status_ne {r : Response} (bad : r.status ≠ 200) : r.token? = none := if_neg bad

/-- A client reads the token whose wire form a response holds in base64, without flow information
and scopes. -/
theorem token?_of_encoded? {r : Response} {t : Token} (good : r.status = 200)
    (encoded : r.encoded? = some (Base64.encode t.wire.toList)) : r.token? = some t.unscoped := by
  rw [token?, if_pos good, encoded, Option.bind_some, Base64.decode?_encode, Option.bind_some,
    Token.parse_wire]
  rfl

end Response

/-! ### Routes -/

namespace Route

/-- The ids that a route names: of the protocol, and of the client. -/
def ids : Route → String × String
  | token protocol client => (protocol, client)
  | details protocol client => (protocol, client)

/-- The form in which a route asks for its token. -/
def present : Route → Token → List Char → Response
  | token _ _, _, encoded => .plain 200 (String.ofList encoded)
  | details _ _, t, encoded => .json (String.ofList (MatchResponse.ofToken t encoded).render)

theorem status_present (route : Route) (t : Token) (encoded : List Char) :
    (route.present t encoded).status = 200 := by
  cases route <;> rfl

/-- **In either form a client reads the token.**  Plain or with details, what is read is the token
that was issued, without its scopes. -/
theorem token?_present (route : Route) (t : Token) :
    (route.present t (Base64.encode t.wire.toList)).token? = some t.unscoped := by
  refine Response.token?_of_encoded? (status_present ..) ?_
  cases route with
  | token protocol client => rw [present, Response.encoded?_plain, String.toList_ofList]
  | details protocol client =>
      rw [present, Response.encoded?_json, String.toList_ofList,
        MatchResponse.ofText?_render_eq_flowless]
      rfl

end Route

namespace Matchmaker

variable {m : Matchmaker} {clock : ClockReading} {method uri : String} {s s' : Supply}

/-- Without a route nothing happens: there is nothing to log, and the supply is as it was. -/
theorem answer_of_no_route (stray : Route.of? method uri = none) :
    m.answer clock method uri s = ⟨.notFound, [], s⟩ := by
  rw [answer, stray]

/-- A request with a route is a match in the form of the route, so that both forms are dealt with
at once. -/
theorem answer_of_route {route : Route} (routed : Route.of? method uri = some route) :
    m.answer clock method uri s =
      m.matchWith clock route.ids.1 route.ids.2 route.present s := by
  rw [answer, routed]
  cases route <;> rfl

/-! ### Good requests -/

section Good

variable {protocolText clientText : String}

theorem response_matchWith_of_refuses {e : IssuanceError} (isProtocol : IsId protocolText)
    (isClient : IsId clientText) (refuses : m.Refuses clock s e)
    (present : Token → List Char → Response) :
    (m.matchWith clock protocolText clientText present s).response =
      (MatchError.issuance e).response := by
  obtain ⟨protocol, writesProtocol⟩ := isProtocol
  obtain ⟨client, writesClient⟩ := isClient
  obtain ⟨left, refused⟩ := exists_issueTokenByClock_of_refuses refuses client protocol
  have ids := readIds_eq_ok_iff.mpr ⟨writesProtocol, writesClient⟩
  exact (matchWith_of_refused ids refused present).1

/-- A good request is answered with a token unless there is a cause against it, and the form has
no part in this. -/
theorem exists_response_matchWith (isProtocol : IsId protocolText) (isClient : IsId clientText)
    (issuable : ¬ ∃ e, m.Refuses clock s e) (present : Token → List Char → Response) :
    ∃ t, (m.matchWith clock protocolText clientText present s).response =
      present t (Base64.encode t.wire.toList) := by
  obtain ⟨protocol, writesProtocol⟩ := isProtocol
  obtain ⟨client, writesClient⟩ := isClient
  have ids := readIds_eq_ok_iff.mpr ⟨writesProtocol, writesClient⟩
  cases outcome : m.issuer.issueTokenByClock clock (m.request client protocol) s with
  | mk result left =>
      cases result with
      | error e => exact absurd ⟨e, issueTokenByClock_eq_error_iff.mp ⟨left, outcome⟩⟩ issuable
      | ok t => exact ⟨t, (matchWith_of_issued ids outcome present).1⟩

end Good

/-! ### The counter -/

theorem sequence_of_refused {client protocol : UInt64} {e : IssuanceError}
    (refused : m.issuer.issueTokenByClock clock (m.request client protocol) s = (.error e, s')) :
    s'.sequence = s.sequence := by
  have spends := m.issuer.issueTokenByClock_spends clock (m.request client protocol) s
  rw [refused] at spends
  exact spends.counts.eq_of_refused

/-- A match that is answered with a token counts as the scheme of the settings does. -/
theorem counts_of_issued {client protocol : UInt64} {t : Token}
    (issued : m.issuer.issueTokenByClock clock (m.request client protocol) s = (.ok t, s')) :
    m.settings.scheme.Counts s.sequence (.ok t) s'.sequence := by
  have spends := m.issuer.issueTokenByClock_spends clock (m.request client protocol) s
  rw [issued] at spends
  exact spends.counts

/-- **What a request does to the counter**, by what a client reads in the answer: without a token
nothing, and with one what the scheme does. -/
theorem answer_counts (m : Matchmaker) (clock : ClockReading) (method uri : String) (s : Supply) :
    ((m.answer clock method uri s).response.token? = none ∧
      (m.answer clock method uri s).supply.sequence = s.sequence) ∨
    ∃ t, (m.answer clock method uri s).response.token? = some t ∧
      m.settings.scheme.Counts s.sequence (.ok t)
        (m.answer clock method uri s).supply.sequence := by
  cases routed : Route.of? method uri with
  | none =>
      rw [answer_of_no_route routed]
      exact .inl ⟨rfl, rfl⟩
  | some route =>
      rw [answer_of_route routed]
      rcases m.badId_or_refused_or_issued clock route.ids.1 route.ids.2 s with
        ⟨e, bad⟩ | ⟨protocol, client, left, ids, ⟨e, refused⟩ | ⟨t, issued⟩⟩
      · rw [matchWith_of_badId bad]
        exact .inl ⟨Response.token?_of_status_ne e.status_response_ne, rfl⟩
      · obtain ⟨response, supply⟩ := matchWith_of_refused ids refused route.present
        rw [response, supply]
        exact .inl ⟨Response.token?_of_status_ne (MatchError.status_response_ne _),
          sequence_of_refused refused⟩
      · obtain ⟨response, supply⟩ := matchWith_of_issued ids issued route.present
        rw [response, supply, route.token?_present]
        exact .inr ⟨t.unscoped, rfl, (counts_of_issued issued).of_nonce_eq rfl⟩

end Matchmaker

end ConnectTokens
