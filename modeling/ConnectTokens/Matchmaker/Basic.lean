import ConnectTokens.Issuance.Issuer
import ConnectTokens.Matchmaker.MatchResponse
import ConnectTokens.Matchmaker.Response
import ConnectTokens.Matchmaker.Route
import ConnectTokens.Settings.Basic

/-!
# The matchmaker

A matchmaker answers each match request with a token for the client that is
named, issued by one policy.  It is an issuer with settings, and its only state
is the supply of that issuer.

## Main Definitions

* `Matchmaker`, `Matchmaker.opening`: a matchmaker, and its supply at the start.
* `Matchmaker.matchToken`, `Matchmaker.matchDetails`: the two kinds of match.
* `Matchmaker.answer`, `Matchmaker.answerAll`: requests, one and many in a row.

## Design Notes

Both ids are read before anything is issued, the id of the protocol first, so a
request with a bad id costs nothing.
-/

namespace ConnectTokens

/-- An issuer with a policy. -/
structure Matchmaker where
  settings : Settings
  key : PrivateKey
deriving DecidableEq

/-- A response, with what was logged and the supply that is left. -/
structure Answer where
  response : Response
  log : List LogEntry
  supply : Supply

namespace Matchmaker

/-- The issuer of a matchmaker. -/
def issuer (m : Matchmaker) : Issuer := ⟨m.key, m.settings.scheme⟩

/-- The supply that a matchmaker starts with: a counter of its own that has given
nothing yet. -/
def opening (random : RandomSource) : Supply := ⟨.fresh, random⟩

/-- What a matchmaker asks its issuer for. -/
def request (m : Matchmaker) (client protocol : UInt64) : TokenRequest where
  clientId := client
  protocolId := protocol
  servers := m.settings.servers
  expiry := m.settings.expiry
  timeout := m.settings.timeout
  userData := List.replicate Size.userData 0

/-- The number that stands for an id. -/
def readId (name : IdName) (text : String) : Except MatchError UInt64 :=
  match Decimal.uint64? text.toList with
  | some id => .ok id
  | none => .error (.invalidId name text)

/-- Both ids of a request, that of the protocol first. -/
def readIds (protocol client : String) : Except MatchError (UInt64 × UInt64) := do
  let protocol ← readId .protocolId protocol
  let client ← readId .clientId client
  return (protocol, client)

/-- A client in log lines. -/
def clientText (client : UInt64) : String := Hex.padded 16 client.toNat

/-- The wire form of a token in base64. -/
def encodeToken (t : Token) : Except IssuanceError (List Char) :=
  (Issuer.assemble t).map fun bytes => Base64.encode bytes.toList

/-- Issues a token for a client by a clock, and answers with it in some form. -/
def issueMatch (m : Matchmaker) (clock : ClockReading) (client protocol : UInt64)
    (present : Token → List Char → Response) (s : Supply) : Answer :=
  let request := m.request client protocol
  let (outcome, supply) := m.issuer.issueTokenByClock clock request s
  let log := request.log outcome
  match outcome with
  | .error e =>
    let failure : LogEntry := ⟨.error,
      s!"Failed to generate connect token for client {clientText client}: {e.message}"⟩
    { response := (MatchError.issuance e).response, log := log ++ [failure], supply }
  | .ok t =>
    match encodeToken t with
    | .error e =>
      let failure : LogEntry :=
        ⟨.error, "Failed to serialize connect token: " ++ (e.cause?.elim "" TokenError.message)⟩
      { response := (MatchError.issuance e).response, log := log ++ [failure], supply }
    | .ok encoded =>
      let success : LogEntry :=
        ⟨.info, s!"Matched client {clientText client} to {t.servers.first.text}"⟩
      { response := present t encoded, log := log ++ [success], supply }

/-- Answers a match request, with the token in some form. -/
def matchWith (m : Matchmaker) (clock : ClockReading) (protocol client : String)
    (present : Token → List Char → Response) (s : Supply) : Answer :=
  match readIds protocol client with
  | .error e => { response := e.response, log := [], supply := s }
  | .ok (protocol, client) => m.issueMatch clock client protocol present s

/-- Answers with a token in base64. -/
def matchToken (m : Matchmaker) (clock : ClockReading) (protocol client : String) (s : Supply) :
    Answer :=
  m.matchWith clock protocol client (fun _ encoded => .plain 200 (String.ofList encoded)) s

/-- Answers with a token and its public fields. -/
def matchDetails (m : Matchmaker) (clock : ClockReading) (protocol client : String)
    (s : Supply) : Answer :=
  m.matchWith clock protocol client
    (fun t encoded => .json (String.ofList (MatchResponse.ofToken t encoded).render)) s

/-- Answers a request for a method and a URI. -/
def answer (m : Matchmaker) (clock : ClockReading) (method uri : String) (s : Supply) : Answer :=
  match Route.of? method uri with
  | none => { response := .notFound, log := [], supply := s }
  | some (.token protocol client) => m.matchToken clock protocol client s
  | some (.details protocol client) => m.matchDetails clock protocol client s

/-- A request at a reading of the clock. -/
structure Request where
  clock : ClockReading
  method : String
  uri : String
deriving DecidableEq

/-- Answers requests in a row. -/
def answerAll (m : Matchmaker) : List Request → Supply → List Answer
  | [], _ => []
  | r :: rest, s =>
    let a := m.answer r.clock r.method r.uri s
    a :: m.answerAll rest a.supply

end Matchmaker

end ConnectTokens
