import ConnectTokens.Issuance.Expiry
import ConnectTokens.Log
import ConnectTokens.Random
import ConnectTokens.Text.Hex
import ConnectTokens.Token

/-!
# Issuing tokens

An issuer makes tokens that the servers with the same private key accept.  It
checks what is asked, draws two session keys, takes a nonce and seals.

## Main Definitions

* `TokenRequest`: what is asked of an issuer.
* `TokenRequest.draft`: the checks and the session keys, without a nonce yet.
* `Scheme.nextNonce`: a nonce from the `Supply` of counter and random bytes.
* `Draft.finish`: the token under a nonce.
* `Issuer.issueToken`, `Issuer.issueBytes`: all of it, at an instant or by a
  clock.

## Design Notes

The steps stand apart since their order decides what a refused request costs: no
random byte before the addresses and the lifetime are checked, and no nonce
before everything is.  `Supply` is the only state; a result always comes with the
supply that is left, also when no token is made.
-/

namespace ConnectTokens

/-- What is asked of an issuer. -/
structure TokenRequest where
  clientId : UInt64
  protocolId : UInt64
  servers : List SocketAddress
  expiry : Expiry
  timeout : Int32
  userData : Bytes
deriving DecidableEq

/-- What the secrets of tokens are taken from. -/
structure Supply where
  sequence : NonceSequence
  random : RandomSource

/-- A token that is only missing its nonce. -/
structure Draft where
  content : PrivateToken
  protocolId : UInt64
  createTime : UInt64
  expireTime : UInt64
deriving DecidableEq

/-- The log line of a part that outgrew its size. -/
def overflowLog {α : Type} : Except TokenError α → List LogEntry
  | .error cause =>
    if cause.isOverflow then
      [⟨.error, "Connect token does not fit its fixed size: " ++ cause.message⟩]
    else []
  | .ok _ => []

namespace TokenRequest

/-- The checks that need no secrets: the addresses and the expire time. -/
def check (r : TokenRequest) (createTime : UInt64) :
    Except IssuanceError (ServerAddresses × UInt64) := do
  let servers ← IssuanceError.during .validating (ServerAddresses.ofList r.servers)
  let expireTime ← r.expiry.expireTime createTime
  return (servers, expireTime)

/-- Checks a request and draws the session keys, the one from client to server
first. -/
def draft (r : TokenRequest) (now : Instant) (random : RandomSource) :
    Except IssuanceError Draft × RandomSource :=
  match r.check now.seconds with
  | .error e => (.error e, random)
  | .ok (servers, expireTime) =>
    let (clientToServer, random) := random.draw Size.key
    let (serverToClient, random) := random.draw Size.key
    let content := PrivateToken.build r.clientId r.timeout servers r.userData clientToServer
      serverToClient
    (IssuanceError.during .building content |>.map fun content =>
      { content, protocolId := r.protocolId, createTime := now.seconds, expireTime }, random)

/-- What is logged of an issuance. -/
def log (r : TokenRequest) : Except IssuanceError Token → List LogEntry
  | .ok t =>
    [⟨.debug, s!"Issued connect token for client {Hex.padded 16 r.clientId.toNat} with protocol " ++
      s!"id {r.protocolId}, {t.servers.count} server addresses, expire timestamp {t.expireTime}"⟩]
  | .error (.token .sealing cause) => overflowLog (.error cause : Except TokenError Token)
  | .error _ => []

end TokenRequest

/-- The next nonce of a scheme: random bytes, or a value of the counter. -/
def Scheme.nextNonce (scheme : Scheme) (s : Supply) : Except IssuanceError Nonce × Supply :=
  match scheme with
  | .extended =>
    let (bytes, random) := s.random.draw Size.extendedNonce
    (.ok (.extended bytes), { s with random })
  | .sequence =>
    match s.sequence.next with
    | (some value, counter) => (.ok (.sequence value), { s with sequence := counter })
    | (none, counter) => (.error .sequenceExhausted, { s with sequence := counter })

/-- The token of a draft under a nonce. -/
def Draft.finish (d : Draft) (key : PrivateKey) (nonce : Nonce) : Except IssuanceError Token :=
  IssuanceError.during .sealing
    (Token.sealPrivate d.content d.protocolId d.createTime d.expireTime nonce key)

/-- An issuer of tokens: a private key and a scheme of nonces. -/
structure Issuer where
  key : PrivateKey
  scheme : Scheme
deriving DecidableEq

namespace Issuer

/-- What is shown of an issuer with its counter; the key is not. -/
def shown (issuer : Issuer) (sequence : NonceSequence) : String :=
  "TokenIssuer \x7b private_key: " ++ issuer.key.shown ++ ", scheme: " ++ issuer.scheme.name ++
    ", sequence: " ++ sequence.shown ++ " \x7d"

/-- Issues a token at an instant. -/
def issueToken (issuer : Issuer) (now : Instant) (r : TokenRequest) (s : Supply) :
    Except IssuanceError Token × Supply :=
  match r.draft now s.random with
  | (.error e, random) => (.error e, { s with random })
  | (.ok draft, random) =>
    match issuer.scheme.nextNonce { s with random } with
    | (.error e, s) => (.error e, s)
    | (.ok nonce, s) => (draft.finish issuer.key nonce, s)

/-- The wire form of an issued token. -/
def assemble (t : Token) : Except IssuanceError (Block Size.token) :=
  IssuanceError.during .assembling t.toBytes

/-- Issues a token at an instant, in its wire form. -/
def issueBytes (issuer : Issuer) (now : Instant) (r : TokenRequest) (s : Supply) :
    Except IssuanceError (Block Size.token) × Supply :=
  let (outcome, s) := issuer.issueToken now r s
  (outcome.bind assemble, s)

/-- Issues by a clock, once it stands after the epoch. -/
def byClock {α : Type} (clock : ClockReading)
    (issue : Instant → Supply → Except IssuanceError α × Supply) (s : Supply) :
    Except IssuanceError α × Supply :=
  match clock.sinceEpoch? with
  | none => (.error .clockBeforeEpoch, s)
  | some now => issue now s

/-- Issues a token by a clock. -/
def issueTokenByClock (issuer : Issuer) (clock : ClockReading) (r : TokenRequest) (s : Supply) :
    Except IssuanceError Token × Supply :=
  byClock clock (fun now => issuer.issueToken now r) s

/-- Issues a token by a clock, in its wire form. -/
def issueBytesByClock (issuer : Issuer) (clock : ClockReading) (r : TokenRequest) (s : Supply) :
    Except IssuanceError (Block Size.token) × Supply :=
  byClock clock (fun now => issuer.issueBytes now r) s

/-- What is logged of an issuance in wire form. -/
def bytesLog (r : TokenRequest) (outcome : Except IssuanceError Token) : List LogEntry :=
  r.log outcome ++
    match outcome with
    | .ok t => overflowLog t.toBytes
    | .error _ => []

end Issuer

end ConnectTokens
