import ConnectTokens.Instant
import ConnectTokens.Layout
import ConnectTokens.PrivateToken

/-!
# Connect tokens

The credential that a client carries from an issuer to a server: public fields
that the client reads, and the sealed part that only the servers can open.  On
the wire a token always has the same size.

## Main Definitions

* `Token`, `Token.sealPrivate`: a token, made from its private part.
* `Token.toBytes`, `Token.parse`: the wire form and its reading.
* `Token.openPrivate`, `Token.isExpired`: what a server asks of a token.

## Design Notes

A token does not hold its version tag, which follows from the scheme of its
nonce.  Reading takes the fixed fields from the places that `Layout` gives and
reads the trailer off the rest; whatever is behind the trailer has to be zero, so
that a token has one wire form only.
-/

namespace ConnectTokens

/-- The credential that a client carries to a server. -/
@[ext] structure Token where
  protocolId : UInt64
  createTime : UInt64
  expireTime : UInt64
  nonce : Nonce
  sealedPart : Block Size.sealedPart
  timeout : Int32
  servers : ServerAddresses
  clientToServer : Block Size.key
  serverToClient : Block Size.key
deriving DecidableEq

namespace Token

/-- Seals a private part and sets the fields that are public beside it. -/
def sealPrivate (p : PrivateToken) (protocolId createTime expireTime : UInt64) (nonce : Nonce)
    (key : PrivateKey) : Except TokenError Token := do
  let sealedPart ← p.sealed protocolId expireTime nonce key
  return { protocolId, createTime, expireTime, nonce, sealedPart, timeout := p.timeout,
           servers := p.servers, clientToServer := p.clientToServer,
           serverToClient := p.serverToClient }

/-- The version tag of a token. -/
def versionTag (t : Token) : Block Size.version := t.nonce.scheme.versionTag

/-- Where the fields of a token stand. -/
def layout (t : Token) : Layout := Layout.of t.nonce.scheme

/-- The token with the addresses as they come back from the wire. -/
def unscoped (t : Token) : Token := { t with servers := t.servers.unscoped }

/-- The fields of fixed size, one behind the other. -/
def header (t : Token) : Bytes :=
  t.versionTag.toList ++ Bytes.ofUInt64 t.protocolId ++ Bytes.ofUInt64 t.createTime ++
    Bytes.ofUInt64 t.expireTime ++ t.nonce.bytes ++ t.sealedPart.toList ++
    Bytes.ofInt32 t.timeout

/-- The fields behind those of fixed size. -/
def trailer (t : Token) : Bytes :=
  t.servers.encode ++ t.clientToServer.toList ++ t.serverToClient.toList

/-- The wire form: the fields, with zeros up to the fixed size. -/
def toBytes (t : Token) : Except TokenError (Block Size.token) :=
  if t.trailer.length ≤ t.layout.trailerCapacity then
    .ok (Block.pad Size.token (t.header ++ t.trailer))
  else
    .error (.tokenOverflow (t.layout.trailerOffset + t.trailer.length))

/-- Reads the server addresses and both session keys off the front. -/
def readTrailer : Reader (ServerAddresses × Block Size.key × Block Size.key) := do
  let servers ← ServerAddresses.read
  let clientToServer ← Reader.block Size.key
  let serverToClient ← Reader.block Size.key
  return (servers, clientToServer, serverToClient)

/-- The token of a scheme whose wire form this is, when it has the right size. -/
def ofBytes (scheme : Scheme) (bytes : Bytes) : Except TokenError Token :=
  let layout := Layout.of scheme
  match readTrailer (bytes.drop layout.trailerOffset) with
  | .error e => .error e
  | .ok ((servers, clientToServer, serverToClient), rest) =>
    if rest.all (· == 0) then
      .ok {
        protocolId := Bytes.toUInt64 (layout.protocolId.slice bytes)
        createTime := Bytes.toUInt64 (layout.createTime.slice bytes)
        expireTime := Bytes.toUInt64 (layout.expireTime.slice bytes)
        nonce := Nonce.ofBytes scheme (layout.nonce.slice bytes)
        sealedPart := Block.pad Size.sealedPart (layout.sealedPart.slice bytes)
        timeout := Bytes.toInt32 (layout.timeout.slice bytes)
        servers, clientToServer, serverToClient }
    else .error (.malformed .padding)

/-- Reads a wire form.  Whatever is not the exact form of a token is refused. -/
def parse (bytes : Bytes) : Except TokenError Token :=
  if bytes.length ≠ Size.token then .error (.malformed (.length bytes.length))
  else
    match Scheme.ofVersionTag? (bytes.take Size.version) with
    | none => .error (.malformed .version)
    | some scheme => ofBytes scheme bytes

/-- Opens the sealed part with the fields that it is bound to. -/
def openPrivate (t : Token) (key : PrivateKey) : Except TokenError PrivateToken :=
  PrivateToken.ofSealed t.sealedPart t.protocolId t.expireTime t.nonce key

/-- A token is expired from its expire time on. -/
def isExpired (t : Token) (now : Instant) : Bool := t.expireTime ≤ now.seconds

end Token

end ConnectTokens
