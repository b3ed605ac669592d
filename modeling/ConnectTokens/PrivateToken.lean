import ConnectTokens.Sealing
import ConnectTokens.ServerAddresses

/-!
# The private part of a token

What an issuer tells the servers about a client.  It is written as client id,
timeout, server addresses, the two session keys and user data, with zeros up to
a fixed size, and sealed so that only the servers can read it.

## Main Definitions

* `PrivateToken`, `PrivateToken.build`: the private part, from user data of any
  length up to the limit.
* `PrivateToken.serialize`, `PrivateToken.deserialize`: its bytes.
* `PrivateToken.sealed`, `PrivateToken.ofSealed`: its sealed bytes.

## Design Notes

The version tag, the protocol id and the expire time are not in the private part.
They are its associated data, so that none of them can be changed without
breaking the tag.
-/

namespace ConnectTokens

/-- What an issuer tells the servers about a client. -/
@[ext] structure PrivateToken where
  clientId : UInt64
  /-- Seconds of silence after which a connection ends; none if negative. -/
  timeout : Int32
  servers : ServerAddresses
  clientToServer : Block Size.key
  serverToClient : Block Size.key
  userData : Block Size.userData
deriving DecidableEq

namespace PrivateToken

/-- The private part with user data, which is followed by zeros where it is short. -/
def build (clientId : UInt64) (timeout : Int32) (servers : ServerAddresses) (userData : Bytes)
    (clientToServer serverToClient : Block Size.key) : Except TokenError PrivateToken :=
  if userData.length ≤ Size.userData then
    .ok { clientId, timeout, servers, clientToServer, serverToClient,
          userData := Block.pad Size.userData userData }
  else
    .error (.userDataTooLarge userData.length)

/-- The private part with the addresses as they come back from the wire. -/
def unscoped (p : PrivateToken) : PrivateToken := { p with servers := p.servers.unscoped }

/-- The fields, one behind the other. -/
def fields (p : PrivateToken) : Bytes :=
  Bytes.ofUInt64 p.clientId ++ Bytes.ofInt32 p.timeout ++ p.servers.encode ++
    p.clientToServer.toList ++ p.serverToClient.toList ++ p.userData.toList

/-- The fields, with zeros up to the fixed size. -/
def serialize (p : PrivateToken) : Except TokenError (Block Size.privatePlain) :=
  if p.fields.length ≤ Size.privatePlain then .ok (Block.pad Size.privatePlain p.fields)
  else .error (.privateOverflow p.fields.length)

/-- Reads the fields off the front. -/
def read : Reader PrivateToken := do
  let clientId ← Reader.uint64
  let timeout ← Reader.int32
  let servers ← ServerAddresses.read
  let clientToServer ← Reader.block Size.key
  let serverToClient ← Reader.block Size.key
  let userData ← Reader.block Size.userData
  return { clientId, timeout, servers, clientToServer, serverToClient, userData }

/-- The private part at the front of a byte string; what is behind it does not
matter. -/
def ofBytes (bytes : Bytes) : Except TokenError PrivateToken := (read bytes).map Prod.fst

/-- The private part that a block of the fixed size starts with. -/
def deserialize (b : Block Size.privatePlain) : Except TokenError PrivateToken := ofBytes b.toList

/-- What the seal binds besides the private part itself. -/
def associatedData (scheme : Scheme) (protocolId expireTime : UInt64) : Bytes :=
  scheme.versionTag.toList ++ Bytes.ofUInt64 protocolId ++ Bytes.ofUInt64 expireTime

/-- The sealed bytes. -/
def sealed (p : PrivateToken) (protocolId expireTime : UInt64) (nonce : Nonce)
    (key : PrivateKey) : Except TokenError (Block Size.sealedPart) := do
  let plain ← p.serialize
  let buffer := Block.pad Size.sealedPart plain.toList
  let associated := associatedData nonce.scheme protocolId expireTime
  match sealInPlace buffer.toList associated nonce key with
  | (.ok (), buffer) => return Block.pad Size.sealedPart buffer
  | (.error e, _) => throw e

/-- The private part of sealed bytes. -/
def ofSealed (sealedPart : Block Size.sealedPart) (protocolId expireTime : UInt64)
    (nonce : Nonce) (key : PrivateKey) : Except TokenError PrivateToken :=
  let associated := associatedData nonce.scheme protocolId expireTime
  match openInPlace sealedPart.toList associated nonce key with
  | (.ok (), buffer) => ofBytes (buffer.take Size.privatePlain)
  | (.error e, _) => .error e

end PrivateToken

end ConnectTokens
