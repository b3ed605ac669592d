/-!
# Sizes of a connect token

The fixed numbers of the token format.  A token always has `token` bytes on the
wire and its sealed part always `sealedPart` bytes, whatever it carries.

## Main Definitions

* `Size.token`, `Size.sealedPart`, `Size.privatePlain`: the three fixed sizes.
* `Size.maxServers`, `Size.userData`: what a token can carry at most.
-/

namespace ConnectTokens.Size

/-- Most server addresses a token carries. -/
def maxServers : Nat := 8

/-- Bytes of a token on the wire. -/
def token : Nat := 2048

/-- Bytes of the sealed part, tag included. -/
def sealedPart : Nat := 1024

/-- Bytes of an authentication tag. -/
def mac : Nat := 16

/-- Bytes of the private part before it is sealed. -/
def privatePlain : Nat := sealedPart - mac

/-- Bytes of a private key and of a session key. -/
def key : Nat := 32

/-- Bytes of user data in the private part. -/
def userData : Nat := 256

/-- Bytes of the version tag. -/
def version : Nat := 13

/-- Bytes of an extended nonce. -/
def extendedNonce : Nat := 24

/-- Bytes of a sequence nonce on the wire. -/
def sequenceNonce : Nat := 8

end ConnectTokens.Size
