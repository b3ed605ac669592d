import ConnectTokens.CommandLine.Der
import ConnectTokens.CommandLine.Ed25519
import ConnectTokens.Settings.Certificate

/-!
# Files with signing keys

The program has no TLS library to ask for a check.  Its own one accepts every
certificate, and of the keys the Ed25519 keys alone, which a file holds in PKCS#8: a
version, the identifier of the algorithm, the seed, attributes that do not matter, and
from version 1 on the public key, which has to be that of the seed.

## Main Definitions

* `SigningKey.ofFile?`: the seed that a file holds.
* `SigningKey.check`: the check of the program.

## Design Notes

Libraries sign with keys of other kinds as well.  Where a matchmaker starts, the check
is a parameter, and no statement is about this one.
-/

namespace ConnectTokens.CommandLine.SigningKey

/-- The identifier of Ed25519. -/
def ed25519 : Bytes := [0x06, 0x03, 0x2B, 0x65, 0x70]

/-- The tag of a sequence. -/
def sequenceTag : UInt8 := 0x30

/-- The tag of an integer. -/
def integerTag : UInt8 := 0x02

/-- The tag of a string of bits. -/
def bitsTag : UInt8 := 0x03

/-- The tag of a string of bytes. -/
def octetsTag : UInt8 := 0x04

/-- The tag of attributes. -/
def attributesTag : UInt8 := 0xA0

/-- The tag of a public key. -/
def publicKeyTag : UInt8 := 0x81

/-- The tag of a public key that is a string of bits inside it. -/
def wrappedPublicKeyTag : UInt8 := 0xA1

/-- What is behind attributes, if there are any. -/
def skipAttributes? (bytes : Bytes) : Option Bytes :=
  if bytes.head? = some attributesTag then (Der.element? attributesTag bytes).map Prod.snd
  else some bytes

/-- The public key that all the bytes are: a string of bits that leaves none of
its last byte unused. -/
def publicKey? (bytes : Bytes) : Option Bytes := do
  let bits ←
    if bytes.head? = some wrappedPublicKeyTag then
      (Der.only? wrappedPublicKeyTag bytes).bind (Der.only? bitsTag)
    else Der.only? publicKeyTag bytes
  match bits with
  | 0 :: key => some key
  | _ => none

/-- What stands behind the seed in a version agrees with it. -/
def completes (version : Bytes) (seed : Block 32) (behind : Bytes) : Bool :=
  match version with
  | [0] => behind = []
  | [1] => publicKey? behind = some (Ed25519.publicKey seed).toList
  | _ => false

/-- The seed that a file holds. -/
def ofFile? (file : Bytes) : Option (Block 32) := do
  let body ← Der.only? sequenceTag file
  let (version, body) ← Der.element? integerTag body
  let (algorithm, body) ← Der.element? sequenceTag body
  let (wrapped, body) ← Der.element? octetsTag body
  let behind ← skipAttributes? body
  let seed ← Block.ofList? 32 (← Der.only? octetsTag wrapped)
  if algorithm = ed25519 ∧ completes version seed behind then some seed else none

/-- The check of the program: the file of the key holds one that it can sign with. -/
def check : TlsCheck := fun _ key =>
  if (ofFile? key).isSome then .ok () else .error (.general "invalid private key")

end ConnectTokens.CommandLine.SigningKey
