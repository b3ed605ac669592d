import ConnectTokens.Bytes
import ConnectTokens.Sizes

/-!
# Private keys

The secret that an issuer shares with the servers.  It seals and opens the
private part of tokens, and no text that this library writes shows it.

## Main Definitions

* `PrivateKey`, `PrivateKey.ofBytes?`: a key of 32 bytes.
-/

namespace ConnectTokens

/-- The secret that an issuer shares with the servers. -/
@[ext] structure PrivateKey where
  block : Block Size.key
deriving DecidableEq

namespace PrivateKey

/-- A byte string as a key, when it has the size of one. -/
def ofBytes? (bytes : Bytes) : Option PrivateKey := (Block.ofList? Size.key bytes).map mk

/-- The message for bytes that do not have the size of a key. -/
def sizeMessage : String := "could not convert slice to array"

/-- What is shown in place of a key. -/
def shown (_ : PrivateKey) : String := "PrivateKey(..)"

end PrivateKey

end ConnectTokens
