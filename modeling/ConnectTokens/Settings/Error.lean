import ConnectTokens.Settings.FileSystem
import ConnectTokens.Settings.Variable
import ConnectTokens.Sizes

/-!
# Why a matchmaker does not start

The causes for which the settings of a matchmaker are refused.

## Main Definitions

* `TlsFault`: what a TLS library says of files that it does not serve with.
* `SettingsError`, `SettingsError.message`, `SettingsError.shown`: the causes, as
  messages and in full.
-/

namespace ConnectTokens

/-- What a TLS library says of a certificate and a key that it does not serve with.
It is known by its texts alone. -/
structure TlsFault where
  message : String
  /-- The fault in full. -/
  shown : String
deriving DecidableEq, Repr

/-- A fault for which the library has no more than a reason. -/
def TlsFault.general (reason : String) : TlsFault where
  message := s!"unexpected error: {reason}"
  shown := s!"General({Text.quoted reason})"

/-- A cause for which the settings of a matchmaker are refused. -/
inductive SettingsError where
  /-- A variable is set to a text that it does not allow. -/
  | invalid (source : Variable) (value : String)
  /-- No private key is given. -/
  | missingPrivateKey
  /-- What a variable gives is no private key. -/
  | invalidPrivateKey (source : Variable)
  /-- A file is not read. -/
  | file (fault : FileFault)
  /-- The certificate and its key do not serve. -/
  | tls (fault : TlsFault)
deriving DecidableEq, Repr

namespace SettingsError

/-- The message of a cause. -/
def message : SettingsError → String
  | invalid source value => s!"invalid value for {source.name}: {Text.quoted value}"
  | missingPrivateKey =>
    s!"private key must be set with {Variable.privateKey.name} or {Variable.privateKeyFile.name}"
  | invalidPrivateKey source => s!"private key from {source.name} must have {Size.key} bytes"
  | file fault => s!"failed to read file: {fault.message}"
  | tls fault => s!"invalid tls configuration: {fault.message}"

/-- A cause in full. -/
def shown : SettingsError → String
  | invalid source value =>
    s!"Invalid \x7b var: {Text.quoted source.name}, value: {Text.quoted value} \x7d"
  | missingPrivateKey => "MissingPrivateKey"
  | invalidPrivateKey source =>
    s!"InvalidPrivateKey \x7b source: {Text.quoted source.name} \x7d"
  | file fault => s!"IoError({fault.shown})"
  | tls fault => s!"Tls({fault.shown})"

end SettingsError

end ConnectTokens
