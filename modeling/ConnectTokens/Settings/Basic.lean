import ConnectTokens.Issuance.Expiry
import ConnectTokens.Nonce
import ConnectTokens.Settings.Error
import ConnectTokens.SocketAddress.Grammar
import ConnectTokens.Text.Blank

/-!
# Settings of a matchmaker

The policy that a matchmaker issues all its tokens by.  Each setting has a
variable of its own and a standard value for when the variable is unset.  White
space around a value does not matter, except in the names of files.

## Main Definitions

* `Settings`, `Settings.standard`: the policy.
* `Settings.ofEnvironment`: the settings that variables give, or the first
  variable that is wrong.
-/

namespace ConnectTokens

/-- The files that a matchmaker serves over TLS with. -/
@[ext] structure TlsFiles where
  cert : String
  key : String
deriving DecidableEq, Repr

/-- The policy that a matchmaker issues all its tokens by. -/
@[ext] structure Settings where
  /-- Where it listens. -/
  bind : SocketAddress
  servers : List SocketAddress
  timeout : Int32
  expiry : Expiry
  scheme : Scheme
  /-- Without them it serves in the clear, behind something that does not. -/
  tls : Option TlsFiles
deriving DecidableEq

namespace Settings

/-- The settings when no variable is set. -/
def standard : Settings where
  bind := .v4 ⟨[0, 0, 0, 0], rfl⟩ 8081
  servers := [.v4 ⟨[127, 0, 0, 1], rfl⟩ 40000]
  timeout := 5
  expiry := .seconds 45
  scheme := .extended
  tls := none

/-- The value that a text has after trimming, or the text as the wrong value of a
variable. -/
def readTrimmed {α : Type} (v : Variable) (value? : List Char → Option α) (text : String) :
    Except SettingsError α :=
  match value? (Text.trim text.toList) with
  | some value => .ok value
  | none => .error (.invalid v text)

/-- Socket addresses with commas between them. -/
def readServers (text : String) : Except SettingsError (List SocketAddress) :=
  (text.toList.splitOn ',').mapM fun part =>
    readTrimmed .serverAddresses SocketAddress.ofText? (String.ofList part)

/-- A lifetime: `never`, or seconds that are not negative. -/
def expiry? (text : List Char) : Option Expiry :=
  if text = "never".toList then some .never
  else (Decimal.int64? text).bind fun count => (Expiry.ofSeconds count).toOption

/-- A scheme of nonces. -/
def scheme? (text : List Char) : Option Scheme :=
  if text = "extended".toList then some .extended
  else if text = "sequence".toList then some .sequence
  else none

/-- What a variable is set to, or the standard value if it is unset. -/
def setting {α : Type} (env : Environment) (v : Variable) (standard : α)
    (read : String → Except SettingsError α) : Except SettingsError α :=
  match env v with
  | some text => read text
  | none => .ok standard

/-- The files for TLS, of which both or neither are named. -/
def readTls (env : Environment) : Except SettingsError (Option TlsFiles) :=
  match env .tlsCert, env .tlsKey with
  | some cert, some key => .ok (some { cert, key })
  | none, none => .ok none
  | some _, none => .error (.invalid .tlsKey "")
  | none, some _ => .error (.invalid .tlsCert "")

/-- The settings that variables give. -/
def ofEnvironment (env : Environment) : Except SettingsError Settings := do
  let bind ← setting env .bind standard.bind (readTrimmed .bind SocketAddress.ofText?)
  let servers ← setting env .serverAddresses standard.servers readServers
  let timeout ← setting env .timeoutSeconds standard.timeout
    (readTrimmed .timeoutSeconds Decimal.int32?)
  let expiry ← setting env .expirySeconds standard.expiry (readTrimmed .expirySeconds expiry?)
  let scheme ← setting env .nonceScheme standard.scheme (readTrimmed .nonceScheme scheme?)
  let tls ← readTls env
  return { bind, servers, timeout, expiry, scheme, tls }

end Settings

end ConnectTokens
