import ConnectTokens.Text.Utf8

/-!
# Variables

The variables that a matchmaker is set up with.  Each may be set to a text or be
unset; one that is set to bytes that are no text counts as unset.

## Main Definitions

* `Variable`, `Variable.name`: the variables.
* `Environment`: their values, with `Environment.ofBytes`.
-/

namespace ConnectTokens

/-- A variable that a matchmaker is set up with. -/
inductive Variable where
  | bind
  | serverAddresses
  | timeoutSeconds
  | expirySeconds
  | nonceScheme
  | privateKey
  | privateKeyFile
  | tlsCert
  | tlsKey
deriving DecidableEq, Repr

namespace Variable

/-- The name of a variable. -/
def name : Variable → String
  | bind => "MATCHER_BIND"
  | serverAddresses => "MATCHER_SERVER_ADDRESSES"
  | timeoutSeconds => "MATCHER_TIMEOUT_SECONDS"
  | expirySeconds => "MATCHER_EXPIRY_SECONDS"
  | nonceScheme => "MATCHER_NONCE_SCHEME"
  | privateKey => "MATCHER_PRIVATE_KEY"
  | privateKeyFile => "MATCHER_PRIVATE_KEY_FILE"
  | tlsCert => "MATCHER_TLS_CERT"
  | tlsKey => "MATCHER_TLS_KEY"

/-- All variables. -/
def all : List Variable :=
  [bind, serverAddresses, timeoutSeconds, expirySeconds, nonceScheme, privateKey, privateKeyFile,
    tlsCert, tlsKey]

/-- The variable of a name. -/
def ofName? (text : String) : Option Variable := all.find? (·.name == text)

@[simp] theorem ofName?_name (v : Variable) : ofName? v.name = some v := by
  cases v <;> decide

end Variable

/-- The texts that variables are set to. -/
abbrev Environment := Variable → Option String

/-- The texts of variables that are set to bytes. -/
def Environment.ofBytes (raw : Variable → Option Bytes) : Environment := fun v =>
  ((raw v).bind Utf8.decode?).map String.ofList

end ConnectTokens
