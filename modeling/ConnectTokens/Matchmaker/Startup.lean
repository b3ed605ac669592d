import ConnectTokens.Log
import ConnectTokens.Matchmaker.Basic
import ConnectTokens.Settings.Certificate
import ConnectTokens.Settings.KeySource

/-!
# Starting a matchmaker

A matchmaker starts from variables and files: first its settings, then its
private key, then the files for TLS.  The first thing that is wrong keeps it from
starting.

## Main Definitions

* `Startup.startBy`: the start of a matchmaker, by a program that reads files.
* `Startup.start`: the matchmaker that variables and files give.
* `Startup.report`: what a start writes, and how the program ends if it does not
  go on to serve.
-/

namespace ConnectTokens

namespace Startup

/-- The start of a matchmaker, by a program that reads files.  None is read before the
settings are accepted, and those for TLS only behind the key. -/
def startBy {m : Type → Type} [Monad m] (check : TlsCheck) (read : FileReader m)
    (env : Environment) : m (Except SettingsError Matchmaker) := do
  match Settings.ofEnvironment env with
  | .error e => return .error e
  | .ok settings =>
    match ← PrivateKey.loadBy read env with
    | .error e => return .error e
    | .ok key =>
      match settings.tls with
      | none => return .ok { settings, key }
      | some tls => return (← tls.loadBy check read).map fun _ => { settings, key }

/-- The matchmaker that variables and files give. -/
def start (check : TlsCheck) (env : Environment) (files : FileSystem) :
    Except SettingsError Matchmaker :=
  Id.run (startBy check files.read env)

/-- The matchmaker that variables and files give, check by check. -/
theorem start_eq (check : TlsCheck) (env : Environment) (files : FileSystem) :
    start check env files =
      match Settings.ofEnvironment env with
      | .error e => .error e
      | .ok settings =>
        match PrivateKey.ofEnvironment env files with
        | .error e => .error e
        | .ok key =>
          match settings.tls with
          | none => .ok { settings, key }
          | some tls => (tls.load check files).map fun _ => { settings, key } := by
  rw [start, startBy]
  cases Settings.ofEnvironment env with
  | error e => rfl
  | ok settings =>
      show Id.run (Id.run (PrivateKey.loadBy files.read env) >>= fun loaded => _) = _
      rw [← PrivateKey.ofEnvironment]
      cases PrivateKey.ofEnvironment env files with
      | error e => rfl
      | ok key =>
          obtain ⟨bind, servers, timeout, expiry, scheme, tls⟩ := settings
          cases tls <;> rfl

/-- Addresses in one line. -/
def addressList (addresses : List SocketAddress) : String :=
  "[" ++ String.intercalate ", " (addresses.map SocketAddress.text) ++ "]"

/-- What a matchmaker with these settings logs when it starts. -/
def log (s : Settings) : List LogEntry :=
  ⟨.info, s!"Started matchmaker on {s.bind.text}, issuing {s.scheme.name} tokens for " ++
    addressList s.servers⟩ ::
  match s.tls with
  | some _ => []
  | none =>
    [⟨.warn, "Serving plain HTTP, TLS must be terminated in front of the matcher"⟩]

/-- What a refused start writes. -/
def refusal (e : SettingsError) : String :=
  "Error: Custom \x7b kind: InvalidInput, error: " ++ e.shown ++ " \x7d"

/-- The lines of a start, and the exit code of a program that does not serve. -/
structure Report where
  lines : List String
  exitCode : Option Nat
deriving DecidableEq, Repr

/-- What comes of a start. -/
def report : Except SettingsError Matchmaker → Report
  | .error e => { lines := [refusal e], exitCode := some 1 }
  | .ok m => { lines := (log m.settings).map LogEntry.line, exitCode := none }

end Startup

end ConnectTokens
