import ConnectTokens.PrivateKey
import ConnectTokens.Settings.Error
import ConnectTokens.Text.Base64
import ConnectTokens.Text.Blank

/-!
# Where a matchmaker takes its private key from

The key is given as base64 in a variable, or in a file that another variable
names, as its bare bytes or as base64.  White space around base64 does not
matter.

## Main Definitions

* `PrivateKey.ofText`: a key in base64.
* `PrivateKey.ofContent`: a key in the content of a file.
* `PrivateKey.loadBy`: the loading of a key, by a program that reads files.
* `PrivateKey.ofEnvironment`: the key that variables and files give.

## Design Notes

A content of the size of a key is a key, whatever it spells.  The base64 of a key
is longer, so the two forms do not meet.
-/

namespace ConnectTokens.PrivateKey

/-- A key in base64, from a variable that gave it. -/
def ofText (source : Variable) (text : List Char) : Except SettingsError PrivateKey :=
  match (Base64.decode? (Text.trim text)).bind ofBytes? with
  | some key => .ok key
  | none => .error (.invalidPrivateKey source)

/-- A key in the content of a file: its bare bytes, or base64. -/
def ofContent (content : Bytes) : Except SettingsError PrivateKey :=
  match ofBytes? content with
  | some key => .ok key
  | none => ofText .privateKeyFile (Utf8.decodeLossy content)

/-- The loading of a key, by a program that reads files.  The file is not looked at
when the key stands in a variable. -/
def loadBy {m : Type → Type} [Monad m] (read : FileReader m) (env : Environment) :
    m (Except SettingsError PrivateKey) :=
  match env .privateKey with
  | some text => return ofText .privateKey text.toList
  | none =>
    match env .privateKeyFile with
    | none => return .error .missingPrivateKey
    | some name => do
      match ← read name with
      | .error fault => return .error (.file fault)
      | .ok content => return ofContent content

/-- The key that variables and files give. -/
def ofEnvironment (env : Environment) (files : FileSystem) : Except SettingsError PrivateKey :=
  Id.run (loadBy files.read env)

/-- The key that variables and files give, source by source. -/
theorem ofEnvironment_eq (env : Environment) (files : FileSystem) :
    ofEnvironment env files =
      match env .privateKey with
      | some text => ofText .privateKey text.toList
      | none =>
        match env .privateKeyFile with
        | none => .error .missingPrivateKey
        | some name =>
          match files.read name with
          | .error fault => .error (.file fault)
          | .ok content => ofContent content := by
  rw [ofEnvironment, loadBy]
  cases env .privateKey with
  | some text => rfl
  | none =>
      cases env .privateKeyFile with
      | none => rfl
      | some name => cases found : files.read name <;> simp only [found] <;> rfl

end ConnectTokens.PrivateKey
