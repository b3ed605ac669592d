import ConnectTokens.Settings.Basic

/-!
# Certificates

A matchmaker that serves over TLS reads a certificate and its key, and hands both
to a TLS library.  Which of them the library serves with is its own matter.

## Main Definitions

* `TlsCheck`: what a TLS library says of a certificate and its key.
* `TlsFiles.loadBy`, `TlsFiles.load`: the reading and the check of both files, as a
  program and as a function.

## Design Notes

The check is a parameter.  Nothing here depends on it but by the contents of the two
files, whatever kinds of keys a library knows.
-/

namespace ConnectTokens

/-- What a TLS library says of a certificate and its key. -/
abbrev TlsCheck := (certificate key : Bytes) → Except TlsFault Unit

/-- Reads the certificate and then the key, and has them checked. -/
def TlsFiles.loadBy {m : Type → Type} [Monad m] (check : TlsCheck) (read : FileReader m)
    (tls : TlsFiles) : m (Except SettingsError Unit) := do
  match ← read tls.cert with
  | .error fault => return .error (.file fault)
  | .ok certificate =>
    match ← read tls.key with
    | .error fault => return .error (.file fault)
    | .ok key => return (check certificate key).mapError .tls

/-- What becomes of both files. -/
def TlsFiles.load (check : TlsCheck) (tls : TlsFiles) (files : FileSystem) :
    Except SettingsError Unit :=
  Id.run (tls.loadBy check files.read)

end ConnectTokens
