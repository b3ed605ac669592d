import ConnectTokens.Matchmaker.Startup

/-!
# Which files a start reads

A start reads a file at the step that asks for it, and asks for none that it can do without:
none while the settings are refused, none for a key that stands in a variable, and those for
TLS only behind a key that loads.  Whatever stands in another file has no part in the start.

## Main Definitions

* `Recorder`: programs that note the names of the files they read.
* `FileSystem.recorded`: the reader of such a program.
* `PrivateKey.trace`, `Startup.trace`: the loading of a key and the start of a matchmaker, with
  the names of the files that are read for it.
* `PrivateKey.filesRead`, `TlsFiles.filesRead`, `Startup.filesRead`: the names, in their order.

## Main Statements

* `PrivateKey.trace_eq`, `Startup.trace_eq`: the names that are noted.
* `Startup.trace_congr`: a start is told by the files that it reads.

## Design Notes

The loading is one program in any monad.  A recorder runs it as the command line does, with a
reader that finds its files in a file system that is known.
-/

namespace ConnectTokens

/-! ### Programs that note what they read -/

/-- A program that notes the names of the files it reads, behind those noted before. -/
abbrev Recorder := StateM (List String)

namespace Recorder

variable {α β : Type}

theorem pure_apply (a : α) (names : List String) :
    (pure a : Recorder α) names = (a, names) := rfl

/-- What comes behind a program gets its outcome and goes on with the names that it noted. -/
theorem bind_apply (first : Recorder α) (next : α → Recorder β) (names : List String) :
    (first >>= next) names = next (first names).1 (first names).2 := rfl

end Recorder

/-- The reader that finds files in a file system, and notes every name that it is asked for,
whether or not there is such a file. -/
def FileSystem.recorded (files : FileSystem) : FileReader Recorder :=
  fun name names => (files.read name, names ++ [name])

/-- A reading that is recorded has the outcome of the plain one, and notes the name even of a file
that is not there. -/
theorem FileSystem.recorded_apply (files : FileSystem) (name : String) (names : List String) :
    files.recorded name names = (files.read name, names ++ [name]) := rfl

/-- One file by its name is all of a file system that one reading sees. -/
theorem FileSystem.read_congr {files files' : FileSystem} {name : String}
    (same : files name = files' name) : files.read name = files'.read name := by
  rw [read, read, same]

variable {check : TlsCheck} {env : Environment} {files files' : FileSystem} {name : String}

/-! ### The private key -/

namespace PrivateKey

/-- The names of the files that are read for a key: one, or none if the key stands in a
variable or nothing is named. -/
def filesRead (env : Environment) : List String :=
  if env .privateKey = none then (env .privateKeyFile).toList else []

/-- The loading of a key, with the names of the files that are read for it. -/
def trace (env : Environment) (files : FileSystem) :
    Except SettingsError PrivateKey × List String :=
  loadBy files.recorded env []

/-- The loading notes its names behind those that were noted before, and what was noted before
has no part in its outcome. -/
theorem loadBy_recorded (env : Environment) (files : FileSystem) (names : List String) :
    loadBy files.recorded env names = (ofEnvironment env files, names ++ filesRead env) := by
  rw [loadBy, ofEnvironment_eq, filesRead]
  cases env .privateKey with
  | some text => simp [Recorder.pure_apply]
  | none =>
      cases env .privateKeyFile with
      | none => simp [Recorder.pure_apply]
      | some name =>
          simp only [Recorder.bind_apply, FileSystem.recorded_apply]
          cases files.read name <;> rfl

/-- **The loading reads a file only for want of a key in a variable.**  A text that is set is
final: no file is read even where the text is no key. -/
theorem trace_eq (env : Environment) (files : FileSystem) :
    trace env files = (ofEnvironment env files, filesRead env) := by
  rw [trace, loadBy_recorded, List.nil_append]

/-- The key is told by the file that is read for it, if there is one. -/
theorem ofEnvironment_congr (agree : ∀ name ∈ filesRead env, files name = files' name) :
    ofEnvironment env files = ofEnvironment env files' := by
  rw [ofEnvironment_eq, ofEnvironment_eq]
  cases unset : env .privateKey with
  | some text => rfl
  | none =>
      cases named : env .privateKeyFile with
      | none => rfl
      | some name =>
          have isRead : name ∈ filesRead env := by simp [filesRead, unset, named]
          simp only [FileSystem.read_congr (agree name isRead)]

end PrivateKey

/-! ### The files for TLS -/

namespace TlsFiles

variable {tls : TlsFiles}

/-- The names of the files that are read for TLS.  Without a certificate no key is read. -/
def filesRead (tls : TlsFiles) (files : FileSystem) : List String :=
  match files.read tls.cert with
  | .error _ => [tls.cert]
  | .ok _ => [tls.cert, tls.key]

/-- The check notes the names of its files behind those that were noted before.  Which of them
it reads does not depend on what a library says of them. -/
theorem loadBy_recorded (check : TlsCheck) (tls : TlsFiles) (files : FileSystem)
    (names : List String) :
    tls.loadBy check files.recorded names =
      (tls.load check files, names ++ tls.filesRead files) := by
  rw [loadBy, load, loadBy, filesRead]
  simp only [Recorder.bind_apply, FileSystem.recorded_apply]
  cases files.read tls.cert with
  | error fault => rfl
  | ok certificate =>
      simp only [Recorder.bind_apply, FileSystem.recorded_apply, List.append_assoc]
      cases files.read tls.key <;> rfl

theorem cert_mem_filesRead (tls : TlsFiles) (files : FileSystem) :
    tls.cert ∈ tls.filesRead files := by
  rw [filesRead]
  split <;> simp

/-- Only the two files that are named are read, the certificate always and the key unless the
certificate has failed. -/
theorem eq_or_eq_of_mem_filesRead (isRead : name ∈ tls.filesRead files) :
    name = tls.cert ∨ name = tls.key := by
  rw [filesRead] at isRead
  split at isRead <;> simp_all

/-- **What becomes of the files for TLS is told by those that are read**, whatever the check
is: a check sees contents, and never a name or another file. -/
theorem load_congr (check : TlsCheck)
    (agree : ∀ name ∈ tls.filesRead files, files name = files' name) :
    tls.load check files = tls.load check files' := by
  have certs : files.read tls.cert = files'.read tls.cert :=
    FileSystem.read_congr (agree _ (tls.cert_mem_filesRead files))
  rw [load, loadBy, load, loadBy, ← certs]
  cases found : files.read tls.cert with
  | error fault => rfl
  | ok certificate =>
      have isRead : tls.key ∈ tls.filesRead files := by simp [filesRead, found]
      rw [FileSystem.read_congr (agree _ isRead)]

/-- Which files are read is told by the certificate, the first of them, so that it is told by the
files that are read. -/
theorem filesRead_congr (agree : ∀ name ∈ tls.filesRead files, files name = files' name) :
    tls.filesRead files = tls.filesRead files' := by
  have certs : files.read tls.cert = files'.read tls.cert :=
    FileSystem.read_congr (agree _ (tls.cert_mem_filesRead files))
  rw [filesRead, filesRead, certs]

end TlsFiles

/-! ### The start -/

namespace Startup

/-- **The names of the files that a start reads**, in their order: none before the settings are
accepted, and those for TLS only behind a key that loads. -/
def filesRead (env : Environment) (files : FileSystem) : List String :=
  match Settings.ofEnvironment env with
  | .error _ => []
  | .ok settings =>
    PrivateKey.filesRead env ++
      match PrivateKey.ofEnvironment env files, settings.tls with
      | .ok _, some tls => tls.filesRead files
      | _, _ => []

/-- The start of a matchmaker, with the names of the files that are read for it. -/
def trace (check : TlsCheck) (env : Environment) (files : FileSystem) :
    Except SettingsError Matchmaker × List String :=
  startBy check files.recorded env []

/-- **A start reads the files that it has to read**, once each and in their order, and gives the
matchmaker that they and the variables give. -/
theorem trace_eq (check : TlsCheck) (env : Environment) (files : FileSystem) :
    trace check env files = (start check env files, filesRead env files) := by
  rw [trace, startBy, start_eq, filesRead]
  cases Settings.ofEnvironment env with
  | error e => rfl
  | ok settings =>
      simp only [Recorder.bind_apply, PrivateKey.loadBy_recorded, List.nil_append]
      cases PrivateKey.ofEnvironment env files with
      | error e => simp [Recorder.pure_apply]
      | ok key =>
          obtain ⟨bind, servers, timeout, expiry, scheme, tls⟩ := settings
          cases tls with
          | none => simp [Recorder.pure_apply]
          | some tls =>
              simp only [Recorder.bind_apply, TlsFiles.loadBy_recorded, Recorder.pure_apply]

/-- **A start is told by the files that it reads.**  Where two file systems agree on them, it
ends alike and reads the same ones, whatever else is in either. -/
theorem trace_congr (agree : ∀ name ∈ filesRead env files, files name = files' name) :
    trace check env files = trace check env files' := by
  rw [trace_eq, trace_eq, start_eq, start_eq, filesRead, filesRead]
  cases accepted : Settings.ofEnvironment env with
  | error e => rfl
  | ok settings =>
      simp only [filesRead, accepted, List.mem_append] at agree
      have keys : PrivateKey.ofEnvironment env files = PrivateKey.ofEnvironment env files' :=
        PrivateKey.ofEnvironment_congr fun name isRead => agree name (.inl isRead)
      rw [← keys]
      cases loaded : PrivateKey.ofEnvironment env files with
      | error e => rfl
      | ok key =>
          obtain ⟨bind, servers, timeout, expiry, scheme, tls⟩ := settings
          cases tls with
          | none => rfl
          | some tls =>
              have served : ∀ name ∈ tls.filesRead files, files name = files' name :=
                fun name isRead => agree name (.inr (by rwa [loaded]))
              simp only [TlsFiles.load_congr check served, TlsFiles.filesRead_congr served]

end Startup

end ConnectTokens
