import Mathlib.Data.List.Forall2
import ConnectTokens.Settings.Basic

/-!
# What variables give

Each setting of a policy is read from a variable of its own, and the first one that does not
read is the error.

## Main Statements

* `Settings.readTrimmed_eq_ok_iff`, `Settings.setting_eq_ok_iff`: one variable.
* `Settings.mapM_eq_ok_iff`: a list in a variable.
* `Settings.ofEnvironment_eq_ok_iff`: variables give a policy if each of its settings reads.
* `Settings.ofEnvironment_congr`: the private key is no part of a policy.
-/

namespace ConnectTokens.Settings

variable {α : Type} {env : Environment} {v : Variable} {text : String}

/-- A variable reads as a value if its text, without the white space around it, is the text of the
value. -/
theorem readTrimmed_eq_ok_iff {value? : List Char → Option α} {value : α} :
    readTrimmed v value? text = .ok value ↔ value? (Text.trim text.toList) = some value := by
  rw [readTrimmed]
  split
  · next read => simp [read]
  · next unread => simp [unread]

/-- A setting has the standard value where its variable is not set, and otherwise what the text
reads as. -/
theorem setting_eq_ok_iff {standard value : α} {read : String → Except SettingsError α} :
    setting env v standard read = .ok value ↔
      (env v = none ∧ value = standard) ∨ ∃ text, env v = some text ∧ read text = .ok value := by
  rw [setting]
  split
  · next given => simp [given]
  · next unset => simp [unset, eq_comm]

theorem bind_eq_ok_iff {β ε : Type} {first : Except ε α} {next : α → Except ε β} {b : β} :
    (first >>= next) = .ok b ↔ ∃ a, first = .ok a ∧ next a = .ok b := by
  cases first with
  | error e => exact ⟨nofun, fun ⟨_, given, _⟩ => nomatch given⟩
  | ok a =>
      constructor
      · intro gives
        exact ⟨a, rfl, gives⟩
      · rintro ⟨_, ⟨⟩, gives⟩
        exact gives

/-- A list is read if each of its items is, and gives the values in the order of the items. -/
theorem mapM_eq_ok_iff {β ε : Type} {read : α → Except ε β} {items : List α} {values : List β} :
    items.mapM read = .ok values ↔
      List.Forall₂ (fun item value => read item = .ok value) items values := by
  induction items generalizing values with
  | nil =>
      rw [List.mapM_nil, List.forall₂_nil_left_iff]
      constructor
      · rintro ⟨⟩
        rfl
      · rintro rfl
        rfl
  | cons item rest ih =>
      rw [List.mapM_cons, List.forall₂_cons_left_iff, bind_eq_ok_iff]
      simp only [bind_eq_ok_iff, ih]
      constructor
      · rintro ⟨value, first, behind, others, ⟨⟩⟩
        exact ⟨value, behind, first, others, rfl⟩
      · rintro ⟨value, behind, first, others, rfl⟩
        exact ⟨value, first, behind, others, rfl⟩

/-- A text with commas is a list, though maybe of one entry that is none.  The empty text has one
piece, too. -/
theorem ne_nil_of_readServers {servers : List SocketAddress}
    (read : readServers text = .ok servers) : servers ≠ [] := by
  have lengths := (mapM_eq_ok_iff.mp read).length_eq
  have parts := List.splitOn_ne_nil ',' text.toList
  rintro rfl
  rw [List.length_nil, List.length_eq_zero_iff] at lengths
  exact parts lengths

/-- **Variables give a policy** if each of its settings reads.  No setting is looked at together
with another one. -/
theorem ofEnvironment_eq_ok_iff {settings : Settings} :
    ofEnvironment env = .ok settings ↔
      setting env .bind standard.bind (readTrimmed .bind SocketAddress.ofText?) =
          .ok settings.bind ∧
        setting env .serverAddresses standard.servers readServers = .ok settings.servers ∧
        setting env .timeoutSeconds standard.timeout
            (readTrimmed .timeoutSeconds Decimal.int32?) = .ok settings.timeout ∧
        setting env .expirySeconds standard.expiry (readTrimmed .expirySeconds expiry?) =
          .ok settings.expiry ∧
        setting env .nonceScheme standard.scheme (readTrimmed .nonceScheme scheme?) =
          .ok settings.scheme ∧
        readTls env = .ok settings.tls := by
  simp only [ofEnvironment, bind_eq_ok_iff]
  constructor
  · rintro ⟨bind, read, servers, read', timeout, read'', expiry, lives, scheme, counts, tls,
      serves, ⟨⟩⟩
    exact ⟨read, read', read'', lives, counts, serves⟩
  · rintro ⟨bind, servers, timeout, expiry, scheme, tls⟩
    exact ⟨_, bind, _, servers, _, timeout, _, expiry, _, scheme, _, tls, rfl⟩

/-- No setting is read from the variable of the private key, and so none can tell anything of the
key. -/
theorem ofEnvironment_congr {env' : Environment}
    (same : ∀ v, v ≠ .privateKey → env v = env' v) : ofEnvironment env = ofEnvironment env' := by
  simp only [ofEnvironment, setting, readTls, same .bind nofun, same .serverAddresses nofun,
    same .timeoutSeconds nofun, same .expirySeconds nofun, same .nonceScheme nofun,
    same .tlsCert nofun, same .tlsKey nofun]

/-- A policy is over TLS exactly if both files are named, and it names these two. -/
theorem readTls_eq_ok_some_iff {tls : TlsFiles} :
    readTls env = .ok (some tls) ↔ env .tlsCert = some tls.cert ∧ env .tlsKey = some tls.key := by
  unfold readTls
  split <;> simp_all [TlsFiles.ext_iff]

end ConnectTokens.Settings
