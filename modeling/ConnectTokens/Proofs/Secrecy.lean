import ConnectTokens.Matchmaker.Startup
import ConnectTokens.Proofs.KeyLoading
import ConnectTokens.Proofs.Requests
import ConnectTokens.Proofs.Variables

/-!
# What secrets show

Two runs that differ in their secrets alone look the same from outside.  At the start the
secret is the private key, and all that is seen is a report.  While requests are answered the
secrets are the key and the random bytes, and all that is seen are answers and log lines; of
a token that is handed out, what depends on a secret is only what is drawn or sealed.

## Main Definitions

* `Token.redacted`: a token without what is drawn or sealed.
* `Startup.SameButKey`: set-ups that differ in the private key alone.
* `Answer.Alike`: answers that look the same.

## Main Statements

* `Startup.start_alike`: two starts end alike.
* `Issuer.issueTokenByClock_redacted`: two issuances turn out alike.
* `Matchmaker.answer_alike`: one request to two matchmakers.
* `alike_of_secrets`: two starts, and two matchmakers that answer requests.

## Design Notes

Two runs are compared step by step.  Each step gives results that look alike and leaves
counters that are equal, and no step looks at anything else of what was before.
-/

namespace ConnectTokens

/-! ### Tokens without their secrets -/

/-- The nonce without random bytes.  A value of a counter is no secret. -/
def Nonce.redacted : Nonce → Nonce
  | sequence value => sequence value
  | extended _ => extended (Block.zero Size.extendedNonce)

/-- **The token without its secrets**: a random nonce, the sealed part and both session
keys. -/
def Token.redacted (t : Token) : Token :=
  { t with
    nonce := t.nonce.redacted
    sealedPart := Block.zero Size.sealedPart
    clientToServer := Block.zero Size.key
    serverToClient := Block.zero Size.key }

theorem Token.redacted_unscoped (t : Token) : t.unscoped.redacted = t.redacted.unscoped := rfl

/-- All else that tokens have in common stays in what is left of them, whatever their keys are. -/
theorem Draft.redacted_token {d d' : Draft} (protocols : d.protocolId = d'.protocolId)
    (created : d.createTime = d'.createTime) (expires : d.expireTime = d'.expireTime)
    (timeouts : d.content.timeout = d'.content.timeout)
    (servers : d.content.servers = d'.content.servers) {nonce nonce' : Nonce}
    (nonces : nonce.redacted = nonce'.redacted) (key key' : PrivateKey) :
    (d.token key nonce).redacted = (d'.token key' nonce').redacted := by
  simp only [Token.redacted, token, protocols, created, expires, timeouts, servers, nonces]

/-! ### Issuances -/

/-- Outcomes that look the same are one error, or results that look the same. -/
theorem error_or_ok_of_map_eq {ε α β : Type} {f : α → β} {outcome outcome' : Except ε α}
    (same : outcome.map f = outcome'.map f) :
    (∃ e, outcome = .error e ∧ outcome' = .error e) ∨
      ∃ a a', outcome = .ok a ∧ outcome' = .ok a' ∧ f a = f a' := by
  cases outcome with
  | error e =>
      cases outcome' with
      | error e' =>
          cases same
          exact .inl ⟨e, rfl, rfl⟩
      | ok a' => cases same
  | ok a =>
      cases outcome' with
      | error e' => cases same
      | ok a' => exact .inr ⟨a, a', rfl, rfl, Except.ok.inj same⟩

/-- Two sources of random bytes draft alike: both fail for one cause, or the drafts differ in
their session keys alone. -/
theorem TokenRequest.draft_alike (r : TokenRequest) (now : Instant)
    (random random' : RandomSource) :
    (∃ e left left', r.draft now random = (.error e, left) ∧
        r.draft now random' = (.error e, left')) ∨
      ∃ d d' left left', r.draft now random = (.ok d, left) ∧
        r.draft now random' = (.ok d', left') ∧
        ∀ (key key' : PrivateKey) (nonce nonce' : Nonce), nonce.redacted = nonce'.redacted →
          (d.token key nonce).redacted = (d'.token key' nonce').redacted := by
  cases drafted : r.draft now random with
  | mk outcome left =>
      cases outcome with
      | error e =>
          refine .inl ⟨e, left, ?_⟩
          rcases draft_refused_iff.mp drafted with ⟨unchecked, -⟩ | ⟨checked, large, told, -⟩
          · exact ⟨_, rfl, draft_refused_iff.mpr (.inl ⟨unchecked, rfl⟩)⟩
          · exact ⟨_, rfl, draft_refused_iff.mpr (.inr ⟨checked, large, told, rfl⟩)⟩
      | ok d =>
          obtain ⟨servers, expireTime, hasServers, expires, fits, rfl, -⟩ :=
            draft_eq_ok_iff.mp drafted
          refine .inr ⟨_, _, left, _, rfl, draft_eq_ok_iff.mpr
            ⟨servers, expireTime, hasServers, expires, fits, rfl, rfl⟩, ?_⟩
          intro key key' nonce nonce' nonces
          exact Draft.redacted_token rfl rfl rfl rfl rfl nonces key key'

theorem Scheme.nextNonce_redacted (scheme : Scheme) (s s' : Supply)
    (counters : s.sequence = s'.sequence) :
    (scheme.nextNonce s).1.map Nonce.redacted = (scheme.nextNonce s').1.map Nonce.redacted ∧
      (scheme.nextNonce s).2.sequence = (scheme.nextNonce s').2.sequence := by
  cases scheme with
  | extended => exact ⟨rfl, counters⟩
  | sequence =>
      simp only [nextNonce, counters]
      split <;> exact ⟨rfl, rfl⟩

namespace Issuer

variable {issuer issuer' : Issuer} {s s' : Supply}

/-- Two issuers with one scheme and equal counters issue alike: one cause against both, or tokens
that differ in their secrets alone. -/
theorem issueToken_redacted (schemes : issuer.scheme = issuer'.scheme)
    (counters : s.sequence = s'.sequence) (now : Instant) (r : TokenRequest) :
    (issuer.issueToken now r s).1.map Token.redacted =
        (issuer'.issueToken now r s').1.map Token.redacted ∧
      (issuer.issueToken now r s).2.sequence = (issuer'.issueToken now r s').2.sequence := by
  unfold issueToken
  rcases r.draft_alike now s.random s'.random with ⟨e, left, left', refused, refused'⟩ |
    ⟨d, d', left, left', drafted, drafted', alike⟩
  · rw [refused, refused']
    exact ⟨rfl, counters⟩
  · simp only [drafted, drafted', ← schemes]
    -- The scheme is asked behind both drafts, with counters that are still equal.
    obtain ⟨nonces, counters'⟩ := issuer.scheme.nextNonce_redacted
      { s with random := left } { s' with random := left' } counters
    cases given : issuer.scheme.nextNonce { s with random := left } with
    | mk outcome behind =>
        cases given' : issuer.scheme.nextNonce { s' with random := left' } with
        | mk outcome' behind' =>
            rw [given, given'] at nonces counters'
            rcases error_or_ok_of_map_eq nonces with ⟨e, rfl, rfl⟩ | ⟨nonce, nonce', rfl, rfl, same⟩
            · exact ⟨rfl, counters'⟩
            · refine ⟨?_, counters'⟩
              show (d.finish issuer.key nonce).map _ = (d'.finish issuer'.key nonce').map _
              rw [d.finish_eq, d'.finish_eq]
              exact congrArg Except.ok (alike _ _ nonce nonce' same)

theorem issueTokenByClock_redacted (schemes : issuer.scheme = issuer'.scheme)
    (counters : s.sequence = s'.sequence) (clock : ClockReading) (r : TokenRequest) :
    (issuer.issueTokenByClock clock r s).1.map Token.redacted =
        (issuer'.issueTokenByClock clock r s').1.map Token.redacted ∧
      (issuer.issueTokenByClock clock r s).2.sequence =
        (issuer'.issueTokenByClock clock r s').2.sequence := by
  unfold issueTokenByClock byClock
  split
  · exact ⟨rfl, counters⟩
  · exact issueToken_redacted schemes counters _ r

end Issuer

/-! ### Answers -/

/-- **Two answers look the same**, to a client and in the log, but for the secrets of a token
that a good answer holds. -/
structure Answer.Alike (a a' : Answer) : Prop where
  status : a.response.status = a'.response.status
  /-- What is not good is the same altogether. -/
  bad : a.response.status ≠ 200 → a.response = a'.response
  /-- In what is good a client reads tokens that differ in their secrets alone. -/
  good : a.response.status = 200 → ∃ t t', a.response.token? = some t ∧
    a'.response.token? = some t' ∧ t.redacted = t'.redacted
  log : a.log = a'.log

theorem Answer.Alike.of_bad {a a' : Answer} (responses : a.response = a'.response)
    (isBad : a.response.status ≠ 200) (logs : a.log = a'.log) : a.Alike a' where
  status := congrArg Response.status responses
  bad _ := responses
  good isGood := absurd isGood isBad
  log := logs

/-- What is logged of an issuance tells no secret: the line is made of what is left of the token
without them. -/
theorem TokenRequest.log_eq_of_redacted (r : TokenRequest) {t t' : Token}
    (same : t.redacted = t'.redacted) : r.log (.ok t) = r.log (.ok t') := by
  have servers : t.servers = t'.servers := congrArg (·.servers) same
  have expires : t.expireTime = t'.expireTime := congrArg (·.expireTime) same
  simp only [log, servers, expires]

namespace Matchmaker

variable {m m' : Matchmaker} {s s' : Supply}

/-- **One match.**  What two matchmakers with one policy answer looks the same, and they
count on alike. -/
theorem issueMatch_alike (policies : m.settings = m'.settings)
    (counters : s.sequence = s'.sequence) (clock : ClockReading) (client protocol : UInt64)
    (route : Route) :
    (m.issueMatch clock client protocol route.present s).Alike
        (m'.issueMatch clock client protocol route.present s') ∧
      (m.issueMatch clock client protocol route.present s).supply.sequence =
        (m'.issueMatch clock client protocol route.present s').supply.sequence := by
  have schemes : m.issuer.scheme = m'.issuer.scheme := congrArg Settings.scheme policies
  have requests : m.request client protocol = m'.request client protocol := by
    simp only [request, policies]
  obtain ⟨outcomes, counters'⟩ := Issuer.issueTokenByClock_redacted schemes counters clock
    (m'.request client protocol)
  cases issued : m.issuer.issueTokenByClock clock (m.request client protocol) s with
  | mk outcome left =>
      cases issued' : m'.issuer.issueTokenByClock clock (m'.request client protocol) s' with
      | mk outcome' left' =>
          rw [← requests, issued, requests, issued'] at outcomes counters'
          rcases error_or_ok_of_map_eq outcomes with ⟨e, rfl, rfl⟩ | ⟨t, t', rfl, rfl, same⟩
          · rw [issueMatch_of_refused issued, issueMatch_of_refused issued', requests]
            exact ⟨.of_bad rfl (MatchError.status_response_ne _) rfl, counters'⟩
          · rw [issueMatch_of_issued issued, issueMatch_of_issued issued', requests]
            have servers : t.servers = t'.servers := congrArg (·.servers) same
            refine ⟨⟨?_, ?_, ?_, ?_⟩, counters'⟩
            · show (route.present t _).status = (route.present t' _).status
              rw [route.status_present, route.status_present]
            · exact fun isBad => absurd (route.status_present t _) isBad
            · intro isGood
              refine ⟨t.unscoped, t'.unscoped, route.token?_present t, route.token?_present t', ?_⟩
              rw [Token.redacted_unscoped, Token.redacted_unscoped, same]
            · show (m'.request client protocol).log (.ok t) ++ _ =
                (m'.request client protocol).log (.ok t') ++ _
              rw [TokenRequest.log_eq_of_redacted _ same, servers]

theorem matchWith_alike (policies : m.settings = m'.settings)
    (counters : s.sequence = s'.sequence) (clock : ClockReading) (protocol client : String)
    (route : Route) :
    (m.matchWith clock protocol client route.present s).Alike
        (m'.matchWith clock protocol client route.present s') ∧
      (m.matchWith clock protocol client route.present s).supply.sequence =
        (m'.matchWith clock protocol client route.present s').supply.sequence := by
  unfold matchWith
  split
  · next e bad => exact ⟨.of_bad rfl e.status_response_ne rfl, counters⟩
  · next protocol client ids => exact issueMatch_alike policies counters clock client protocol route

/-- **One request** to two matchmakers with one policy. -/
theorem answer_alike (policies : m.settings = m'.settings)
    (counters : s.sequence = s'.sequence) (clock : ClockReading) (method uri : String) :
    (m.answer clock method uri s).Alike (m'.answer clock method uri s') ∧
      (m.answer clock method uri s).supply.sequence =
        (m'.answer clock method uri s').supply.sequence := by
  cases routed : Route.of? method uri with
  | none =>
      rw [answer_of_no_route routed, answer_of_no_route routed]
      exact ⟨.of_bad rfl (by decide : 404 ≠ 200) rfl, counters⟩
  | some route =>
      rw [answer_of_route routed, answer_of_route routed]
      exact matchWith_alike policies counters clock _ _ route

/-- **Requests in a row** to two matchmakers with one policy. -/
theorem answerAll_alike (m m' : Matchmaker) (policies : m.settings = m'.settings)
    (counters : s.sequence = s'.sequence) (requests : List Request) :
    List.Forall₂ Answer.Alike (m.answerAll requests s) (m'.answerAll requests s') := by
  induction requests generalizing s s' with
  | nil => exact .nil
  | cons r rest ih =>
      obtain ⟨alike, counters'⟩ := answer_alike policies counters r.clock r.method r.uri
      exact .cons alike (ih counters')

end Matchmaker

/-! ### Starts -/

namespace PrivateKey

variable {env : Environment} {files : FileSystem} {v : Variable}

/-- Which variable gave what is no private key is told by whether the first one is set. -/
theorem source_of_ofEnvironment (bad : ofEnvironment env files = .error (.invalidPrivateKey v)) :
    v = if (env .privateKey).isSome then .privateKey else .privateKeyFile := by
  cases ofEnvironment_eq_error_iff.mp bad with
  | byVariable given =>
      rw [given]
      rfl
  | byFile unset =>
      rw [unset]
      rfl

end PrivateKey

namespace Startup

variable {env env' : Environment} {files files' : FileSystem}

/-- **Set-ups that differ in the private key alone**: in the text of its variable, or in the
content of its file. -/
structure SameButKey (env env' : Environment) (files files' : FileSystem) : Prop where
  others : ∀ v, v ≠ .privateKey → env v = env' v
  /-- The variable has another text; it is not unset. -/
  given : (env .privateKey).isSome = (env' .privateKey).isSome
  /-- A file has another content only if it is the one for the private key and none for
  TLS. -/
  contents : ∀ name, files name ≠ files' name →
    env .privateKeyFile = some name ∧ env .tlsCert ≠ some name ∧ env .tlsKey ≠ some name

/-- **The private key loads in both set-ups, or in both it is none.** -/
inductive KeysAlike (env env' : Environment) (files files' : FileSystem) : Prop
  | loads {key key' : PrivateKey} (loads : PrivateKey.ofEnvironment env files = .ok key)
      (loads' : PrivateKey.ofEnvironment env' files' = .ok key')
  | invalid {v v' : Variable}
      (invalid : PrivateKey.ofEnvironment env files = .error (.invalidPrivateKey v))
      (invalid' : PrivateKey.ofEnvironment env' files' = .error (.invalidPrivateKey v'))

/-- **The files for TLS are the same in both set-ups**, since neither of them is the one for the
private key.  So whatever is made of them in one start is made of them in the other. -/
theorem SameButKey.agree (same : SameButKey env env' files files') {settings : Settings}
    (accepted : Settings.ofEnvironment env = .ok settings) {tls : TlsFiles}
    (serves : settings.tls = some tls) :
    ∀ name ∈ tls.filesRead files, files name = files' name := by
  obtain ⟨-, -, -, -, -, read⟩ := Settings.ofEnvironment_eq_ok_iff.mp accepted
  rw [serves] at read
  obtain ⟨cert, key⟩ := Settings.readTls_eq_ok_some_iff.mp read
  intro name isRead
  by_contra differ
  obtain ⟨-, notCert, notKey⟩ := same.contents name differ
  rcases TlsFiles.eq_or_eq_of_mem_filesRead isRead with rfl | rfl
  · exact notCert cert
  · exact notKey key

/-- **Two starts end alike**: in one error, or with one policy. -/
theorem start_alike (check : TlsCheck) (same : SameButKey env env' files files')
    (keys : KeysAlike env env' files files') :
    (start check env files).map Matchmaker.settings =
      (start check env' files').map Matchmaker.settings := by
  have policies := Settings.ofEnvironment_congr same.others
  cases accepted : Settings.ofEnvironment env with
  | error e =>
      have refused : Settings.ofEnvironment env' = .error e := policies ▸ accepted
      simp only [start_eq, accepted, refused]
  | ok settings =>
      have accepted' : Settings.ofEnvironment env' = .ok settings := policies ▸ accepted
      cases keys with
      | invalid bad bad' =>
          have sources := PrivateKey.source_of_ofEnvironment bad
          rw [same.given, ← PrivateKey.source_of_ofEnvironment bad'] at sources
          simp only [start_eq, accepted, accepted', bad, bad', sources]
      | loads loads loads' =>
          simp only [start_eq, accepted, accepted', loads, loads']
          cases serves : settings.tls with
          | none => rfl
          | some tls =>
              show ((tls.load check files).map _).map _ = ((tls.load check files').map _).map _
              rw [TlsFiles.load_congr check (same.agree accepted serves)]
              cases tls.load check files' with
              | error e => rfl
              | ok served => rfl

/-- Two starts read the same files in the same order, so that not even the file system learns
which of the two keys is loaded. -/
theorem filesRead_alike (same : SameButKey env env' files files')
    (keys : KeysAlike env env' files files') : filesRead env files = filesRead env' files' := by
  have policies := Settings.ofEnvironment_congr same.others
  have named : env .privateKeyFile = env' .privateKeyFile := same.others _ (by decide)
  have given : env .privateKey = none ↔ env' .privateKey = none := by
    rw [← Option.not_isSome_iff_eq_none, ← Option.not_isSome_iff_eq_none, same.given]
  have keyFiles : PrivateKey.filesRead env = PrivateKey.filesRead env' := by
    simp only [PrivateKey.filesRead, named, given]
  cases accepted : Settings.ofEnvironment env with
  | error e =>
      have refused : Settings.ofEnvironment env' = .error e := policies ▸ accepted
      simp only [filesRead, accepted, refused]
  | ok settings =>
      have accepted' : Settings.ofEnvironment env' = .ok settings := policies ▸ accepted
      cases keys with
      | invalid bad bad' => simp only [filesRead, accepted, accepted', bad, bad', keyFiles]
      | loads loads loads' =>
          simp only [filesRead, accepted, accepted', loads, loads', keyFiles]
          cases serves : settings.tls with
          | none => rfl
          | some tls => simp only [TlsFiles.filesRead_congr (same.agree accepted serves)]

/-- A report tells nothing but the error or the policy, so that it is not made from the key. -/
theorem report_eq_of_map_eq {outcome outcome' : Except SettingsError Matchmaker}
    (alike : outcome.map Matchmaker.settings = outcome'.map Matchmaker.settings) :
    report outcome = report outcome' := by
  rcases error_or_ok_of_map_eq alike with ⟨e, rfl, rfl⟩ | ⟨m, m', rfl, rfl, policies⟩
  · rfl
  · simp only [report, policies]

end Startup

/-- **Secrets are not shown.**  Two starts whose set-ups differ in the private key alone end
with one report, unless it is in the key that only one of them fails, whatever certificates and
keys the TLS library serves with; and whatever requests come, two matchmakers that differ in
their keys and random bytes alone answer alike. -/
theorem alike_of_secrets :
    (∀ (check : TlsCheck) (env env' : Environment) (files files' : FileSystem),
      Startup.SameButKey env env' files files' → Startup.KeysAlike env env' files files' →
        Startup.report (Startup.start check env files) =
            Startup.report (Startup.start check env' files') ∧
          (Startup.start check env files).map Matchmaker.settings =
            (Startup.start check env' files').map Matchmaker.settings) ∧
      ∀ (settings : Settings) (key key' : PrivateKey) (requests : List Matchmaker.Request)
        (s s' : Supply), s.sequence = s'.sequence →
          List.Forall₂ Answer.Alike (Matchmaker.answerAll ⟨settings, key⟩ requests s)
            (Matchmaker.answerAll ⟨settings, key'⟩ requests s') := by
  constructor
  · intro check env env' files files' same keys
    have alike := Startup.start_alike check same keys
    exact ⟨Startup.report_eq_of_map_eq alike, alike⟩
  · intro settings key key' requests s s' counters
    exact Matchmaker.answerAll_alike ⟨settings, key⟩ ⟨settings, key'⟩ rfl counters requests

namespace Startup

/-- The private key is in a file, and nothing else is set. -/
def keyInFile : Environment
  | .privateKeyFile => some "key"
  | _ => none

/-- The private key is in a file, and two more files are for TLS. -/
def overTls : Environment
  | .privateKeyFile => some "key"
  | .tlsCert => some "certificate"
  | .tlsKey => some "signing key"
  | _ => none

/-- The file of the private key holds one byte over and over, and every other file holds
zeros. -/
def repeating (b : UInt8) : FileSystem := fun name =>
  .ok (List.replicate Size.key (if name = "key" then b else 0))

/-- A check that refuses keys of zeros, as libraries do: they hold a key of no kind. -/
def refusesZeros : TlsCheck := fun _ key =>
  if key.all (· = 0) then .error (.general "invalid private key") else .ok ()

theorem eq_of_repeating_ne {b b' : UInt8} {name : String}
    (differ : repeating b name ≠ repeating b' name) : name = "key" := by
  by_contra other
  exact differ (by rw [repeating, repeating, if_neg other, if_neg other])

/-- The file systems of two bytes make set-ups that differ in the private key alone, whichever
other files are named for TLS. -/
theorem sameButKey_repeating {env : Environment} (fromFile : env .privateKeyFile = some "key")
    (cert : env .tlsCert ≠ some "key") (key : env .tlsKey ≠ some "key") (b b' : UInt8) :
    SameButKey env env (repeating b) (repeating b') where
  others _ _ := rfl
  given := rfl
  contents name differ := by
    rw [eq_of_repeating_ne differ]
    exact ⟨fromFile, cert, key⟩

end Startup

/-- Two keys in files, and one request under each of them.  A start that serves and one that is
refused for its files for TLS tell the two keys apart no better than the answers do. -/
theorem alike_of_secrets_repeating :
    (Startup.report (Startup.start Startup.refusesZeros Startup.keyInFile (Startup.repeating 0)) =
        Startup.report (Startup.start Startup.refusesZeros Startup.keyInFile
          (Startup.repeating 1))) ∧
      (Startup.report (Startup.start Startup.refusesZeros Startup.overTls (Startup.repeating 0)) =
        Startup.report (Startup.start Startup.refusesZeros Startup.overTls
          (Startup.repeating 1))) ∧
      (Startup.report (Startup.start Startup.refusesZeros Startup.overTls
        (Startup.repeating 0))).exitCode = some 1 ∧
      List.Forall₂ Answer.Alike
        (Matchmaker.answerAll ⟨.standard, ⟨Block.zero Size.key⟩⟩
          [⟨⟨1000, 0⟩, "GET", "/match/5/9"⟩] (Matchmaker.opening (.seeded 1)))
        (Matchmaker.answerAll ⟨.standard, ⟨⟨List.replicate 32 1, rfl⟩⟩⟩
          [⟨⟨1000, 0⟩, "GET", "/match/5/9"⟩] (Matchmaker.opening (.seeded 2))) := by
  have loads : PrivateKey.ofEnvironment Startup.keyInFile (Startup.repeating 0) =
      .ok ⟨Block.zero Size.key⟩ := by decide +kernel
  have loads' : PrivateKey.ofEnvironment Startup.keyInFile (Startup.repeating 1) =
      .ok ⟨⟨List.replicate 32 1, rfl⟩⟩ := by decide +kernel
  have served : PrivateKey.ofEnvironment Startup.overTls (Startup.repeating 0) =
      .ok ⟨Block.zero Size.key⟩ := by decide +kernel
  have served' : PrivateKey.ofEnvironment Startup.overTls (Startup.repeating 1) =
      .ok ⟨⟨List.replicate 32 1, rfl⟩⟩ := by decide +kernel
  obtain ⟨starts, answers⟩ := alike_of_secrets
  refine ⟨?_, ?_, by decide +kernel, ?_⟩
  · have same : Startup.SameButKey Startup.keyInFile Startup.keyInFile (Startup.repeating 0)
        (Startup.repeating 1) :=
      Startup.sameButKey_repeating rfl (by decide) (by decide) 0 1
    exact (starts _ _ _ _ _ same (.loads loads loads')).1
  · have same : Startup.SameButKey Startup.overTls Startup.overTls (Startup.repeating 0)
        (Startup.repeating 1) :=
      Startup.sameButKey_repeating rfl (by decide) (by decide) 0 1
    exact (starts _ _ _ _ _ same (.loads served served')).1
  · refine answers .standard _ _ _ _ _ ?_
    show NonceSequence.fresh = NonceSequence.fresh
    rfl

end ConnectTokens
