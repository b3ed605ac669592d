import ConnectTokens.Proofs.Requests
import ConnectTokens.Proofs.Variables

/-!
# What accepted settings can serve

Variables are checked once, at the start, and a token is checked at every request.  The two
checks meet in all places but one: a list of servers that is accepted may be too long for a
token.

## Main Definitions

* `Settings.Bounded`: a policy that fits every clock.
* `Matchmaker.AnswersMatch`: the answers to good requests for a match.
* `Settings.Serves`: what a policy can serve.

## Main Statements

* `Settings.bounded_of_accepted`: whatever variables give fits every clock.
* `Matchmaker.refuses_iff_of_bounded`: the two causes for which such a policy gives no token.
* `Settings.serves_of_accepted`: what every accepted policy can serve.

## Design Notes

An accepted lifetime and the reading of a clock both have 63 bits, so that their sum stays
one below the time that is kept for tokens that never expire.  `Settings.Bounded` is all
that a request needs to know of the variables.
-/

namespace ConnectTokens

/-! ### Policies -/

namespace Settings

/-- A lifetime that a text gives has 63 bits, for the text is read as a signed number and a
negative one is no lifetime. -/
theorem toNat_lt_of_expiry? {text : List Char} {count : UInt64}
    (read : expiry? text = some (.seconds count)) : count.toNat < 2 ^ 63 := by
  unfold expiry? at read
  split at read
  · cases read
  · obtain ⟨signed, -, given⟩ := Option.bind_eq_some_iff.mp read
    unfold Expiry.ofSeconds at given
    split at given
    · cases given
      have below := signed.toInt_lt
      have fits : signed.toInt.toNat < 2 ^ 63 := by omega
      rwa [UInt64.toNat_ofNat_of_lt' (Nat.lt_trans fits (by decide))]
    · cases given

/-- **A policy that fits every clock**: there is a server, and a lifetime has 63 bits. -/
structure Bounded (settings : Settings) : Prop where
  served : settings.servers ≠ []
  short : ∀ count, settings.expiry = .seconds count → count.toNat < 2 ^ 63

/-- Whatever variables give fits every clock: a list of servers that is read is never empty, and a
lifetime is read as a signed number. -/
theorem bounded_of_accepted {env : Environment} {settings : Settings}
    (accepted : ofEnvironment env = .ok settings) : settings.Bounded := by
  obtain ⟨-, servers, -, expiry, -, -⟩ := ofEnvironment_eq_ok_iff.mp accepted
  constructor
  · rcases setting_eq_ok_iff.mp servers with ⟨-, same⟩ | ⟨text, -, read⟩
    · rw [same]
      exact List.cons_ne_nil _ _
    · exact ne_nil_of_readServers read
  · intro count finite
    rcases setting_eq_ok_iff.mp expiry with ⟨-, same⟩ | ⟨text, -, read⟩
    · cases finite.symm.trans same
      decide
    · rw [readTrimmed_eq_ok_iff, finite] at read
      exact toNat_lt_of_expiry? read

end Settings

/-! ### Clocks -/

namespace ClockReading

variable {clock : ClockReading}

/-- The seconds of a clock have 63 bits, so that a lifetime of 63 bits can be added to them
without a carry out of the word. -/
theorem toNat_lt_of_sinceEpoch? {now : Instant} (stands : clock.sinceEpoch? = some now) :
    now.seconds.toNat < 2 ^ 63 := by
  unfold sinceEpoch? at stands
  split at stands
  · cases stands
    have below := clock.seconds.toInt_lt
    have fits : clock.seconds.toInt.toNat < 2 ^ 63 := by omega
    show (UInt64.ofNat clock.seconds.toInt.toNat).toNat < 2 ^ 63
    rwa [UInt64.toNat_ofNat_of_lt' (Nat.lt_trans fits (by decide))]
  · cases stands

end ClockReading

namespace Settings.Bounded

variable {settings : Settings} {clock : ClockReading}

/-- A lifetime ends in time, whatever the clock reads: of two numbers of 63 bits the sum stays
below the greatest word. -/
theorem fits (bounded : settings.Bounded) {now : Instant}
    (stands : clock.sinceEpoch? = some now) : settings.expiry.Fits now.seconds := by
  have early := ClockReading.toNat_lt_of_sinceEpoch? stands
  cases expiry : settings.expiry with
  | never => trivial
  | seconds count =>
      have short := bounded.short count expiry
      -- Two numbers of 63 bits add up to `2 ^ 64 - 2` at most.
      show now.seconds.toNat + count.toNat < 2 ^ 64 - 1
      omega

end Settings.Bounded

/-! ### Requests -/

/-- An overflow comes from the lifetime of the request, at the reading of the clock.  No other
stage of an issuance has this cause. -/
theorem Issuer.expireTime_of_expiryOverflow {issuer : Issuer} {clock : ClockReading}
    {r : TokenRequest} {s s' : Supply} {createTime count : UInt64}
    (refused : issuer.issueTokenByClock clock r s =
      (.error (.expiryOverflow createTime count), s')) :
    ∃ now, clock.sinceEpoch? = some now ∧
      r.expiry.expireTime now.seconds = .error (.expiryOverflow createTime count) := by
  unfold issueTokenByClock byClock at refused
  split at refused
  · cases refused
  · next now stands =>
    refine ⟨now, stands, ?_⟩
    rcases issueToken_eq_error_iff.mp refused with ⟨random, undrafted, -⟩ | ⟨d, random, -, ended⟩
    · rcases TokenRequest.draft_refused_iff.mp undrafted with ⟨unchecked, -⟩ | ⟨-, -, other, -⟩
      · rcases TokenRequest.check_eq_error_iff.mp unchecked with ⟨-, other⟩ | ⟨-, late⟩
        · cases other
        · exact late
      · cases other
    · obtain ⟨-, -, other, -⟩ := Scheme.nextNonce_eq_error_iff.mp ended
      cases other

namespace Matchmaker

/-- **The answers to good requests for a match**, in whatever form they are made. -/
inductive AnswersMatch (m : Matchmaker) (clock : ClockReading) (s : Supply) : Answer → Prop
  | token {protocol client : String} (isProtocol : IsId protocol) (isClient : IsId client) :
      AnswersMatch m clock s (m.matchToken clock protocol client s)
  | details {protocol client : String} (isProtocol : IsId protocol) (isClient : IsId client) :
      AnswersMatch m clock s (m.matchDetails clock protocol client s)
  | routed {method uri : String} {route : Route} (routed : Route.of? method uri = some route)
      (isProtocol : IsId route.ids.1) (isClient : IsId route.ids.2) :
      AnswersMatch m clock s (m.answer clock method uri s)

variable {m : Matchmaker} {clock : ClockReading} {s : Supply} {a : Answer}

/-- In each form it is one match that is presented.  Only the presentation differs, which has no
part in whether a token is issued. -/
theorem AnswersMatch.exists_matchWith (answers : m.AnswersMatch clock s a) :
    ∃ route : Route, IsId route.ids.1 ∧ IsId route.ids.2 ∧
      a = m.matchWith clock route.ids.1 route.ids.2 route.present s := by
  cases answers with
  | @token protocol client isProtocol isClient =>
      exact ⟨.token protocol client, isProtocol, isClient, rfl⟩
  | @details protocol client isProtocol isClient =>
      exact ⟨.details protocol client, isProtocol, isClient, rfl⟩
  | @routed method uri route routed isProtocol isClient =>
      exact ⟨route, isProtocol, isClient, answer_of_route routed⟩

/-- **What is left of the causes** for a policy that fits every clock: too many servers, and a
counter at its end.  The clock and the lifetime are no causes any more. -/
theorem refuses_iff_of_bounded (bounded : m.settings.Bounded) (late : 0 ≤ clock.seconds.toInt)
    {e : IssuanceError} :
    m.Refuses clock s e ↔
      (8 < m.settings.servers.length ∧
          e = .token .validating (.addressCount m.settings.servers.length)) ∨
        (m.settings.servers.length ≤ 8 ∧ m.settings.scheme = .sequence ∧
          s.sequence.last.toNat = 2 ^ 64 - 1 ∧ e = .sequenceExhausted) := by
  obtain ⟨now, stands, -⟩ := ClockReading.sinceEpoch?_of_nonneg late
  have served : 1 ≤ m.settings.servers.length := List.length_pos_iff.mpr bounded.served
  have counted_iff : m.Counted ↔ m.settings.servers.length ≤ 8 := and_iff_right served
  constructor
  · rintro (early | ⟨-, uncounted⟩ | ⟨stands', -, finite, late'⟩ | ⟨-, counted, -, counts, used⟩)
    · cases early.symm.trans stands
    · rw [counted_iff] at uncounted
      exact .inl ⟨by omega, rfl⟩
    · have fits := bounded.fits stands'
      rw [finite] at fits
      have short : _ < 2 ^ 64 - 1 := fits
      omega
    · exact .inr ⟨counted_iff.mp counted, counts, used, rfl⟩
  · rintro (⟨crowded, rfl⟩ | ⟨counted, counts, used, rfl⟩)
    · refine .servers stands ?_
      rw [counted_iff]
      omega
    · exact .sequence stands (counted_iff.mpr counted) (bounded.fits stands) counts used

/-- When nothing is against a good request: the servers find room in a token, and a counter, if it
is asked at all, has a number left. -/
theorem issuable_iff_of_bounded (bounded : m.settings.Bounded) (late : 0 ≤ clock.seconds.toInt) :
    (¬ ∃ e, m.Refuses clock s e) ↔ m.settings.servers.length ≤ 8 ∧
      (m.settings.scheme = .sequence → s.sequence.last.toNat < 2 ^ 64 - 1) := by
  constructor
  · intro issuable
    have counted : m.settings.servers.length ≤ 8 := by
      by_contra crowded
      exact issuable ⟨_, (refuses_iff_of_bounded bounded late).mpr
        (.inl ⟨Nat.lt_of_not_le crowded, rfl⟩)⟩
    refine ⟨counted, fun counts => ?_⟩
    have last := s.sequence.last.toNat_lt
    by_contra atEnd
    exact issuable ⟨_, (refuses_iff_of_bounded bounded late).mpr
      (.inr ⟨counted, counts, by omega, rfl⟩)⟩
  · rintro ⟨counted, below⟩ ⟨e, refuses⟩
    rcases (refuses_iff_of_bounded bounded late).mp refuses with
      ⟨crowded, -⟩ | ⟨-, counts, used, -⟩
    · exact Nat.not_lt.mpr counted crowded
    · exact Nat.ne_of_lt (below counts) used

end Matchmaker

namespace Settings

/-- **What a policy can serve**, under every key, at every reading of a clock that does not
stand before the epoch. -/
structure Serves (settings : Settings) : Prop where
  /-- There is a server. -/
  served : settings.servers ≠ []
  /-- Nobody who asks for its lifetime is refused for that. -/
  ends : ∀ (issuer : Issuer) (clock : ClockReading) (r : TokenRequest) (s : Supply)
    (createTime count : UInt64), r.expiry = settings.expiry →
      (issuer.issueTokenByClock clock r s).1 ≠ .error (.expiryOverflow createTime count)
  /-- A good request is granted exactly if there are not too many servers and a counter has
  not come to its end. -/
  granted : ∀ (key : PrivateKey) (clock : ClockReading) (s : Supply) (a : Answer),
    0 ≤ clock.seconds.toInt → Matchmaker.AnswersMatch ⟨settings, key⟩ clock s a →
      (a.response.status = 200 ↔ settings.servers.length ≤ 8 ∧
        (settings.scheme = .sequence → s.sequence.last.toNat < 2 ^ 64 - 1))
  /-- Of too many servers the number is told. -/
  crowded : ∀ (key : PrivateKey) (clock : ClockReading) (s : Supply) (a : Answer),
    0 ≤ clock.seconds.toInt → Matchmaker.AnswersMatch ⟨settings, key⟩ clock s a →
      8 < settings.servers.length →
        a.response = .plain 500 ("Failed to generate connect token: failed validating server " ++
          "addresses: connect token must have between 1 and 8 server addresses, got " ++
          toString settings.servers.length)

/-- A policy that fits every clock serves.  The bounds are what the proof needs of the variables,
and nothing else about them is used. -/
theorem Bounded.serves {settings : Settings} (bounded : settings.Bounded) : settings.Serves := by
  constructor
  case served => exact bounded.served
  case ends =>
    intro issuer clock r s createTime count asks overflow
    obtain ⟨now, stands, late⟩ := Issuer.expireTime_of_expiryOverflow (Prod.ext overflow rfl)
    rw [asks] at late
    obtain ⟨expireTime, ends⟩ := Expiry.exists_expireTime_iff.mpr (bounded.fits stands)
    cases late.symm.trans ends
  case granted =>
    intro key clock s a late answers
    obtain ⟨route, isProtocol, isClient, rfl⟩ := answers.exists_matchWith
    rw [← Matchmaker.issuable_iff_of_bounded (m := ⟨settings, key⟩) bounded late]
    by_cases refused : ∃ e, Matchmaker.Refuses ⟨settings, key⟩ clock s e
    · obtain ⟨e, refuses⟩ := refused
      rw [Matchmaker.response_matchWith_of_refuses isProtocol isClient refuses]
      exact iff_of_false (MatchError.status_response_ne _) (not_not_intro ⟨e, refuses⟩)
    · obtain ⟨t, granted⟩ :=
        Matchmaker.exists_response_matchWith isProtocol isClient refused route.present
      rw [granted]
      exact iff_of_true (route.status_present t _) refused
  case crowded =>
    intro key clock s a late answers crowded
    obtain ⟨route, isProtocol, isClient, rfl⟩ := answers.exists_matchWith
    have refuses : Matchmaker.Refuses ⟨settings, key⟩ clock s
        (.token .validating (.addressCount settings.servers.length)) :=
      (Matchmaker.refuses_iff_of_bounded bounded late).mpr (.inl ⟨crowded, rfl⟩)
    rw [Matchmaker.response_matchWith_of_refuses isProtocol isClient refuses]
    rfl

/-- **What every accepted policy can serve.**  No key, no reading of a clock from the epoch on and
no ids bring it down, and too many servers are the one mistake in it that is found out late. -/
theorem serves_of_accepted {env : Environment} {settings : Settings}
    (accepted : ofEnvironment env = .ok settings) : settings.Serves :=
  (bounded_of_accepted accepted).serves

/-- The variables for the longest lifetime that is accepted, and for a counter. -/
def longestVariables : Environment
  | .expirySeconds => some "9223372036854775807"
  | .nonceScheme => some " sequence "
  | _ => none

/-- The variables for one server more than a token can have. -/
def crowdedVariables : Environment
  | .serverAddresses => some (String.intercalate ", " (List.replicate 9 "[::1]:40000"))
  | _ => none

/-- At the last second of a clock the longest lifetime is granted, and of nine servers it is told
that they are too many.  Both ends of the statement are thereby reached. -/
theorem serves_of_accepted_farthest :
    (∃ settings, ofEnvironment longestVariables = .ok settings ∧
      (Matchmaker.answer ⟨settings, ⟨Block.zero Size.key⟩⟩ ⟨9223372036854775807, 0⟩ "GET"
        "/match/5/9" (Matchmaker.opening (.seeded 1))).response.status = 200) ∧
    ∃ settings, ofEnvironment crowdedVariables = .ok settings ∧
      (Matchmaker.answer ⟨settings, ⟨Block.zero Size.key⟩⟩ ⟨9223372036854775807, 0⟩ "GET"
          "/match/5/9/json" (Matchmaker.opening (.seeded 1))).response =
        .plain 500 ("Failed to generate connect token: failed validating server addresses: " ++
          "connect token must have between 1 and 8 server addresses, got 9") := by
  have isProtocol : Matchmaker.IsId "5" := ⟨5, Decimal.uint64?_eq_some_iff.mp (by decide)⟩
  have isClient : Matchmaker.IsId "9" := ⟨9, Decimal.uint64?_eq_some_iff.mp (by decide)⟩
  constructor
  · have accepted : ofEnvironment longestVariables =
        .ok { standard with expiry := .seconds 9223372036854775807, scheme := .sequence } := by
      decide +kernel
    have routed : Route.of? "GET" "/match/5/9" = some (.token "5" "9") := by decide +kernel
    refine ⟨_, accepted, ?_⟩
    refine ((serves_of_accepted accepted).granted _ _ _ _ (by decide)
      (.routed routed isProtocol isClient)).mpr ⟨by decide, fun _ => ?_⟩
    exact (by decide : (0 : UInt64).toNat < 2 ^ 64 - 1)
  · have accepted : ofEnvironment crowdedVariables =
        .ok { standard with
          servers := List.replicate 9 (.v6 ⟨List.replicate 15 0 ++ [1], rfl⟩ 40000 0 0) } := by
      decide +kernel
    have routed : Route.of? "GET" "/match/5/9/json" = some (.details "5" "9") := by
      decide +kernel
    have told := (serves_of_accepted accepted).crowded ⟨Block.zero Size.key⟩
      ⟨9223372036854775807, 0⟩ (Matchmaker.opening (.seeded 1)) _ (by decide)
      (.routed routed isProtocol isClient) (by decide)
    refine ⟨_, accepted, told.trans ?_⟩
    decide +kernel

end Settings

end ConnectTokens
