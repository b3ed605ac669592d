import Mathlib.Data.List.Nodup
import ConnectTokens.Proofs.Requests

/-!
# Restarts

A matchmaker counts its nonces from one on at every start, and its private key stays.
Within one start no value is used twice; of two starts that both answer with a token, both
have used the first value under the one key.

## Main Definitions

* `Service`, `Service.tokens`: a start of a matchmaker, and the tokens that it answers with
  until it ends.
* `Service.history`: the nonces of the tokens of many starts.

## Main Statements

* `Matchmaker.nonces_answerAll`: the nonces of requests in a row follow each other.
* `Service.nodup_history_iff`: a nonce is used twice as soon as two starts answer with a
  token.
* `Service.history_restarted`: two starts with one request each.

## Design Notes

The counter is part of the supply, and `Matchmaker.opening` is the only supply that a
start has.  So nothing of an earlier start reaches a later one but the key.
-/

namespace ConnectTokens

/-! ### Requests in a row -/

namespace Matchmaker

/-- The tokens that clients read in answers. -/
def tokens (answers : List Answer) : List Token := answers.filterMap (·.response.token?)

theorem tokens_cons_of_none {a : Answer} (silent : a.response.token? = none)
    (rest : List Answer) : tokens (a :: rest) = tokens rest := List.filterMap_cons_none silent

theorem tokens_cons_of_some {a : Answer} {t : Token} (reads : a.response.token? = some t)
    (rest : List Answer) : tokens (a :: rest) = t :: tokens rest := List.filterMap_cons_some reads

/-- **The nonces of requests in a row** are the values behind the counter, each once and in their
order.  Requests without a token leave no gap. -/
theorem nonces_answerAll {m : Matchmaker} (counting : m.settings.scheme = .sequence)
    (requests : List Request) (s : Supply) :
    (tokens (m.answerAll requests s)).map Token.nonce =
        (List.range' (s.sequence.last.toNat + 1) (tokens (m.answerAll requests s)).length).map
          (fun value => .sequence (UInt64.ofNat value)) ∧
      s.sequence.last.toNat + (tokens (m.answerAll requests s)).length < 2 ^ 64 := by
  induction requests generalizing s with
  | nil => exact ⟨rfl, s.sequence.last.toNat_lt⟩
  | cons r rest ih =>
      obtain ⟨nonces, below⟩ := ih (m.answer r.clock r.method r.uri s).supply
      rcases m.answer_counts r.clock r.method r.uri s with ⟨silent, stays⟩ | ⟨t, reads, counts⟩
      · -- Without a token the counter stays, and the rest goes on from the same value.
        rw [stays] at nonces below
        rw [answerAll, tokens_cons_of_none silent]
        exact ⟨nonces, below⟩
      · rw [answerAll, tokens_cons_of_some reads]
        rw [counting] at counts
        obtain ⟨value, follows, nonce, moved⟩ := counts.exists_value
        rw [moved] at nonces below
        simp only [follows] at nonces below
        rw [List.map_cons, List.length_cons, List.range'_succ, List.map_cons, ← nonces,
          nonce, ← follows, UInt64.ofNat_toNat]
        exact ⟨rfl, by omega⟩

end Matchmaker

/-! ### Starts -/

/-- A start of a matchmaker and the requests that it answers until it ends. -/
structure Service where
  settings : Settings
  random : RandomSource
  requests : List Matchmaker.Request

namespace Service

/-- The tokens that a service under a key answers with. -/
def tokens (key : PrivateKey) (v : Service) : List Token :=
  Matchmaker.tokens
    (Matchmaker.answerAll ⟨v.settings, key⟩ v.requests (Matchmaker.opening v.random))

/-- The nonces of all tokens that services under one key answer with, one service after the
other. -/
def history (key : PrivateKey) (services : List Service) : List Nonce :=
  services.flatMap fun v => (v.tokens key).map Token.nonce

/-- The first values of a counter. -/
def firstValues (count : Nat) : List Nonce :=
  (List.range' 1 count).map fun value => .sequence (UInt64.ofNat value)

/-- Where there are first values at all, the value one is the first of them. -/
theorem firstValues_succ (count : Nat) : ∃ rest, firstValues (count + 1) = .sequence 1 :: rest :=
  ⟨_, rfl⟩

/-- The first values differ from each other, as long as there are not more of them than words. -/
theorem nodup_firstValues {count : Nat} (below : count < 2 ^ 64) : (firstValues count).Nodup := by
  refine List.Nodup.map_on (fun v inside w inside' same => ?_) List.nodup_range'
  rw [List.mem_range'_1] at inside inside'
  have numbers := congrArg UInt64.toNat (Nonce.sequence.inj same)
  rwa [UInt64.toNat_ofNat_of_lt' (by omega : v < 2 ^ 64),
    UInt64.toNat_ofNat_of_lt' (by omega : w < 2 ^ 64)] at numbers

/-- Whoever has a first value has the first of them, so that two who have any have one in common.
-/
theorem disjoint_firstValues {m n : Nat} :
    (firstValues m).Disjoint (firstValues n) ↔ m = 0 ∨ n = 0 := by
  constructor
  · intro apart
    cases m with
    | zero => exact .inl rfl
    | succ m =>
        cases n with
        | zero => exact .inr rfl
        | succ n =>
            obtain ⟨rest, starts⟩ := firstValues_succ m
            obtain ⟨rest', starts'⟩ := firstValues_succ n
            rw [starts, starts'] at apart
            exact absurd List.mem_cons_self (apart List.mem_cons_self)
  · rintro (rfl | rfl)
    · exact List.disjoint_nil_left _
    · exact List.disjoint_nil_right _

/-- **One start** uses the first values, each once and in their order, since its counter is fresh
whatever the key is. -/
theorem nonces_tokens {v : Service} (counting : v.settings.scheme = .sequence)
    (key : PrivateKey) :
    (v.tokens key).map Token.nonce = firstValues (v.tokens key).length ∧
      (v.tokens key).length < 2 ^ 64 := by
  obtain ⟨nonces, below⟩ := Matchmaker.nonces_answerAll (m := ⟨v.settings, key⟩) counting
    v.requests (Matchmaker.opening v.random)
  have start : (Matchmaker.opening v.random).sequence.last.toNat = 0 := rfl
  rw [start, Nat.zero_add] at nonces below
  exact ⟨nonces, below⟩

/-- **When a nonce is used twice under a key.**  Each start uses the first values, and so it does
as soon as two starts answer with a token. -/
theorem nodup_history_iff {services : List Service}
    (counting : ∀ v ∈ services, v.settings.scheme = .sequence) (key : PrivateKey) :
    (∀ v ∈ services, (v.tokens key).map Token.nonce = firstValues (v.tokens key).length) ∧
      ((history key services).Nodup ↔
        services.Pairwise fun v w => v.tokens key = [] ∨ w.tokens key = []) := by
  have nonces : ∀ v ∈ services, (v.tokens key).map Token.nonce =
      firstValues (v.tokens key).length := fun v served => (nonces_tokens (counting v served) key).1
  refine ⟨nonces, ?_⟩
  have once : ∀ v ∈ services, ((v.tokens key).map Token.nonce).Nodup := by
    intro v served
    rw [nonces v served]
    exact nodup_firstValues (nonces_tokens (counting v served) key).2
  rw [history, List.nodup_flatMap, and_iff_right once]
  refine List.Pairwise.iff_of_mem fun {v w} served served' => ?_
  show ((v.tokens key).map Token.nonce).Disjoint ((w.tokens key).map Token.nonce) ↔ _
  rw [nonces v served, nonces w served', disjoint_firstValues, List.length_eq_zero_iff,
    List.length_eq_zero_iff]

/-- A matchmaker that counts is started, asked for one match and stopped. -/
def oneMatch (clock : ClockReading) (random : RandomSource) : Service where
  settings := { Settings.standard with scheme := .sequence }
  random := random
  requests := [⟨clock, "GET", "/match/5/9"⟩]

/-- It answers with one token, whatever its key is and whatever random bytes it has. -/
theorem exists_tokens_oneMatch (key : PrivateKey) (random : RandomSource) :
    ∃ t, (oneMatch ⟨1000, 0⟩ random).tokens key = [t] := by
  let m : Matchmaker := ⟨(oneMatch ⟨1000, 0⟩ random).settings, key⟩
  have routed : Route.of? "GET" "/match/5/9" = some (.token "5" "9") := by decide +kernel
  have isProtocol : Matchmaker.IsId "5" := ⟨5, Decimal.uint64?_eq_some_iff.mp (by decide)⟩
  have isClient : Matchmaker.IsId "9" := ⟨9, Decimal.uint64?_eq_some_iff.mp (by decide)⟩
  have stands : (⟨1000, 0⟩ : ClockReading).sinceEpoch? = some ⟨1000, 0⟩ := by decide
  have issuable : ¬ ∃ e, m.Refuses ⟨1000, 0⟩ (Matchmaker.opening random) e := by
    rintro ⟨e, early | ⟨-, uncounted⟩ | ⟨now, -, finite, late⟩ | ⟨-, -, -, -, used⟩⟩
    · cases early
    · exact uncounted ⟨Nat.le_refl 1, Nat.le_of_ble_eq_true rfl⟩
    · cases finite
      cases stands.symm.trans now
      exact absurd late (by decide)
    · exact absurd (show (0 : UInt64).toNat = 2 ^ 64 - 1 from used) (by decide)
  obtain ⟨t, granted⟩ := Matchmaker.exists_response_matchWith isProtocol isClient issuable
    (Route.token "5" "9").present
  have reads : (m.answer ⟨1000, 0⟩ "GET" "/match/5/9" (Matchmaker.opening random)).response.token? =
      some t.unscoped := by
    rw [Matchmaker.answer_of_route routed]
    exact granted ▸ (Route.token "5" "9").token?_present t
  exact ⟨t.unscoped, Matchmaker.tokens_cons_of_some reads []⟩

/-- A start that answers with a token and one without requests use no nonce twice. -/
theorem nodup_history_iff_idle :
    (history ⟨Block.zero Size.key⟩ [oneMatch ⟨1000, 0⟩ (.seeded 1),
      { oneMatch ⟨1000, 0⟩ (.seeded 2) with requests := [] }]).Nodup := by
  have counting : ∀ v ∈ [oneMatch ⟨1000, 0⟩ (.seeded 1),
      { oneMatch ⟨1000, 0⟩ (.seeded 2) with requests := [] }],
      v.settings.scheme = .sequence := by
    simp [oneMatch]
  refine (nodup_history_iff counting _).2.mpr ?_
  refine List.pairwise_pair.mpr (.inr rfl)

/-- **A restart uses a nonce twice.**  A matchmaker that counts is started twice with one
key, and the one match of each start has the first value. -/
theorem history_restarted :
    history ⟨Block.zero Size.key⟩ [oneMatch ⟨1000, 0⟩ (.seeded 1), oneMatch ⟨1000, 0⟩ (.seeded 2)] =
        [.sequence 1, .sequence 1] ∧
      ¬ ∀ key services, (∀ v ∈ services, v.settings.scheme = .sequence) →
        (history key services).Nodup := by
  have counting : ∀ random, (oneMatch ⟨1000, 0⟩ random).settings.scheme = .sequence :=
    fun _ => rfl
  have nonce (random : RandomSource) :
      ((oneMatch ⟨1000, 0⟩ random).tokens ⟨Block.zero Size.key⟩).map Token.nonce =
        [.sequence 1] := by
    obtain ⟨t, answered⟩ := exists_tokens_oneMatch ⟨Block.zero Size.key⟩ random
    rw [(nonces_tokens (counting random) _).1, answered]
    rfl
  have twice : history ⟨Block.zero Size.key⟩
      [oneMatch ⟨1000, 0⟩ (.seeded 1), oneMatch ⟨1000, 0⟩ (.seeded 2)] =
        [.sequence 1, .sequence 1] := by
    simp only [history, List.flatMap_cons, List.flatMap_nil, nonce, List.singleton_append,
      List.append_nil]
  refine ⟨twice, fun never => ?_⟩
  have nodup := never ⟨Block.zero Size.key⟩
    [oneMatch ⟨1000, 0⟩ (.seeded 1), oneMatch ⟨1000, 0⟩ (.seeded 2)] (by simp [oneMatch])
  rw [twice] at nodup
  exact absurd nodup (by decide)

end Service

end ConnectTokens
