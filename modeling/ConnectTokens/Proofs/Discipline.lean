import Mathlib.Data.List.Nodup
import Mathlib.Data.List.Pairwise
import ConnectTokens.Proofs.Counters

/-!
# The discipline of nonces

Issuances at desks that share a counter, and others who take values from it, may
interleave their steps in any order.  Still no two tokens get one value, a request
that is refused costs none, and once the greatest value is out there are no more
tokens from the counter.

## Main Definitions

* `Issuance.Stands`: how far an issuance can be, and what its counter answered it.
* `Floor.Disciplined`: the discipline, of the counter at one place.

## Main Statements

* `Floor.run_accounts`: the receipts of an issuance tell how far it is.
* `Floor.run_remaining`: an issuance is finished after three steps of its own.
* `Floor.run_disciplined`: every run is disciplined.

## Design Notes

The counter and the issuances meet in the record.  `Floor.run_counted` tells what is
in it by the places and `Floor.run_accounts` what is in it by the askers; that no
value is used twice follows from both.
-/

namespace ConnectTokens

/-- Nonces of a counter differ in the cipher as well, since the padding in front of the value is
the same in all of them. -/
theorem Nonce.cipherNonce_sequence_injective {v w : UInt64}
    (same : (sequence v).cipherNonce = (sequence w).cipherNonce) : v = w := by
  have bytes : List.replicate 4 0 ++ Bytes.ofUInt64 v = List.replicate 4 0 ++ Bytes.ofUInt64 w :=
    congrArg Block.toList same
  obtain ⟨-, rfl⟩ := Bytes.eq_ofUInt64_iff.mp (List.append_cancel_left bytes)
  exact (Bytes.eq_ofUInt64_iff.mp rfl).2.symm

/-- What the counter has answered where this nonce was given. -/
def Nonce.answers : Nonce → List (Option UInt64)
  | sequence value => [some value]
  | extended _ => []

/-! ### How far an issuance is -/

namespace Issuance

/-- How far an issuance can be, and what its counter answered it until then. -/
inductive Stands (i : Issuance) : Progress → List (Option UInt64) → Prop
  | asked : i.Stands .asked []
  | refused {e : IssuanceError} (invalid : ¬ i.request.Valid i.now)
      (cause : e ≠ .sequenceExhausted) : i.Stands (.finished (.error e)) []
  | drafted {d : Draft} (valid : i.request.Valid i.now) : i.Stands (.drafted d) []
  | numbered {d : Draft} {nonce : Nonce} (valid : i.request.Valid i.now)
      (scheme : nonce.scheme = i.desk.issuer.scheme) :
      i.Stands (.numbered d nonce) nonce.answers
  | exhausted (valid : i.request.Valid i.now) (sequence : i.desk.issuer.scheme = .sequence) :
      i.Stands (.finished (.error .sequenceExhausted)) [none]
  | issued {t : Token} (valid : i.request.Valid i.now)
      (scheme : t.nonce.scheme = i.desk.issuer.scheme) :
      i.Stands (.finished (.ok t)) t.nonce.answers

/-- A step goes on from wherever an issuance can be, and what the step is told is added to its
answers.  This is what the induction over a run needs. -/
theorem Stands.move {i : Issuance} {p p' : Progress} {b b' : Bureau}
    {answers new : List (Option UInt64)} (stands : i.Stands p answers)
    (moves : Moves { i with progress := p } b p' b' new) : i.Stands p' (answers ++ new) := by
  cases moves with
  | reject asked invalid cause =>
      obtain rfl : p = .asked := asked
      cases stands
      exact .refused invalid cause
  | draft asked valid =>
      obtain rfl : p = .asked := asked
      cases stands
      exact .drafted valid
  | @draw d bytes _ drafted extended =>
      obtain rfl : p = .drafted d := drafted
      cases stands with
      | drafted valid => exact .numbered valid extended.symm
  | @take d value _ drafted sequence taken =>
      obtain rfl : p = .drafted d := drafted
      cases stands with
      | drafted valid => exact .numbered valid sequence.symm
  | @exhaust d _ drafted sequence taken =>
      obtain rfl : p = .drafted d := drafted
      cases stands with
      | drafted valid => exact .exhausted valid sequence
  | @finish d nonce numbered =>
      obtain rfl : p = .numbered d nonce := numbered
      cases stands with
      | numbered valid scheme =>
          -- The token keeps the nonce, and so the receipts that go with it.
          rw [List.append_nil]
          exact .issued valid scheme
  | @rest outcome finished =>
      obtain rfl : p = .finished outcome := finished
      rw [List.append_nil]
      exact stands

/-- Who asks for what is not valid is refused, and has asked no counter.  The cause is never that
a counter is at its end. -/
theorem Stands.of_invalid {i : Issuance} {p : Progress} {answers : List (Option UInt64)}
    (stands : i.Stands p answers) (invalid : ¬ i.request.Valid i.now) :
    answers = [] ∧ ∀ outcome, p = .finished outcome →
      ∃ e, outcome = .error e ∧ e ≠ .sequenceExhausted := by
  cases stands with
  | asked => exact ⟨rfl, nofun⟩
  | @refused e _ cause =>
      refine ⟨rfl, ?_⟩
      rintro _ ⟨⟩
      exact ⟨e, rfl, cause⟩
  | drafted valid | numbered valid | exhausted valid | issued valid => exact absurd valid invalid

/-- The extended scheme asks no counter, and gives extended nonces.  Its tokens can therefore
stand between those of a counter without taking a value. -/
theorem Stands.of_extended {i : Issuance} {p : Progress} {answers : List (Option UInt64)}
    (stands : i.Stands p answers) (extended : i.desk.issuer.scheme = .extended) :
    answers = [] ∧ ∀ t, p = .finished (.ok t) → t.nonce.scheme = .extended := by
  have silent (nonce : Nonce) (scheme : nonce.scheme = i.desk.issuer.scheme) :
      nonce.answers = [] := by
    cases nonce with
    | extended bytes => rfl
    | sequence value =>
        rw [extended] at scheme
        cases scheme
  cases stands with
  | asked | refused | drafted => exact ⟨rfl, nofun⟩
  | numbered valid scheme => exact ⟨silent _ scheme, nofun⟩
  | exhausted valid sequence =>
      rw [extended] at sequence
      cases sequence
  | issued valid scheme =>
      refine ⟨silent _ scheme, ?_⟩
      rintro _ ⟨⟩
      exact scheme.trans extended

end Issuance

/-- How many steps an issuance has left at most. -/
def Progress.remaining : Progress → Nat
  | .asked => 3
  | .drafted _ => 2
  | .numbered _ _ => 1
  | .finished _ => 0

theorem Progress.remaining_le (p : Progress) : p.remaining ≤ 3 := by
  cases p <;> simp [remaining]

theorem Progress.exists_finished {p : Progress} (atEnd : p.remaining = 0) :
    ∃ outcome, p = .finished outcome := by
  cases p with
  | finished outcome => exact ⟨outcome, rfl⟩
  | asked | drafted | numbered => cases atEnd

/-- A move takes an issuance one step closer to its end, or to the end itself where it is refused.
-/
theorem Issuance.Moves.remaining_le {i : Issuance} {p : Progress} {b b' : Bureau}
    {answers : List (Option UInt64)} (moves : i.Moves b p b' answers) :
    p.remaining ≤ i.progress.remaining - 1 := by
  cases moves with
  | reject asked | draft asked => simp [asked, Progress.remaining]
  | draw drafted | take drafted | exhaust drafted => simp [drafted, Progress.remaining]
  | finish | rest => exact Nat.zero_le _

/-! ### Issuances on a floor -/

namespace Floor

/-- What the issuance with a number was answered. -/
def receiptsOf (f : Floor) (n : Nat) : List Receipt := f.record.filter (·.asker = some n)

/-- The outcome of the issuance with a number, once it is finished. -/
def outcomeOf (f : Floor) (n : Nat) : Option (Except IssuanceError Token) :=
  f.issuances[n]?.bind Issuance.outcome?

/-- **An issuance moves by its own steps only**, and has receipts of these only.  What the others
do in between is not seen by it. -/
theorem Happens.issuance {f f' : Floor} {e : Event} {n : Nat} {i : Issuance}
    (happened : f.Happens e f') (found : f.issuances[n]? = some i) :
    (e ≠ .advance n ∧ f'.issuances[n]? = some i ∧ f'.receiptsOf n = f.receiptsOf n) ∨
      ∃ p b answers, e = .advance n ∧ i.Moves f.bureau p b answers ∧
        f'.issuances[n]? = some { i with progress := p } ∧
        f'.receiptsOf n =
          f.receiptsOf n ++ answers.map (Receipt.mk i.desk.counter (some n)) := by
  cases happened with
  | @absent m missing =>
      refine .inl ⟨?_, found, rfl⟩
      rintro ⟨⟩
      rw [found] at missing
      cases missing
  | @moved m j p b answers present moves =>
      by_cases own : m = n
      · subst own
        obtain rfl : j = i := Option.some.inj (present.symm.trans found)
        have inside := (List.getElem?_eq_some_iff.mp found).1
        have all : ∀ r ∈ answers.map (Receipt.mk j.desk.counter (some m)),
            decide (r.asker = some m) = true := by
          intro r told
          obtain ⟨answer, -, rfl⟩ := List.mem_map.mp told
          exact decide_eq_true rfl
        refine .inr ⟨p, b, answers, rfl, moves, List.getElem?_set_self inside, ?_⟩
        rw [receiptsOf, List.filter_append, List.filter_eq_self.mpr all]
        rfl
      · -- The receipts of another issuance's step carry its own number.
        refine .inl ⟨fun h => own (Event.advance.inj h), ?_, ?_⟩
        · rw [List.getElem?_set_ne own, found]
        · simp [receiptsOf, List.filter_map, Function.comp_def, own]
  | taken => exact .inl ⟨nofun, found, by simp [receiptsOf]⟩

/-- **The receipts of an issuance tell how far it is.**  They are the answers with which its
progress can be accounted for, in this order and with its number. -/
theorem run_accounts {f : Floor} {n : Nat} {i : Issuance} (found : f.issuances[n]? = some i)
    (asked : i.progress = .asked) (silent : f.receiptsOf n = []) (events : List Event) :
    ∃ p answers, (f.run events).issuances[n]? = some { i with progress := p } ∧
      i.Stands p answers ∧
      (f.run events).receiptsOf n = answers.map (Receipt.mk i.desk.counter (some n)) := by
  refine run_invariant (fun g => ∃ p answers, g.issuances[n]? = some { i with progress := p } ∧
    i.Stands p answers ∧ g.receiptsOf n = answers.map (Receipt.mk i.desk.counter (some n)))
    ⟨.asked, [], by rw [found, ← asked], .asked, silent⟩ ?_ events
  rintro g e g' ⟨p, answers, present, stands, receipts⟩ happened
  obtain ⟨-, present', receipts'⟩ | ⟨p', b, new, -, moves, present', receipts'⟩ :=
    happened.issuance present
  · exact ⟨p, answers, present', stands, receipts'.trans receipts⟩
  · exact ⟨p', answers ++ new, present', stands.move moves, by
      rw [receipts', receipts, List.map_append]⟩

/-- **Each step of its own brings an issuance closer to its end.**  Steps of the others are not
counted, so a run can leave it behind but not hold it up. -/
theorem run_remaining {f : Floor} {n : Nat} {i : Issuance} (found : f.issuances[n]? = some i)
    (events : List Event) :
    ∃ i', (f.run events).issuances[n]? = some i' ∧
      i'.progress.remaining ≤ i.progress.remaining - events.count (.advance n) := by
  induction events generalizing f i with
  | nil => exact ⟨i, found, Nat.le_refl _⟩
  | cons e events ih =>
      obtain ⟨other, found', -⟩ | ⟨p, b, answers, rfl, moves, found', -⟩ :=
        (f.step_happens e).issuance found
      · rw [List.count_cons_of_ne other]
        exact ih found'
      · obtain ⟨i', reached, left⟩ := ih found'
        have := moves.remaining_le
        rw [List.count_cons_self]
        refine ⟨i', reached, ?_⟩
        simp only at left
        omega

/-- The record only grows: what has been answered before an event is still there behind it. -/
theorem run_record (f : Floor) (events : List Event) :
    ∃ new, (f.run events).record = f.record ++ new := by
  refine run_invariant (fun g => ∃ new, g.record = f.record ++ new)
    ⟨[], (List.append_nil _).symm⟩ ?_ events
  rintro g e g' ⟨new, grown⟩ happened
  obtain ⟨-, record⟩ | ⟨place, asker, -, record⟩ := happened.asks
  · exact ⟨new, record.trans grown⟩
  · exact ⟨new ++ _, by rw [record, grown, List.append_assoc]⟩

/-- Where the values count up, nobody else was told the value of a receipt: two receipts with one
value are the same receipt, and it has one asker. -/
theorem asker_unique {f : Floor} {place first n m : Nat} {r r' : Receipt} {value : UInt64}
    (values : (f.handedOut place).map UInt64.toNat =
      List.range' first (f.handedOut place).length)
    (told : r ∈ f.receiptsOf n) (told' : r' ∈ f.receiptsOf m) (here : r.place = place)
    (here' : r'.place = place) (given : r.answer = some value)
    (given' : r'.answer = some value) : n = m := by
  -- Two receipts apart in the record would put the value twice among the values.
  let Apart (r r' : Receipt) : Prop :=
    ∀ v, r.answer = some v → ∀ v', r'.answer = some v' → v ≠ v'
  have symmetric : Std.Symm Apart := ⟨fun r r' differ v h v' h' => (differ v' h' v h).symm⟩
  have apart : (f.record.filter (·.place = place)).Pairwise Apart := by
    have nodup : (f.handedOut place).Nodup :=
      List.Nodup.of_map UInt64.toNat (values ▸ List.nodup_range')
    rw [handedOut, answersAt, List.filterMap_map] at nodup
    exact List.pairwise_filterMap.mp nodup
  obtain ⟨inRecord, asker⟩ := List.mem_filter.mp told
  obtain ⟨inRecord', asker'⟩ := List.mem_filter.mp told'
  have same : r = r' := by
    by_contra differ
    exact apart.forall (List.mem_filter.mpr ⟨inRecord, decide_eq_true here⟩)
      (List.mem_filter.mpr ⟨inRecord', decide_eq_true here'⟩) differ value given value given' rfl
  rw [same, of_decide_eq_true asker'] at asker
  exact (Option.some.inj (of_decide_eq_true asker)).symm

/-! ### The discipline -/

/-- **The discipline of nonces**: what holds on a floor for the counter at a place that
stood at `start` when these issuances began. -/
structure Disciplined (f : Floor) (issuances : List Issuance) (place : Nat)
    (start : NonceSequence) : Prop where
  /-- The values are those behind the start, each once and in their order. -/
  values : (f.handedOut place).map UInt64.toNat =
    List.range' (start.last.toNat + 1) (f.handedOut place).length
  /-- The counter stands at the last value, so it never went around. -/
  counter : ∃ last, f.bureau.counters[place]? = some ⟨last⟩ ∧
    last.toNat = start.last.toNat + (f.handedOut place).length
  /-- Each answer is the next value, as long as there is one. -/
  answers : ∀ k (inside : k < (f.answersAt place).length), (f.answersAt place)[k] =
    if start.last.toNat + k + 1 < 2 ^ 64 then some (UInt64.ofNat (start.last.toNat + k + 1))
    else none
  /-- Behind the greatest value the counter has nothing for anyone. -/
  ends : NonceSequence.greatest ∈ start.last :: f.handedOut place → ∀ later, ∃ m,
    (f.run later).answersAt place = f.answersAt place ++ List.replicate m none
  /-- Behind the greatest value a valid issuance that has not asked yet fails for this
  reason, and it does so within three steps. -/
  fails : NonceSequence.greatest ∈ start.last :: f.handedOut place → ∀ later n i,
    issuances[n]? = some i → i.desk.counter = place → i.desk.issuer.scheme = .sequence →
    i.request.Valid i.now → f.receiptsOf n = [] →
      (∀ outcome, (f.run later).outcomeOf n = some outcome →
        outcome = .error .sequenceExhausted) ∧
      (3 ≤ later.count (.advance n) →
        (f.run later).outcomeOf n = some (.error .sequenceExhausted))
  /-- Two tokens under the counter have two values and two nonces in the cipher. -/
  distinct : ∀ n m i j t u, n ≠ m → issuances[n]? = some i → issuances[m]? = some j →
    i.desk.counter = place → j.desk.counter = place → i.desk.issuer.scheme = .sequence →
    j.desk.issuer.scheme = .sequence → f.outcomeOf n = some (.ok t) →
    f.outcomeOf m = some (.ok u) →
      t.nonce ≠ u.nonce ∧ t.nonce.cipherNonce ≠ u.nonce.cipherNonce
  /-- A request that is not valid takes no value, and its counter is not the cause. -/
  refused : ∀ n i, issuances[n]? = some i → ¬ i.request.Valid i.now → f.receiptsOf n = [] ∧
    ∀ outcome, f.outcomeOf n = some outcome → ∃ e, outcome = .error e ∧ e ≠ .sequenceExhausted
  /-- The extended scheme takes no value and gives extended nonces only. -/
  extended : ∀ n i, issuances[n]? = some i → i.desk.issuer.scheme = .extended →
    f.receiptsOf n = [] ∧ ∀ t, f.outcomeOf n = some (.ok t) → t.nonce.scheme = .extended
  /-- The sequence scheme gives the one value that the counter answered. -/
  sequence : ∀ n i t, issuances[n]? = some i → i.desk.issuer.scheme = .sequence →
    f.outcomeOf n = some (.ok t) → ∃ value, t.nonce = .sequence value ∧
      f.receiptsOf n = [⟨i.desk.counter, some n, some value⟩]

section Opening

variable {b : Bureau} {issuances : List Issuance} {place n : Nat} {start : NonceSequence}
variable {i : Issuance}

/-- From the opening of a floor on, a place has answered as the counter that was there at the
opening answers on its own. -/
theorem opening_counted (issuances : List Issuance)
    (present : b.counters[place]? = some start) (events : List Event) :
    ∃ k, ((opening b issuances).run events).bureau.counters[place]? = some (start.after k) ∧
      ((opening b issuances).run events).answersAt place = start.answers k :=
  run_counted (f := opening b issuances) present events

/-- The values that a place has handed out since the opening count up from behind its start, and
the counter stands where they end. -/
theorem opening_values (issuances : List Issuance)
    (present : b.counters[place]? = some start) (events : List Event) :
    (((opening b issuances).run events).handedOut place).map UInt64.toNat =
        List.range' (start.last.toNat + 1)
          (((opening b issuances).run events).handedOut place).length ∧
      ∃ last, ((opening b issuances).run events).bureau.counters[place]? = some ⟨last⟩ ∧
        last.toNat =
          start.last.toNat + (((opening b issuances).run events).handedOut place).length := by
  obtain ⟨k, stands, answered⟩ := opening_counted issuances present events
  have counted := start.values_answers k
  have number : ((start.answers k).filterMap id).length =
      min k (2 ^ 64 - 1 - start.last.toNat) := by
    rw [← List.length_map (f := UInt64.toNat), counted, List.length_range']
  have := start.last.toNat_lt
  rw [handedOut, answered, number]
  refine ⟨counted, _, stands, ?_⟩
  rw [NonceSequence.toNat_last_after]
  omega

theorem opening_accounts (untouched : ∀ i ∈ issuances, i.progress = .asked)
    (found : issuances[n]? = some i) (events : List Event) :
    ∃ p answers,
      ((opening b issuances).run events).issuances[n]? = some { i with progress := p } ∧
      i.Stands p answers ∧ ((opening b issuances).run events).receiptsOf n =
        answers.map (Receipt.mk i.desk.counter (some n)) :=
  run_accounts (f := opening b issuances) found (untouched i (List.mem_of_getElem? found)) rfl
    events

/-- A finished issuance has an outcome that its answers account for, and its receipts are these
answers. -/
theorem opening_outcome (untouched : ∀ i ∈ issuances, i.progress = .asked)
    (found : issuances[n]? = some i) {events : List Event}
    {outcome : Except IssuanceError Token}
    (finished : ((opening b issuances).run events).outcomeOf n = some outcome) :
    ∃ answers, i.Stands (.finished outcome) answers ∧
      ((opening b issuances).run events).receiptsOf n =
        answers.map (Receipt.mk i.desk.counter (some n)) := by
  obtain ⟨p, answers, present, stands, receipts⟩ :=
    opening_accounts (b := b) untouched found events
  rw [outcomeOf, present] at finished
  cases p with
  | finished o =>
      obtain rfl : o = outcome := Option.some.inj finished
      exact ⟨answers, stands, receipts⟩
  | asked | drafted | numbered => cases finished

/-- A token of the sequence scheme has the value of its only receipt as its nonce, so that values
of counters are told from tokens. -/
theorem opening_value (untouched : ∀ i ∈ issuances, i.progress = .asked)
    (found : issuances[n]? = some i) (sequence : i.desk.issuer.scheme = .sequence)
    {events : List Event} {t : Token}
    (finished : ((opening b issuances).run events).outcomeOf n = some (.ok t)) :
    ∃ value, t.nonce = .sequence value ∧ ((opening b issuances).run events).receiptsOf n =
      [⟨i.desk.counter, some n, some value⟩] := by
  obtain ⟨answers, stands, receipts⟩ := opening_outcome untouched found finished
  cases stands with
  | issued valid scheme =>
      cases nonce : t.nonce with
      | sequence value => exact ⟨value, rfl, by rw [receipts, nonce]; rfl⟩
      | extended bytes =>
          rw [nonce, sequence] at scheme
          cases scheme

/-- Once the greatest value is out, whatever happens later adds nothing but refusals to what the
place has answered. -/
theorem opening_ends (present : b.counters[place]? = some start) {events : List Event}
    (out : NonceSequence.greatest ∈
      start.last :: ((opening b issuances).run events).handedOut place) (later : List Event) :
    ∃ m, (((opening b issuances).run events).run later).answersAt place =
      ((opening b issuances).run events).answersAt place ++ List.replicate m none := by
  obtain ⟨k, stands, answered⟩ := opening_counted issuances present events
  rw [handedOut, answered] at out
  obtain ⟨m, -, answered'⟩ := run_counted stands later
  rw [NonceSequence.answers_of_atEnd (NonceSequence.atEnd_of_greatest out)] at answered'
  exact ⟨m, answered'⟩

/-- Behind the greatest value there are no more tokens for who has not asked yet: a valid request
at that counter ends with the refusal of the counter. -/
theorem opening_fails (present : b.counters[place]? = some start)
    (untouched : ∀ i ∈ issuances, i.progress = .asked) {events : List Event}
    (out : NonceSequence.greatest ∈
      start.last :: ((opening b issuances).run events).handedOut place) (later : List Event)
    (found : issuances[n]? = some i) (here : i.desk.counter = place)
    (sequence : i.desk.issuer.scheme = .sequence) (valid : i.request.Valid i.now)
    (silent : ((opening b issuances).run events).receiptsOf n = []) :
    ∀ outcome, (((opening b issuances).run events).run later).outcomeOf n = some outcome →
      outcome = .error .sequenceExhausted := by
  intro outcome finished
  obtain ⟨m, answered⟩ := opening_ends present out later
  obtain ⟨new, grown⟩ := ((opening b issuances).run events).run_record later
  rw [← run_append] at finished answered grown
  obtain ⟨answers, stands, -⟩ := opening_outcome untouched found finished
  cases stands with
  | refused invalid => exact absurd valid invalid
  | exhausted => rfl
  | issued =>
      -- Its value would have been answered before, or behind the greatest one.
      obtain ⟨value, -, receipts⟩ := opening_value untouched found sequence finished
      have told : ⟨i.desk.counter, some n, some value⟩ ∈
          ((opening b issuances).run (events ++ later)).receiptsOf n := by
        rw [receipts]
        exact List.mem_singleton_self _
      rw [receiptsOf, grown, List.filter_append, ← receiptsOf, silent, List.nil_append] at told
      rw [answersAt, grown, List.filter_append, List.map_append] at answered
      have none_new := List.append_cancel_left answered
      have given : some value ∈ (new.filter (·.place = place)).map (·.answer) :=
        List.mem_map.mpr ⟨_, List.mem_filter.mpr
          ⟨(List.mem_filter.mp told).1, decide_eq_true here⟩, rfl⟩
      rw [none_new] at given
      cases List.eq_of_mem_replicate given

/-- An issuance is finished after three steps of its own, wherever in the run they are. -/
theorem exists_outcome {f : Floor} (found : f.issuances[n]? = some i) {events : List Event}
    (steps : 3 ≤ events.count (.advance n)) :
    ∃ outcome, (f.run events).outcomeOf n = some outcome := by
  obtain ⟨i', reached, left⟩ := run_remaining found events
  rw [outcomeOf, reached]
  have most := i.progress.remaining_le
  obtain ⟨outcome, finished⟩ := Progress.exists_finished (p := i'.progress) (by omega)
  exact ⟨outcome, by simp [Issuance.outcome?, finished]⟩

end Opening

/-- **Every run is disciplined**: however issuances at desks of a bureau and others who take
values interleave.  The issuances have not begun at the start, and nothing else is asked of them,
of the bureau or of the run. -/
theorem run_disciplined {b : Bureau} {issuances : List Issuance} {place : Nat}
    {start : NonceSequence} (present : b.counters[place]? = some start)
    (untouched : ∀ i ∈ issuances, i.progress = .asked) (events : List Event) :
    ((opening b issuances).run events).Disciplined issuances place start := by
  obtain ⟨values, counter⟩ := opening_values issuances present events
  constructor
  case values => exact values
  case counter => exact counter
  case answers =>
    intro k inside
    obtain ⟨count, -, answered⟩ := opening_counted issuances present events
    simp only [answered] at inside ⊢
    exact start.getElem_answers count k inside
  case ends => exact opening_ends present
  case fails =>
    intro out later n i found here sequence valid silent
    have fails := opening_fails present untouched out later found here sequence valid silent
    refine ⟨fails, fun steps => ?_⟩
    obtain ⟨p, answers, reached, -⟩ := opening_accounts (b := b) untouched found events
    obtain ⟨outcome, finished⟩ := exists_outcome reached steps
    rw [finished, fails outcome finished]
  case distinct =>
    intro n m i j t u differ found found' here here' sequence sequence' finished finished'
    obtain ⟨v, nonce, receipts⟩ := opening_value untouched found sequence finished
    obtain ⟨w, nonce', receipts'⟩ := opening_value untouched found' sequence' finished'
    have told : _ ∈ ((opening b issuances).run events).receiptsOf n :=
      receipts ▸ List.mem_singleton_self _
    have told' : _ ∈ ((opening b issuances).run events).receiptsOf m :=
      receipts' ▸ List.mem_singleton_self _
    have apart : v ≠ w := by
      rintro rfl
      exact differ (asker_unique values told told' here here' rfl rfl)
    rw [nonce, nonce']
    exact ⟨fun same => apart (Nonce.sequence.inj same),
      fun same => apart (Nonce.cipherNonce_sequence_injective same)⟩
  case refused =>
    intro n i found invalid
    obtain ⟨p, answers, -, stands, receipts⟩ := opening_accounts (b := b) untouched found events
    refine ⟨by rw [receipts, (stands.of_invalid invalid).1]; rfl, fun outcome finished => ?_⟩
    obtain ⟨_, stands, -⟩ := opening_outcome untouched found finished
    exact (stands.of_invalid invalid).2 outcome rfl
  case extended =>
    intro n i found extended
    obtain ⟨p, answers, -, stands, receipts⟩ := opening_accounts (b := b) untouched found events
    refine ⟨by rw [receipts, (stands.of_extended extended).1]; rfl, fun t finished => ?_⟩
    obtain ⟨_, stands, -⟩ := opening_outcome untouched found finished
    exact (stands.of_extended extended).2 t rfl
  case sequence =>
    intro n i t found sequence finished
    exact opening_value untouched found sequence finished

/-- Issuances at one counter: two that count, one of these for no server at all, and one
whose nonce is random. -/
def mixedIssuances : List Issuance :=
  [.start ⟨Issuer.countingIssuer, 0⟩ ⟨1000, 0⟩ Issuer.scopedRequest,
    .start (Bureau.shareCounter ⟨Block.pad Size.key [1]⟩ 0) ⟨1000, 0⟩ Issuer.scopedRequest,
    .start ⟨Issuer.countingIssuer, 0⟩ ⟨1000, 0⟩ { Issuer.scopedRequest with servers := [] },
    .start ⟨⟨⟨Block.zero Size.key⟩, .extended⟩, 0⟩ ⟨1000, 0⟩ Issuer.scopedRequest]

/-- A run in which the counter comes to its end before the first issuance asks it. -/
def endingRun : Floor :=
  (opening ⟨[⟨18446744073709551613⟩], .seeded 1⟩ mixedIssuances).run
    [.advance 0, .advance 1, .advance 2, .advance 3, .advance 1, .advance 3, .takeValue 0,
      .advance 0, .advance 1, .advance 3]

/-- A run up to the end of a counter that three parties share: an issuance and somebody else get
the last two values, and the issuance that asks behind them is refused. -/
theorem run_disciplined_ending :
    endingRun.Disciplined mixedIssuances 0 ⟨18446744073709551613⟩ ∧
      endingRun.record = [⟨0, some 1, some 18446744073709551614⟩,
        ⟨0, none, some 18446744073709551615⟩, ⟨0, some 0, none⟩] := by
  refine ⟨run_disciplined rfl ?_ _, by decide +kernel⟩
  simp [mixedIssuances, Issuance.start]

end Floor

end ConnectTokens
