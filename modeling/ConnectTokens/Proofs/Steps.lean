import ConnectTokens.Issuance.Bureau
import ConnectTokens.Proofs.Issuing

/-!
# What one step can do

The steps of issuances under way, and of a floor of them, as relations with one
case for each thing that can happen.  What holds of all runs is proved over these
cases, and not over the definitions of the steps.

## Main Definitions

* `Issuance.Moves`: what a step of an issuance can do.
* `Floor.Happens`: what an event can do.

## Main Statements

* `Issuance.exists_stepsTo`, `Floor.step_happens`: nothing else happens.
* `Floor.run_invariant`: what each event keeps, every run keeps.
* `Floor.run_alone`: an issuance whose steps come one after the other is the
  uninterrupted one of its desk.
-/

namespace ConnectTokens

/-! ### Counters of a bureau -/

namespace Bureau

/-- A counter that is there is the one that is asked at its place; the fresh one stands for places
without a counter only. -/
theorem counterAt_eq {b : Bureau} {place : Nat} {c : NonceSequence}
    (present : b.counters[place]? = some c) : b.counterAt place = c := by
  rw [counterAt, List.getD_eq_getElem?_getD, present, Option.getD_some]

/-- Putting a counter back as it was changes nothing, wherever its place is: a place without a
counter gets none by it. -/
theorem set_counterAt (b : Bureau) (place : Nat) :
    b.counters.set place (b.counterAt place) = b.counters := by
  by_cases inside : place < b.counters.length
  · have present : b.counters[place]? = some b.counters[place] :=
      List.getElem?_eq_getElem inside
    rw [counterAt_eq present, List.set_getElem_self]
  · exact List.set_eq_of_length_le (Nat.le_of_not_lt inside)

end Bureau

/-! ### Issuances without interruption -/

namespace Desk

variable {d : Desk} {now : Instant} {r : TokenRequest} {b left : Bureau} {random : RandomSource}

/-- A request that gets no draft costs the bureau what the draft drew, and the counter of the desk
is put back as it was. -/
theorem issueToken_of_refused {e : IssuanceError}
    (refused : r.draft now b.random = (.error e, random)) :
    d.issueToken now r b = (.error e, { b with random }) := by
  have refused' : r.draft now (b.supply d.counter).random = (.error e, random) := refused
  rw [issueToken, Bureau.serve, Issuer.issueToken, refused']
  show (_, Bureau.mk (b.counters.set d.counter (b.counterAt d.counter)) random) = _
  rw [Bureau.set_counterAt]

/-- Behind a draft, a desk asks its counter for the nonce and finishes the token.  These are the
steps of an issuance under way, one after the other. -/
theorem issueToken_of_drafted {draft : Draft} {answer : Except IssuanceError Nonce}
    (drafted : r.draft now b.random = (.ok draft, random))
    (served : Bureau.serve { b with random } d.counter d.issuer.scheme.nextNonce =
      (answer, left)) :
    d.issueToken now r b = (answer.bind (draft.finish d.issuer.key), left) := by
  have drafted' : r.draft now (b.supply d.counter).random = (.ok draft, random) := drafted
  rw [issueToken, Bureau.serve, Issuer.issueToken, drafted']
  simp only [Bureau.serve, Bureau.supply] at served ⊢
  cases given : d.issuer.scheme.nextNonce ⟨b.counterAt d.counter, random⟩ with
  | mk answer' s =>
      have given' : d.issuer.scheme.nextNonce
          ⟨Bureau.counterAt { b with random } d.counter, random⟩ = (answer', s) := given
      rw [given'] at served
      cases served
      cases answer' <;> rfl

end Desk

/-! ### Steps of an issuance -/

namespace Issuance

/-- What one step of an issuance can do at a bureau: how far it is then, the bureau
behind the step, and what the counter answered. -/
inductive Moves (i : Issuance) (b : Bureau) :
    Progress → Bureau → List (Option UInt64) → Prop
  /-- The request is refused before any nonce. -/
  | reject {e : IssuanceError} {random : RandomSource} (asked : i.progress = .asked)
      (invalid : ¬ i.request.Valid i.now) (cause : e ≠ .sequenceExhausted) :
      Moves i b (.finished (.error e)) { b with random } []
  /-- The request is checked and the session keys are drawn. -/
  | draft {d : Draft} {random : RandomSource} (asked : i.progress = .asked)
      (valid : i.request.Valid i.now) : Moves i b (.drafted d) { b with random } []
  /-- A random nonce is drawn, and the counters stay. -/
  | draw {d : Draft} {bytes : Block Size.extendedNonce} {random : RandomSource}
      (drafted : i.progress = .drafted d) (extended : i.desk.issuer.scheme = .extended) :
      Moves i b (.numbered d (.extended bytes)) { b with random } []
  /-- The counter gives a value. -/
  | take {d : Draft} {value : UInt64} {counter : NonceSequence}
      (drafted : i.progress = .drafted d) (sequence : i.desk.issuer.scheme = .sequence)
      (taken : (b.counterAt i.desk.counter).next = (some value, counter)) :
      Moves i b (.numbered d (.sequence value))
        { b with counters := b.counters.set i.desk.counter counter } [some value]
  /-- The counter is at its end. -/
  | exhaust {d : Draft} {counter : NonceSequence}
      (drafted : i.progress = .drafted d) (sequence : i.desk.issuer.scheme = .sequence)
      (taken : (b.counterAt i.desk.counter).next = (none, counter)) :
      Moves i b (.finished (.error .sequenceExhausted))
        { b with counters := b.counters.set i.desk.counter counter } [none]
  /-- The token is sealed under the nonce. -/
  | finish {d : Draft} {nonce : Nonce} (numbered : i.progress = .numbered d nonce) :
      Moves i b (.finished (.ok (d.token i.desk.issuer.key nonce))) b []
  /-- A finished issuance stays as it is. -/
  | rest {outcome : Except IssuanceError Token} (finished : i.progress = .finished outcome) :
      Moves i b (.finished outcome) b []

/-- The next step of an issuance is this move, and its receipts are the answers. -/
structure StepsTo (i : Issuance) (b : Bureau) (p : Progress) (b' : Bureau)
    (answers : List (Option UInt64)) : Prop where
  moves : i.Moves b p b' answers
  stepped : i.step b = ({ i with progress := p }, b')
  receipts : ∀ n, i.receipts n b = answers.map (Receipt.mk i.desk.counter (some n))

section Stages

variable {i : Issuance} {b : Bureau}

theorem stepsTo_of_asked (asked : i.progress = .asked) :
    ∃ p b' answers, i.StepsTo b p b' answers := by
  have silent : ∀ n, i.receipts n b = [] := fun n => by simp only [receipts, asked]
  cases drafted : i.request.draft i.now b.random with
  | mk outcome random =>
      cases outcome with
      | error e =>
          obtain ⟨invalid, cause⟩ := TokenRequest.refused_of_draft_eq_error drafted
          refine ⟨.finished (.error e), { b with random }, [], .reject asked invalid cause, ?_,
            silent⟩
          simp only [step, asked, drafted]
      | ok d =>
          have valid := TokenRequest.exists_draft_iff.mp ⟨d, random, drafted⟩
          refine ⟨.drafted d, { b with random }, [], .draft asked valid, ?_, silent⟩
          simp only [step, asked, drafted]

theorem stepsTo_of_extended {d : Draft} (drafted : i.progress = .drafted d)
    (extended : i.desk.issuer.scheme = .extended) : ∃ p b' answers, i.StepsTo b p b' answers := by
  let drawn := b.random.draw Size.extendedNonce
  refine ⟨.numbered d (.extended drawn.1), { b with random := drawn.2 }, [],
    .draw drafted extended, ?_, fun n => ?_⟩
  · -- The supply goes back with the counter as it was.
    simp only [step, drafted, extended, Bureau.serve, Scheme.nextNonce, Bureau.restock,
      Bureau.supply, Bureau.set_counterAt, drawn]
  · simp only [Issuance.receipts, drafted, extended, List.map_nil]

theorem stepsTo_of_sequence {d : Draft} (drafted : i.progress = .drafted d)
    (sequence : i.desk.issuer.scheme = .sequence) : ∃ p b' answers, i.StepsTo b p b' answers := by
  cases taken : (b.counterAt i.desk.counter).next with
  | mk answer counter =>
      have told : ∀ n, i.receipts n b =
          [answer].map (Receipt.mk i.desk.counter (some n)) := fun n => by
        simp only [receipts, drafted, sequence, taken, List.map_cons, List.map_nil]
      cases answer with
      | none =>
          refine ⟨_, _, _, .exhaust drafted sequence taken, ?_, told⟩
          simp only [step, drafted, sequence, Bureau.serve, Scheme.nextNonce, Bureau.restock,
            Bureau.supply, taken]
      | some value =>
          refine ⟨_, _, _, .take drafted sequence taken, ?_, told⟩
          simp only [step, drafted, sequence, Bureau.serve, Scheme.nextNonce, Bureau.restock,
            Bureau.supply, taken]

theorem stepsTo_of_numbered {d : Draft} {nonce : Nonce}
    (numbered : i.progress = .numbered d nonce) :
    ∃ p b' answers, i.StepsTo b p b' answers := by
  refine ⟨_, b, [], .finish numbered, ?_, fun n => ?_⟩
  · simp only [step, numbered, Draft.finish_eq]
  · simp only [receipts, numbered, List.map_nil]

theorem stepsTo_of_finished {outcome : Except IssuanceError Token}
    (finished : i.progress = .finished outcome) : ∃ p b' answers, i.StepsTo b p b' answers := by
  refine ⟨_, b, [], .rest finished, ?_, fun n => ?_⟩
  · simp only [step, finished]
    rw [← finished]
  · simp only [receipts, finished, List.map_nil]

end Stages

/-- **A step of an issuance is one of the moves**, whatever its stage.  Nothing is said of an
issuance under way but over these moves. -/
theorem exists_stepsTo (i : Issuance) (b : Bureau) :
    ∃ p b' answers, i.StepsTo b p b' answers := by
  cases progress : i.progress with
  | asked => exact stepsTo_of_asked progress
  | drafted d =>
      cases scheme : i.desk.issuer.scheme with
      | extended => exact stepsTo_of_extended progress scheme
      | sequence => exact stepsTo_of_sequence progress scheme
  | numbered d nonce => exact stepsTo_of_numbered progress
  | finished outcome => exact stepsTo_of_finished progress

end Issuance

/-! ### Events on a floor -/

namespace Floor

/-- What an event can do to a floor. -/
inductive Happens (f : Floor) : Event → Floor → Prop
  /-- There is no issuance with the number. -/
  | absent {n : Nat} (missing : f.issuances[n]? = none) : Happens f (.advance n) f
  /-- An issuance takes its next step. -/
  | moved {n : Nat} {i : Issuance} {p : Progress} {b : Bureau} {answers : List (Option UInt64)}
      (found : f.issuances[n]? = some i) (moves : i.Moves f.bureau p b answers) :
      Happens f (.advance n) ⟨b, f.issuances.set n { i with progress := p },
        f.record ++ answers.map (Receipt.mk i.desk.counter (some n))⟩
  /-- Someone asks a counter. -/
  | taken {place : Nat} {answer : Option UInt64} {counter : NonceSequence}
      (taken : (f.bureau.counterAt place).next = (answer, counter)) :
      Happens f (.takeValue place)
        ⟨{ f.bureau with counters := f.bureau.counters.set place counter }, f.issuances,
          f.record ++ [⟨place, none, answer⟩]⟩

/-- **An event does one of these things.**  An issuance that is not there, and one at a place
without a counter, are among the cases. -/
theorem step_happens (f : Floor) (e : Event) : f.Happens e (f.step e) := by
  cases e with
  | advance n =>
      cases found : f.issuances[n]? with
      | none =>
          simp only [step, found]
          exact .absent found
      | some i =>
          obtain ⟨p, b, answers, moves, stepped, receipts⟩ := i.exists_stepsTo f.bureau
          simp only [step, found, stepped, receipts]
          exact .moved found moves
  | takeValue place => exact .taken rfl

/-- What every event keeps, every run keeps.  The induction over the events of a run is made here,
for all that is shown of runs. -/
theorem run_invariant (Kept : Floor → Prop) {f : Floor} (start : Kept f)
    (kept : ∀ {f e f'}, Kept f → f.Happens e f' → Kept f') (events : List Event) :
    Kept (f.run events) := by
  induction events generalizing f with
  | nil => exact start
  | cons e events ih => exact ih (kept start (f.step_happens e))

/-- A run of events behind others goes on from where these have left the floor. -/
theorem run_append (f : Floor) (early late : List Event) :
    f.run (early ++ late) = (f.run early).run late := List.foldl_append

/-- A run of three steps of the only issuance, from what the steps do one by one.  What the record
says is left open here. -/
theorem run_three {b b₁ b₂ b₃ : Bureau} {i i₁ i₂ i₃ : Issuance} (first : i.step b = (i₁, b₁))
    (second : i₁.step b₁ = (i₂, b₂)) (third : i₂.step b₂ = (i₃, b₃)) :
    ∃ record, (opening b [i]).run [.advance 0, .advance 0, .advance 0] = ⟨b₃, [i₃], record⟩ := by
  simp [run, step, opening, first, second, third]

/-- **Steps that come one after the other** are the issuance without interruption: with nobody in
between, the run leaves the bureau as the desk does, and with the same outcome. -/
theorem run_alone (d : Desk) (now : Instant) (r : TokenRequest) (b : Bureau) :
    let f := (opening b [.start d now r]).run [.advance 0, .advance 0, .advance 0]
    f.outcomes = [(d.issueToken now r b).1] ∧ f.bureau = (d.issueToken now r b).2 := by
  intro f
  cases drafted : r.draft now b.random with
  | mk outcome random =>
      cases outcome with
      | error e =>
          have first : (Issuance.start d now r).step b =
              (⟨d, now, r, .finished (.error e)⟩, { b with random }) := by
            simp only [Issuance.start, Issuance.step, drafted]
          obtain ⟨record, ran⟩ := run_three first rfl rfl
          rw [show f = _ from ran, Desk.issueToken_of_refused drafted]
          exact ⟨rfl, rfl⟩
      | ok draft =>
          have first : (Issuance.start d now r).step b =
              (⟨d, now, r, .drafted draft⟩, { b with random }) := by
            simp only [Issuance.start, Issuance.step, drafted]
          cases served : Bureau.serve { b with random } d.counter d.issuer.scheme.nextNonce with
          | mk answer left =>
              cases answer with
              | error e =>
                  have second : (⟨d, now, r, .drafted draft⟩ : Issuance).step { b with random } =
                      (⟨d, now, r, .finished (.error e)⟩, left) := by
                    simp only [Issuance.step, served]
                  obtain ⟨record, ran⟩ := run_three first second rfl
                  rw [show f = _ from ran, Desk.issueToken_of_drafted drafted served]
                  exact ⟨rfl, rfl⟩
              | ok nonce =>
                  have second : (⟨d, now, r, .drafted draft⟩ : Issuance).step { b with random } =
                      (⟨d, now, r, .numbered draft nonce⟩, left) := by
                    simp only [Issuance.step, served]
                  have third : (⟨d, now, r, .numbered draft nonce⟩ : Issuance).step left =
                      (⟨d, now, r, .finished (.ok (draft.token d.issuer.key nonce))⟩, left) := by
                    simp only [Issuance.step, Draft.finish_eq]
                  obtain ⟨record, ran⟩ := run_three first second third
                  rw [show f = _ from ran, Desk.issueToken_of_drafted drafted served]
                  simp only [Except.bind, Draft.finish_eq]
                  exact ⟨rfl, trivial⟩

end Floor

end ConnectTokens
