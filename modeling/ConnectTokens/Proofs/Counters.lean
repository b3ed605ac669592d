import ConnectTokens.Proofs.Steps

/-!
# What counters hand out

Whoever asks a counter and in whichever order, it answers as if it were asked on
its own: with one value after the other, and with nothing once the greatest value
is out.

## Main Definitions

* `NonceSequence.after`, `NonceSequence.answers`: a counter that is asked on its own.
* `Floor.answersAt`, `Floor.handedOut`: what the counter at a place answered, and
  the values among it.

## Main Statements

* `NonceSequence.values_answers`: the values of a counter that is asked on its own.
* `Floor.run_counted`: a run answers as the counter on its own does.
-/

namespace ConnectTokens

namespace NonceSequence

/-! ### A counter on its own -/

/-- The counter after it was asked this often. -/
def after (c : NonceSequence) : Nat → NonceSequence
  | 0 => c
  | k + 1 => (c.after k).next.2

/-- What the counter answers when it is asked this often. -/
def answers (c : NonceSequence) : Nat → List (Option UInt64)
  | 0 => []
  | k + 1 => c.answers k ++ [(c.after k).next.1]

@[simp] theorem length_answers (c : NonceSequence) (k : Nat) : (c.answers k).length = k := by
  induction k with
  | zero => rfl
  | succ k ih => rw [answers, List.length_append, ih, List.length_singleton]

/-- Asking moves the counter on until it is at its end, where it stays however often it is asked.
-/
theorem toNat_last_after (c : NonceSequence) (k : Nat) :
    (c.after k).last.toNat = min (c.last.toNat + k) (2 ^ 64 - 1) := by
  induction k with
  | zero =>
      have := c.last.toNat_lt
      rw [after]
      omega
  | succ k ih =>
      cases taken : (c.after k).next with
      | mk answer counter =>
          rw [after, taken]
          cases answer with
          | none =>
              -- The counter stays, and so does the minimum.
              obtain ⟨atEnd, rfl⟩ := next_eq_none_iff.mp taken
              show (c.after k).last.toNat = _
              omega
          | some value =>
              obtain ⟨value_eq, rfl⟩ := next_eq_some_iff.mp taken
              have := value.toNat_lt
              show value.toNat = _
              omega

/-- The next answer is the next number, if there is one.  The sum is one of natural numbers, so
that nothing wraps around. -/
theorem answer_after (c : NonceSequence) (k : Nat) :
    (c.after k).next.1 =
      if c.last.toNat + k + 1 < 2 ^ 64 then some (UInt64.ofNat (c.last.toNat + k + 1))
      else none := by
  have stands := c.toNat_last_after k
  cases taken : (c.after k).next with
  | mk answer counter =>
      cases answer with
      | none =>
          obtain ⟨atEnd, -⟩ := next_eq_none_iff.mp taken
          rw [if_neg (by omega)]
      | some value =>
          obtain ⟨value_eq, -⟩ := next_eq_some_iff.mp taken
          have := value.toNat_lt
          have counts : value.toNat = c.last.toNat + k + 1 := by omega
          rw [if_pos (by omega), ← counts, UInt64.ofNat_toNat]

/-- Each answer by its place: the numbers behind the start as long as there are any, and nothing
from then on. -/
theorem getElem_answers (c : NonceSequence) (k j : Nat) (inside : j < (c.answers k).length) :
    (c.answers k)[j] =
      if c.last.toNat + j + 1 < 2 ^ 64 then some (UInt64.ofNat (c.last.toNat + j + 1))
      else none := by
  induction k with
  | zero => cases inside
  | succ k ih =>
      by_cases before : j < (c.answers k).length
      · rw [← ih before]
        exact List.getElem_append_left before
      · have last : j = k := by
          simp only [length_answers] at inside before
          omega
        subst last
        rw [← answer_after]
        exact List.getElem_concat_length (c.length_answers j).symm inside

/-- **The values of a counter** follow each other from the one behind its start, without gap or
repetition, and end at the greatest word. -/
theorem values_answers (c : NonceSequence) (k : Nat) :
    ((c.answers k).filterMap id).map UInt64.toNat =
      List.range' (c.last.toNat + 1) (min k (2 ^ 64 - 1 - c.last.toNat)) := by
  induction k with
  | zero => simp [answers]
  | succ k ih =>
      rw [answers, List.filterMap_append, List.map_append, ih, answer_after]
      split
      · next below =>
        have more : min (k + 1) (2 ^ 64 - 1 - c.last.toNat) = k + 1 := by omega
        have all : min k (2 ^ 64 - 1 - c.last.toNat) = k := by omega
        rw [more, all, List.range'_1_concat]
        have fits : (UInt64.ofNat (c.last.toNat + k + 1)).toNat = c.last.toNat + k + 1 :=
          UInt64.toNat_ofNat_of_lt' below
        show _ ++ [(UInt64.ofNat (c.last.toNat + k + 1)).toNat] = _
        rw [fits, Nat.add_right_comm]
      · next atEnd =>
        have same : min (k + 1) (2 ^ 64 - 1 - c.last.toNat) =
            min k (2 ^ 64 - 1 - c.last.toNat) := by omega
        rw [same]
        simp

/-- The greatest value of a counter. -/
def greatest : UInt64 := UInt64.ofNat (UInt64.size - 1)

/-- Once the greatest value is out the counter is at its end, be it that it was handed out or that
the counter started there. -/
theorem atEnd_of_greatest {c : NonceSequence} {k : Nat}
    (out : greatest ∈ c.last :: (c.answers k).filterMap id) :
    (c.after k).last.toNat = 2 ^ 64 - 1 := by
  have value : greatest.toNat = 2 ^ 64 - 1 := by decide
  rw [toNat_last_after]
  cases List.mem_cons.mp out with
  | inl start =>
      rw [← start, value]
      omega
  | inr given =>
      have counted := List.mem_map_of_mem (f := UInt64.toNat) given
      rw [values_answers, List.mem_range'_1, value] at counted
      omega

/-- At its end a counter answers with nothing, any number of times.  It does not start over. -/
theorem answers_of_atEnd {c : NonceSequence} (atEnd : c.last.toNat = 2 ^ 64 - 1) (k : Nat) :
    c.answers k = List.replicate k none := by
  refine List.eq_replicate_iff.mpr ⟨c.length_answers k, fun answer answered => ?_⟩
  obtain ⟨j, inside, rfl⟩ := List.mem_iff_getElem.mp answered
  rw [getElem_answers, if_neg (by omega)]

end NonceSequence

/-! ### A counter that is shared -/

namespace Floor

/-- What the counter at a place answered, in the order of the steps. -/
def answersAt (f : Floor) (place : Nat) : List (Option UInt64) :=
  (f.record.filter (·.place = place)).map (·.answer)

/-- The values that the counter at a place handed out, in the order of the steps. -/
def handedOut (f : Floor) (place : Nat) : List UInt64 := (f.answersAt place).filterMap id

/-- **An event asks one counter at most**, and leaves the others and what they answered as they
are.  If it asks one, the record has one more receipt. -/
theorem Happens.asks {f f' : Floor} {e : Event} (happened : f.Happens e f') :
    (f'.bureau.counters = f.bureau.counters ∧ f'.record = f.record) ∨
      ∃ place asker,
        f'.bureau.counters =
          f.bureau.counters.set place (f.bureau.counterAt place).next.2 ∧
        f'.record = f.record ++ [⟨place, asker, (f.bureau.counterAt place).next.1⟩] := by
  cases happened with
  | absent missing => exact .inl ⟨rfl, rfl⟩
  | @moved n i p b answers found moves =>
      cases moves with
      | reject | draft | draw | finish | rest => exact .inl ⟨rfl, List.append_nil _⟩
      | take drafted sequence taken =>
          exact .inr ⟨i.desk.counter, some n, by rw [taken], by rw [taken]; rfl⟩
      | exhaust drafted sequence taken =>
          exact .inr ⟨i.desk.counter, some n, by rw [taken], by rw [taken]; rfl⟩
  | @taken place answer counter taken =>
      exact .inr ⟨place, none, by rw [taken], by rw [taken]⟩

/-- **A run answers as the counter on its own does**, however many others ask it and in whichever
order.  What one place answers is a matter of its counter alone. -/
theorem run_counted {f : Floor} {place : Nat} {c : NonceSequence}
    (present : f.bureau.counters[place]? = some c) (events : List Event) :
    ∃ k, (f.run events).bureau.counters[place]? = some (c.after k) ∧
      (f.run events).answersAt place = f.answersAt place ++ c.answers k := by
  refine run_invariant (fun g => ∃ k, g.bureau.counters[place]? = some (c.after k) ∧
    g.answersAt place = f.answersAt place ++ c.answers k)
    ⟨0, present, (List.append_nil _).symm⟩ ?_ events
  rintro g e g' ⟨k, stands, answered⟩ happened
  -- Only who asks at this place moves the counter on.
  obtain ⟨counters, record⟩ | ⟨asked, asker, counters, record⟩ := happened.asks
  · exact ⟨k, by rw [counters, stands], by rw [answersAt, record]; exact answered⟩
  · by_cases here : asked = place
    · subst here
      have inside := (List.getElem?_eq_some_iff.mp stands).1
      rw [Bureau.counterAt_eq stands] at counters record
      refine ⟨k + 1, ?_, ?_⟩
      · rw [counters, List.getElem?_set_self inside]
        rfl
      · rw [NonceSequence.answers, ← List.append_assoc, ← answered]
        simp [answersAt, record]
    · refine ⟨k, ?_, ?_⟩
      · rw [counters, List.getElem?_set_ne here, stands]
      · rw [← answered]
        simp [answersAt, record, here]

end Floor

end ConnectTokens
