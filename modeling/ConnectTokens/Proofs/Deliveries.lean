import ConnectTokens.Proofs.WireForm
import ConnectTokens.Token.Delivery

/-!
# What a writer gets of a token

Whatever a writer does with the bytes that it is offered, it has taken the front of the wire form
of the token when the delivery is over.  Interruptions leave no trace in it, and neither does the
size of the pieces.  The delivery is over at the first reply behind which it does not go on, or
when nothing is left to offer.

## Main Definitions

* `Reply.GoesOn`, `Reply.count`, `Reply.fault`: what a reply means for the delivery.
* `Ends`: how a delivery ends, by the replies.
* `Writer`, `Writer.Replies`: a writer, and its replies to a whole delivery.
* `Writer.Resumes`: no offer is interrupted forever.
* `Token.Written`, `Token.ServedBy`: what becomes of a token that is written.

## Main Statements

* `deliver_eq_iff`: the outcome of a delivery, by the replies.
* `Writer.exists_replies_iff`: which deliveries come to an end.
* `Token.write_delivers`: what becomes of every token, for all replies and all writers.

## Design Notes

A delivery is known by the replies of the writer, and `Ends` says which of them count.  A writer
may look at the bytes and keep a state, but what it can do to a delivery it does by its replies:
`Writer.Replies` leads all that is said of writers back to lists of replies.
-/

namespace ConnectTokens

namespace Reply

/-- How many of the bytes that are left a reply takes. -/
def count : Reply → Nat
  | took count => count
  | failed _ => 0

/-- Behind such a reply the delivery goes on: the writer took something, or it was interrupted. -/
def GoesOn : Reply → Prop
  | took count => 0 < count
  | failed kind => kind = .interrupted

/-- What a delivery fails with at a reply behind which it does not go on. -/
def fault : Reply → FaultKind
  | took _ => .writeZero
  | failed kind => kind

/-- How many bytes replies take in all. -/
def total : List Reply → Nat
  | [] => 0
  | reply :: replies => reply.count + total replies

end Reply

open Reply (total)

/-! ### One reply -/

section

variable {reply : Reply} {replies : List Reply} {bytes : Bytes}

/-- When nothing is left the delivery is over, and no further reply is asked for. -/
@[simp] theorem deliver_nil (replies : List Reply) : deliver replies [] = (.ok (), []) := by
  rw [deliver]

/-- A writer that replies no more takes no more, which is the same failure as a reply that takes
nothing. -/
theorem deliver_silent (left : bytes ≠ []) : deliver [] bytes = (.error .writeZero, []) := by
  obtain ⟨b, rest, rfl⟩ := List.exists_cons_of_ne_nil left
  rw [deliver]

/-- **A reply behind which the delivery goes on**: what is not taken is offered to the next one.
A reply that takes more than it was offered takes all. -/
theorem deliver_goesOn (goesOn : reply.GoesOn) (left : bytes ≠ []) :
    deliver (reply :: replies) bytes =
      ((deliver replies (bytes.drop reply.count)).1,
        bytes.take reply.count ++ (deliver replies (bytes.drop reply.count)).2) := by
  obtain ⟨b, rest, rfl⟩ := List.exists_cons_of_ne_nil left
  cases reply with
  | took count =>
      have some : count ≠ 0 := Nat.ne_of_gt goesOn
      rw [deliver, if_neg some]
      rfl
  | failed kind =>
      obtain rfl : kind = .interrupted := goesOn
      rw [deliver, if_pos rfl]
      rfl

/-- **Any other reply ends the delivery**, with what it says or, if it takes nothing, with the
failure that stands for that. -/
theorem deliver_stops (stops : ¬ reply.GoesOn) (left : bytes ≠ []) :
    deliver (reply :: replies) bytes = (.error reply.fault, []) := by
  obtain ⟨b, rest, rfl⟩ := List.exists_cons_of_ne_nil left
  cases reply with
  | took count =>
      obtain rfl : count = 0 := Nat.eq_zero_of_not_pos stops
      rw [deliver, if_pos rfl]
      rfl
  | failed kind =>
      rw [deliver]
      exact if_neg stops

/-! ### Replies in a row -/

/-- **Replies behind which the delivery goes on**, one by one, take the front of the bytes, and
what is left goes to the replies behind them. -/
theorem deliver_append {front behind : List Reply} (goOn : ∀ r ∈ front, r.GoesOn) :
    deliver (front ++ behind) bytes =
      ((deliver behind (bytes.drop (total front))).1,
        bytes.take (total front) ++ (deliver behind (bytes.drop (total front))).2) := by
  -- On the front, with the bytes free: each reply leaves fewer of them to the next one.
  induction front generalizing bytes with
  | nil => rfl
  | cons first others ih =>
      obtain ⟨firstGoesOn, othersGoOn⟩ := List.forall_mem_cons.mp goOn
      by_cases left : bytes = []
      · subst left
        simp only [List.drop_nil, List.take_nil, deliver_nil, List.nil_append]
      · rw [List.cons_append, deliver_goesOn firstGoesOn left, ih othersGoOn, total,
          List.drop_drop, List.take_add, List.append_assoc]

end

/-- **How a delivery of so many bytes ends**, by the replies: with which outcome, and with how many
bytes taken. -/
inductive Ends (size : Nat) : List Reply → Except FaultKind Unit → Nat → Prop
  /-- All is taken. -/
  | complete {front behind : List Reply} (goOn : ∀ r ∈ front, r.GoesOn)
      (enough : size ≤ total front) : Ends size (front ++ behind) (.ok ()) size
  /-- Something is left at a reply behind which the delivery does not go on. -/
  | stopped {front behind : List Reply} {last : Reply} (goOn : ∀ r ∈ front, r.GoesOn)
      (left : total front < size) (stops : ¬ last.GoesOn) :
      Ends size (front ++ last :: behind) (.error last.fault) (total front)
  /-- Something is left when there are no more replies. -/
  | silent {replies : List Reply} (goOn : ∀ r ∈ replies, r.GoesOn)
      (left : total replies < size) : Ends size replies (.error .writeZero) (total replies)

section

variable {replies : List Reply} {bytes : Bytes} {outcome : Except FaultKind Unit} {n : Nat}

/-- A delivery that ends in one of the three ways has the outcome of that way, and has taken the
front of the bytes up to there. -/
theorem deliver_of_ends (ends : Ends bytes.length replies outcome n) :
    deliver replies bytes = (outcome, bytes.take n) := by
  have some {n : Nat} (left : n < bytes.length) : bytes.drop n ≠ [] := by
    rw [Ne, List.drop_eq_nil_iff]
    exact Nat.not_le_of_lt left
  cases ends with
  | complete goOn enough =>
      rw [deliver_append goOn, List.drop_eq_nil_of_le enough, deliver_nil, List.append_nil,
        List.take_of_length_le enough, List.take_length]
  | stopped goOn left stops =>
      rw [deliver_append goOn, deliver_stops stops (some left), List.append_nil]
  | @silent replies goOn left =>
      rw [← List.append_nil replies, deliver_append goOn, deliver_silent (some left),
        List.append_nil, List.append_nil]

/-- Every delivery ends in one of the three ways: there is a first reply behind which it does not
go on, or there is none. -/
theorem exists_ends (size : Nat) (replies : List Reply) :
    ∃ outcome n, Ends size replies outcome n := by
  classical
  cases found : replies.find? fun r => ¬ r.GoesOn with
  | none =>
      have goOn : ∀ r ∈ replies, r.GoesOn := by simpa using found
      by_cases enough : size ≤ total replies
      · rw [← List.append_nil replies]
        exact ⟨_, _, .complete goOn enough⟩
      · exact ⟨_, _, .silent goOn (Nat.lt_of_not_le enough)⟩
  | some last =>
      obtain ⟨stops, front, behind, rfl, passed⟩ := List.find?_eq_some_iff_append.mp found
      have goOn : ∀ r ∈ front, r.GoesOn := by simpa using passed
      by_cases enough : size ≤ total front
      · exact ⟨_, _, .complete goOn enough⟩
      · exact ⟨_, _, .stopped goOn (Nat.lt_of_not_le enough) (by simpa using stops)⟩

/-- **The outcome of a delivery, by the replies**, and what is taken.  Bytes matter by their
number and by what the front of them is. -/
theorem deliver_eq_iff {taken : Bytes} :
    deliver replies bytes = (outcome, taken) ↔
      ∃ n, Ends bytes.length replies outcome n ∧ taken = bytes.take n := by
  constructor
  · intro delivered
    obtain ⟨outcome', n, ends⟩ := exists_ends bytes.length replies
    cases (deliver_of_ends ends).symm.trans delivered
    exact ⟨n, ends, rfl⟩
  · rintro ⟨n, ends, rfl⟩
    exact deliver_of_ends ends

/-- **Interruptions leave no trace**, neither in the outcome nor in what is taken.  They take
nothing and are tried again. -/
theorem deliver_filter (replies : List Reply) (bytes : Bytes) :
    deliver (replies.filter (· ≠ .failed .interrupted)) bytes = deliver replies bytes := by
  induction replies generalizing bytes with
  | nil => rfl
  | cons reply others ih =>
      by_cases left : bytes = []
      · rw [left, deliver_nil, deliver_nil]
      by_cases interrupted : reply = .failed .interrupted
      · have goesOn : reply.GoesOn := interrupted ▸ rfl
        rw [List.filter_cons_of_neg (by simpa using interrupted), ih,
          deliver_goesOn goesOn left, interrupted]
        rfl
      · rw [List.filter_cons_of_pos (by simpa using interrupted)]
        by_cases goesOn : reply.GoesOn
        · rw [deliver_goesOn goesOn left, deliver_goesOn goesOn left, ih]
        · rw [deliver_stops goesOn left, deliver_stops goesOn left]

end

/-! ### Writers -/

universe u

/-- **A writer**, by what it does with an offer in a state: its reply, and its state behind it. -/
structure Writer (σ : Type u) where
  offer : σ → Bytes → Reply × σ

namespace Writer

variable {σ : Type u} {w : Writer σ} {state next : σ} {bytes : Bytes} {replies : List Reply}

/-- **The replies of a writer to a whole delivery** of bytes, from a state on.  What it is offered
each time is what it has not taken. -/
inductive Replies (w : Writer σ) : σ → Bytes → List Reply → Prop
  | ended (state : σ) : Replies w state [] []
  | onward {state next : σ} {bytes : Bytes} {reply : Reply} {replies : List Reply}
      (left : bytes ≠ []) (offered : w.offer state bytes = (reply, next))
      (goesOn : reply.GoesOn) (rest : Replies w next (bytes.drop reply.count) replies) :
      Replies w state bytes (reply :: replies)
  | stopped {state next : σ} {bytes : Bytes} {reply : Reply} (left : bytes ≠ [])
      (offered : w.offer state bytes = (reply, next)) (stops : ¬ reply.GoesOn) :
      Replies w state bytes [reply]

/-- Where a delivery comes to: a state of the writer, and the bytes that are left. -/
inductive Reaches (w : Writer σ) : σ → Bytes → σ → Bytes → Prop
  | here (state : σ) (bytes : Bytes) : Reaches w state bytes state bytes
  | onward {state next last : σ} {bytes others : Bytes} {reply : Reply} (left : bytes ≠ [])
      (offered : w.offer state bytes = (reply, next)) (goesOn : reply.GoesOn)
      (rest : Reaches w next (bytes.drop reply.count) last others) :
      Reaches w state bytes last others

/-- The offer of bytes in a state is interrupted, and made again in the next one. -/
def Interrupted (w : Writer σ) (bytes : Bytes) (next state : σ) : Prop :=
  w.offer state bytes = (.failed .interrupted, next)

/-- **No offer is interrupted forever**, wherever a delivery comes to. -/
def Resumes (w : Writer σ) (start : σ) (bytes : Bytes) : Prop :=
  ∀ state left, w.Reaches start bytes state left → left ≠ [] → Acc (w.Interrupted left) state

/-- A writer that resumes still does so behind a reply with which the delivery goes on. -/
theorem Resumes.onward {reply : Reply} (resumes : w.Resumes state bytes) (left : bytes ≠ [])
    (offered : w.offer state bytes = (reply, next)) (goesOn : reply.GoesOn) :
    w.Resumes next (bytes.drop reply.count) :=
  fun last others reaches => resumes last others (.onward left offered goesOn reaches)

/-- A delivery that is over was not interrupted forever: its replies, interruptions among them,
are a list. -/
theorem Replies.resumes (dialogue : w.Replies state bytes replies) : w.Resumes state bytes := by
  induction dialogue with
  | ended state =>
      intro last others reaches some
      cases reaches with
      | here => exact absurd rfl some
      | onward left => exact absurd rfl left
  | @onward state next bytes reply replies left offered goesOn rest ih =>
      intro last others reaches some
      cases reaches with
      | here =>
          refine ⟨_, fun next' interrupted => ?_⟩
          obtain ⟨rfl, rfl⟩ := Prod.mk.inj (offered.symm.trans interrupted)
          exact ih next bytes (.here _ _) some
      | onward _ offered' _ reaches =>
          obtain ⟨rfl, rfl⟩ := Prod.mk.inj (offered.symm.trans offered')
          exact ih last others reaches some
  | stopped left offered stops =>
      intro last others reaches some
      cases reaches with
      | here =>
          refine ⟨_, fun next' interrupted => ?_⟩
          obtain ⟨rfl, -⟩ := Prod.mk.inj (offered.symm.trans interrupted)
          exact absurd rfl stops
      | onward _ offered' goesOn =>
          obtain ⟨rfl, -⟩ := Prod.mk.inj (offered.symm.trans offered')
          exact absurd goesOn stops

/-- A delivery that is not interrupted forever comes to an end.  Apart from interruptions, each
reply that goes on leaves fewer bytes to offer. -/
theorem Resumes.exists_replies (resumes : w.Resumes state bytes) :
    ∃ replies, w.Replies state bytes replies := by
  -- On the number of bytes that are left, and for each number on the interruptions.
  induction size : bytes.length using Nat.strongRecOn generalizing state bytes with
  | _ size fewer =>
      by_cases left : bytes = []
      · rw [left]
        exact ⟨[], .ended state⟩
      have again := resumes state bytes (.here state bytes) left
      induction again with
      | intro state _ interrupted =>
          obtain ⟨reply, next, offered⟩ : ∃ reply next, w.offer state bytes = (reply, next) :=
            ⟨_, _, rfl⟩
          by_cases goesOn : reply.GoesOn
          · have onward := resumes.onward left offered goesOn
            obtain ⟨replies, rest⟩ :
                ∃ replies, w.Replies next (bytes.drop reply.count) replies := by
              cases reply with
              | took count =>
                  have some : 0 < count := goesOn
                  have length : 0 < bytes.length := List.length_pos_iff.mpr left
                  refine fewer _ ?_ onward rfl
                  rw [← size, List.length_drop, Reply.count]
                  omega
              | failed kind =>
                  obtain rfl : kind = .interrupted := goesOn
                  exact interrupted next offered onward
            exact ⟨_, .onward left offered goesOn rest⟩
          · exact ⟨_, .stopped left offered goesOn⟩

/-- **Which deliveries come to an end**: those that are not interrupted forever.  No other demand
is made on the writer. -/
theorem exists_replies_iff : (∃ replies, w.Replies state bytes replies) ↔ w.Resumes state bytes :=
  ⟨fun ⟨_, dialogue⟩ => dialogue.resumes, Resumes.exists_replies⟩

namespace Replies

/-- A writer gives the same replies to the same delivery, for it knows only its state and the
bytes that it is offered. -/
theorem unique (dialogue : w.Replies state bytes replies) {others : List Reply}
    (again : w.Replies state bytes others) : others = replies := by
  induction dialogue generalizing others with
  | ended state =>
      cases again with
      | ended => rfl
      | onward left => exact absurd rfl left
      | stopped left => exact absurd rfl left
  | onward left offered goesOn rest ih =>
      cases again with
      | ended => exact absurd rfl left
      | onward _ offered' _ rest' =>
          obtain ⟨rfl, rfl⟩ := Prod.mk.inj (offered.symm.trans offered')
          rw [ih rest']
      | stopped _ offered' stops =>
          obtain ⟨rfl, -⟩ := Prod.mk.inj (offered.symm.trans offered')
          exact absurd goesOn stops
  | stopped left offered stops =>
      cases again with
      | ended => exact absurd rfl left
      | onward _ offered' goesOn =>
          obtain ⟨rfl, -⟩ := Prod.mk.inj (offered.symm.trans offered')
          exact absurd goesOn stops
      | stopped _ offered' =>
          obtain ⟨rfl, -⟩ := Prod.mk.inj (offered.symm.trans offered')
          rfl

/-- **How a whole delivery ends**: all is taken, or its last reply is the first one behind which
it does not go on. -/
theorem all_or_last (dialogue : w.Replies state bytes replies) :
    ((∀ r ∈ replies, r.GoesOn) ∧ bytes.length ≤ total replies) ∨
      ∃ front last, replies = front ++ [last] ∧ (∀ r ∈ front, r.GoesOn) ∧
        total front < bytes.length ∧ ¬ last.GoesOn := by
  induction dialogue with
  | ended => exact .inl ⟨List.forall_mem_nil _, Nat.zero_le _⟩
  | @onward state next bytes reply replies left offered goesOn rest ih =>
      rw [List.length_drop] at ih
      rcases ih with ⟨goOn, enough⟩ | ⟨front, last, rfl, goOn, some, stops⟩
      · refine .inl ⟨List.forall_mem_cons.mpr ⟨goesOn, goOn⟩, ?_⟩
        rw [total]
        omega
      · refine .inr ⟨reply :: front, last, rfl, List.forall_mem_cons.mpr ⟨goesOn, goOn⟩, ?_, stops⟩
        rw [total]
        omega
  | stopped left offered stops =>
      exact .inr ⟨[], _, rfl, List.forall_mem_nil _, List.length_pos_iff.mpr left, stops⟩

/-- A writer is not asked more often than there are bytes, interruptions apart: each other reply
with which the delivery goes on takes one at least. -/
theorem length_filter_le (dialogue : w.Replies state bytes replies) :
    (replies.filter (· ≠ .failed .interrupted)).length ≤ bytes.length := by
  induction dialogue with
  | ended => exact Nat.le_refl 0
  | @onward state next bytes reply replies left offered goesOn rest ih =>
      rw [List.length_drop] at ih
      cases reply with
      | took count =>
          have some : 0 < count := goesOn
          have length : 0 < bytes.length := List.length_pos_iff.mpr left
          rw [List.filter_cons_of_pos (by simp), List.length_cons]
          rw [Reply.count] at ih
          omega
      | failed kind =>
          obtain rfl : kind = .interrupted := goesOn
          rw [List.filter_cons_of_neg (by simp)]
          exact ih
  | stopped left =>
      exact Nat.le_trans (List.length_filter_le _ _) (List.length_pos_iff.mpr left)

/-- What a writer would reply behind the end of a delivery has no part in it, so that it need not
be known. -/
theorem deliver_append (dialogue : w.Replies state bytes replies) (more : List Reply) :
    deliver (replies ++ more) bytes = deliver replies bytes := by
  have ends : ∃ outcome n, Ends bytes.length replies outcome n ∧
      Ends bytes.length (replies ++ more) outcome n := by
    rcases dialogue.all_or_last with ⟨goOn, enough⟩ | ⟨front, last, rfl, goOn, left, stops⟩
    · have alone : Ends bytes.length (replies ++ []) _ _ := .complete goOn enough
      rw [List.append_nil] at alone
      exact ⟨_, _, alone, .complete goOn enough⟩
    · refine ⟨_, _, .stopped goOn left stops, ?_⟩
      rw [List.append_assoc]
      exact .stopped goOn left stops
  obtain ⟨outcome, n, alone, followed⟩ := ends
  rw [deliver_of_ends alone, deliver_of_ends followed]

end Replies

end Writer

namespace LimitedWriter

/-- What a limited writer does with an offer.  Its state is what it would do from now on. -/
def writer : Writer LimitedWriter where
  offer w bytes :=
    let count := min bytes.length (min w.capacity (w.chunk.getD bytes.length))
    if 0 < w.interruptions then
      (.failed .interrupted, { w with interruptions := w.interruptions - 1 })
    else if count = 0 then (w.refusal, w)
    else (.took count, { w with capacity := w.capacity - count })

variable {w : LimitedWriter} {bytes : Bytes}

theorem not_goesOn_refusal (ends : w.fault ≠ some .interrupted) : ¬ w.refusal.GoesOn := by
  unfold refusal
  split
  · next kind isFault =>
    rintro (rfl : kind = .interrupted)
    exact ends isFault
  · exact Nat.lt_irrefl 0

/-- The pieces are told by their greatest size and by what comes behind them, and not by how much
room the writer had at first. -/
theorem takes_congr (w w' : LimitedWriter) (chunk : w'.chunk = w.chunk) (fault : w'.fault = w.fault)
    (offers room size : Nat) : w'.takes offers room size = w.takes offers room size := by
  have refusal : w'.refusal = w.refusal := by
    rw [LimitedWriter.refusal, fault, LimitedWriter.refusal]
  induction offers generalizing room size with
  | zero => rw [takes, takes, refusal]
  | succ offers ih => simp only [takes, chunk, refusal, ih]

/-- A limited writer that is not interrupted replies to a delivery by the pieces that it takes. -/
theorem replies_takes (ends : w.fault ≠ some .interrupted) (calm : w.interruptions = 0)
    {offers : Nat} (enough : bytes.length ≤ offers) :
    ∃ replies more, writer.Replies w bytes replies ∧
      w.takes offers w.capacity bytes.length = replies ++ more := by
  -- On the number of replies, of which each takes a byte at least.
  induction offers generalizing w bytes with
  | zero =>
      obtain rfl : bytes = [] := List.length_eq_zero_iff.mp (Nat.le_zero.mp enough)
      exact ⟨[], _, .ended w, rfl⟩
  | succ offers ih =>
      by_cases left : bytes = []
      · rw [left]
        exact ⟨[], _, .ended w, rfl⟩
      obtain ⟨count, isCount⟩ :
          ∃ count, count = min bytes.length (min w.capacity (w.chunk.getD bytes.length)) :=
        ⟨_, rfl⟩
      have uninterrupted : ¬ 0 < w.interruptions := by omega
      by_cases none : count = 0
      · have offered : writer.offer w bytes = (w.refusal, w) := by
          simp only [writer, ← isCount, if_neg uninterrupted, if_pos none]
        refine ⟨[w.refusal], [], .stopped left offered (not_goesOn_refusal ends), ?_⟩
        simp only [takes, ← isCount, if_pos none, List.append_nil]
      · have offered : writer.offer w bytes =
            (.took count, { w with capacity := w.capacity - count }) := by
          simp only [writer, ← isCount, if_neg uninterrupted, if_neg none]
        have fewer : (bytes.drop count).length ≤ offers := by
          rw [List.length_drop]
          omega
        obtain ⟨replies, more, rest, row⟩ :=
          ih (w := { w with capacity := w.capacity - count }) ends calm fewer
        rw [List.length_drop,
          takes_congr w { w with capacity := w.capacity - count } rfl rfl] at row
        refine ⟨.took count :: replies, more,
          .onward left offered (Nat.pos_of_ne_zero none) rest, ?_⟩
        simp only [takes, ← isCount, if_neg none]
        exact congrArg _ row

/-- **A limited writer replies to a delivery** as it is told to, and maybe would reply to more.
Its interruptions come first, and the pieces behind them. -/
theorem replies_eq (ends : w.fault ≠ some .interrupted) :
    ∃ replies more, writer.Replies w bytes replies ∧
      w.replies bytes.length = replies ++ more := by
  induction count : w.interruptions generalizing w with
  | zero =>
      rw [LimitedWriter.replies, count]
      exact replies_takes ends count (Nat.le_refl _)
  | succ count' ih =>
      by_cases left : bytes = []
      · rw [left]
        exact ⟨[], _, .ended w, rfl⟩
      have offered : writer.offer w bytes =
          (.failed .interrupted, { w with interruptions := count' }) := by
        simp only [writer, count, if_pos (Nat.succ_pos count'), Nat.add_sub_cancel]
      obtain ⟨replies, more, rest, row⟩ := ih (w := { w with interruptions := count' }) ends rfl
      rw [LimitedWriter.replies, takes_congr w { w with interruptions := count' } rfl rfl] at row
      refine ⟨.failed .interrupted :: replies, more, .onward left offered rfl rest, ?_⟩
      rw [LimitedWriter.replies, count, List.replicate_succ]
      exact congrArg _ row

end LimitedWriter

namespace Token

variable (t : Token) (b : Block Size.token)

/-- **What becomes of a token that is written**, by its wire form and the replies. -/
structure Written (replies : List Reply) : Prop where
  /-- The replies decide how the delivery ends and how much of the wire form is taken. -/
  ends : ∃ outcome n, Ends 2048 replies outcome n ∧
    t.write replies = (outcome.mapError .writeFailed, b.toList.take n)
  /-- Nothing is lost, taken twice or taken in another order. -/
  front : (t.write replies).2 <+: b.toList
  ok_iff : (t.write replies).1 = .ok () ↔ (t.write replies).2.length = 2048
  whole : (t.write replies).1 = .ok () →
    (t.write replies).2 = b.toList ∧ parse (t.write replies).2 = .ok t.unscoped
  /-- It fails for the replies alone, with the fault that stands in them. -/
  failed_iff : ∀ e, (t.write replies).1 = .error e ↔
    ∃ kind n, Ends 2048 replies (.error kind) n ∧ e = .writeFailed kind
  /-- Interruptions leave no trace. -/
  undisturbed : t.write (replies.filter (· ≠ .failed .interrupted)) = t.write replies

/-- **What becomes of a token for a writer** that gives such replies. -/
structure ServedBy {σ : Type u} (w : Writer σ) (start : σ) (replies : List Reply) : Prop where
  dialogue : w.Replies start b.toList replies
  only : ∀ others, w.Replies start b.toList others → others = replies
  /-- Interruptions apart, the writer is not asked more often than there are bytes. -/
  offers : (replies.filter (· ≠ .failed .interrupted)).length ≤ 2048
  /-- What the writer would reply to more offers has no part in it. -/
  settled : ∀ more, t.write (replies ++ more) = t.write replies
  /-- The first reply behind which it does not go on is the last one, and has the fault. -/
  failed_iff : ∀ e, (t.write replies).1 = .error e ↔
    ∃ front last, replies = front ++ [last] ∧ (∀ r ∈ front, r.GoesOn) ∧ ¬ last.GoesOn ∧
      e = .writeFailed last.fault

variable {t b} {replies : List Reply}

/-- Writing a token is the delivery of its wire form, and the failure of the writer is kept in the
one of the token. -/
theorem write_eq (t : Token) (replies : List Reply) :
    t.write replies = ((deliver replies t.wire.toList).1.mapError .writeFailed,
      (deliver replies t.wire.toList).2) := by
  unfold write
  rw [toBytes_eq]

theorem length_toList_wire (t : Token) : t.wire.toList.length = 2048 := by
  rw [Block.length_toList]
  rfl

/-- **The outcome for a token, by the replies**: of its 2048 bytes, so many as the way in which
the delivery ends says. -/
theorem write_of_ends {outcome : Except FaultKind Unit} {n : Nat}
    (ends : Ends 2048 replies outcome n) :
    t.write replies = (outcome.mapError .writeFailed, t.wire.toList.take n) := by
  rw [← t.length_toList_wire] at ends
  rw [write_eq, deliver_of_ends ends]

/-- What is written of a token is the front of its wire form, for all replies. -/
theorem written_wire (t : Token) (replies : List Reply) : t.Written t.wire replies := by
  obtain ⟨outcome, n, ends⟩ := exists_ends 2048 replies
  have written := write_of_ends (t := t) ends
  constructor
  case ends => exact ⟨outcome, n, ends, written⟩
  case front =>
    rw [written]
    exact List.take_prefix n _
  case ok_iff =>
    rw [written, List.length_take, length_toList_wire]
    cases ends with
    | complete => exact iff_of_true rfl (Nat.min_self 2048)
    | stopped _ left => exact iff_of_false (by rintro ⟨⟩) (by omega)
    | silent _ left => exact iff_of_false (by rintro ⟨⟩) (by omega)
  case whole =>
    intro passed
    rw [written] at passed ⊢
    cases ends with
    | complete =>
        rw [List.take_of_length_le (Nat.le_of_eq t.length_toList_wire)]
        exact ⟨rfl, t.parse_wire⟩
    | stopped => cases passed
    | silent => cases passed
  case failed_iff =>
    intro e
    constructor
    · intro failed
      rw [written] at failed
      cases outcome with
      | ok => cases failed
      | error kind =>
          cases failed
          exact ⟨kind, n, ends, rfl⟩
    · rintro ⟨kind, n, ends, rfl⟩
      rw [write_of_ends ends]
      rfl
  case undisturbed => rw [write_eq, write_eq, deliver_filter]

/-- A writer that gives some replies to the delivery of a token has served it, with these replies
and no others. -/
theorem servedBy_of_replies {σ : Type u} {w : Writer σ} {start : σ}
    (dialogue : w.Replies start t.wire.toList replies) : t.ServedBy t.wire w start replies := by
  have size := t.length_toList_wire
  constructor
  case dialogue => exact dialogue
  case only => exact fun _ again => dialogue.unique again
  case offers => exact size ▸ dialogue.length_filter_le
  case settled =>
    intro more
    rw [write_eq, write_eq, dialogue.deliver_append]
  case failed_iff =>
    intro e
    have ended := dialogue.all_or_last
    rw [size] at ended
    rcases ended with ⟨goOn, enough⟩ | ⟨front, last, rfl, goOn, left, stops⟩
    · have ends : Ends 2048 (replies ++ []) _ _ := .complete goOn enough
      rw [List.append_nil] at ends
      rw [write_of_ends ends]
      refine iff_of_false (by rintro ⟨⟩) ?_
      rintro ⟨front, last, rfl, -, stops, -⟩
      exact stops (goOn last (by simp))
    · rw [write_of_ends (.stopped goOn left stops)]
      constructor
      · rintro ⟨⟩
        exact ⟨front, last, rfl, goOn, stops, rfl⟩
      · rintro ⟨front', last', row, -, -, rfl⟩
        obtain ⟨-, same⟩ := List.append_inj' row rfl
        cases same
        rfl

/-- **What becomes of a token that is written**, whatever the writer replies; and every writer
that does not interrupt an offer forever ends the delivery. -/
theorem write_delivers (t : Token) :
    ∃ b, t.toBytes = .ok b ∧ (∀ replies, t.Written b replies) ∧
      ∀ (σ : Type u) (w : Writer σ) (start : σ), w.Resumes start b.toList →
        ∃ replies, t.ServedBy b w start replies := by
  refine ⟨t.wire, t.toBytes_eq, t.written_wire, fun σ w start resumes => ?_⟩
  obtain ⟨replies, dialogue⟩ := resumes.exists_replies
  exact ⟨replies, servedBy_of_replies dialogue⟩

/-- A token under a sequence nonce, for an IPv4 host. -/
def sentToken : Token where
  protocolId := 78
  createTime := 3000
  expireTime := 3045
  nonce := .sequence 12
  sealedPart := ⟨List.replicate 1024 14, List.length_replicate⟩
  timeout := 5
  servers := ⟨[.v4 ⟨[198, 51, 100, 15], rfl⟩ 5004], by decide, by decide⟩
  clientToServer := ⟨List.replicate 32 16, List.length_replicate⟩
  serverToClient := ⟨List.replicate 32 17, List.length_replicate⟩

/-- A writer that is interrupted twice, and breaks when it has taken 1500 bytes in two pieces. -/
def breakingWriter : LimitedWriter where
  capacity := 1500
  chunk := some 1000
  interruptions := 2
  fault := some .brokenPipe

/-- A writer that is interrupted twice and breaks behind 1500 bytes, which it takes in two pieces.
The interruptions are not seen, and its own failure is told. -/
theorem write_delivers_breaking :
    ∃ b, sentToken.toBytes = .ok b ∧ LimitedWriter.writer.Resumes breakingWriter b.toList ∧
      ∃ replies, sentToken.ServedBy b LimitedWriter.writer breakingWriter replies ∧
        sentToken.write replies = (.error (.writeFailed .brokenPipe), b.toList.take 1500) := by
  obtain ⟨b, made, written, serves⟩ := write_delivers sentToken
  obtain ⟨replies, more, dialogue, row⟩ : ∃ replies more,
      LimitedWriter.writer.Replies breakingWriter b.toList replies ∧
        breakingWriter.replies b.toList.length = replies ++ more :=
    LimitedWriter.replies_eq (by decide)
  obtain ⟨replies', served⟩ := serves _ LimitedWriter.writer breakingWriter dialogue.resumes
  obtain rfl := served.only replies dialogue
  refine ⟨b, made, dialogue.resumes, replies, served, ?_⟩
  have size : b.toList.length = 2048 := by
    rw [Block.length_toList]
    rfl
  have pieces : breakingWriter.replies 2048 =
      [.failed .interrupted, .failed .interrupted, .took 1000, .took 500] ++
        .failed .brokenPipe :: [] := by
    decide
  have isWire : b = sentToken.wire := Except.ok.inj (made.symm.trans sentToken.toBytes_eq)
  rw [← served.settled more, ← row, size, pieces, isWire]
  exact write_of_ends (.stopped (by simp [Reply.GoesOn]) (by decide) (by simp [Reply.GoesOn]))

end Token

end ConnectTokens
