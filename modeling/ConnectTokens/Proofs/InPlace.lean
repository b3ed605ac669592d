import ConnectTokens.Proofs.Opening

/-!
# Sealing and opening where a buffer stands

Sealing and opening undo each other on every buffer that is not refused, and a buffer that is
refused stays as it was.  Both come from one form: a buffer opens exactly where it is the
`sealedBuffer` of some text.

## Main Definitions

* `Sealable`: the buffers that can be sealed.
* `SealsInPlace`, `OpensInPlace`: what becomes of a buffer that is to be sealed, and of one
  that is to be opened.

## Main Statements

* `sealInPlace_eq_ok_iff`, `openInPlace_eq_ok_iff`: which buffers are not refused, and what
  they become.
* `sealInPlace_of_not_sealable`, `refused_of_openInPlace`: what becomes of the others.
* `inPlace_inverse_or_unchanged`: all of it, for every buffer.

## Design Notes

Nothing is assumed of the length of a buffer.  The cipher refuses a text beyond
`Aead.maxTextSize` in both directions, so that what cannot be sealed does not open either.
-/

namespace ConnectTokens

namespace Aead

/-- What is decrypted is the ciphertext of a text, under its own tag.  No ciphertext has two
texts, and no text has two ciphertexts. -/
theorem decrypt?_eq_some_iff {key : Block 32} {nonce : Block 12}
    {associated ciphertext expected text : Bytes} :
    decrypt? key nonce associated ciphertext expected = some text ↔
      text.length ≤ maxTextSize ∧ ciphertext = apply key nonce text ∧
        expected = (tag key nonce associated ciphertext).toList := by
  constructor
  · intro decrypted
    unfold decrypt? at decrypted
    split at decrypted
    · next passed =>
      obtain rfl : apply key nonce ciphertext = text := Option.some.inj decrypted
      refine ⟨?_, (apply_apply key nonce ciphertext).symm, passed.2.symm⟩
      rw [length_apply]
      exact passed.1
    · cases decrypted
  · rintro ⟨short, rfl, rfl⟩
    exact decrypt?_apply short

end Aead

/-! ### Buffers in two parts -/

/-- There is room for a tag in a buffer, and the cipher takes what stands before it. -/
def Sealable (buffer : Bytes) : Prop :=
  Size.mac ≤ buffer.length ∧ buffer.length - Size.mac ≤ Aead.maxTextSize

theorem length_beforeTag (buffer : Bytes) :
    (beforeTag buffer).length = buffer.length - Size.mac := by
  rw [beforeTag, List.length_take]
  omega

/-- A buffer is what is before its tag and the tag, be there room for one or not. -/
theorem beforeTag_append_tagOf (buffer : Bytes) : beforeTag buffer ++ tagOf buffer = buffer :=
  List.take_append_drop _ buffer

section

variable {buffer associated : Bytes} {nonce : Nonce} {key : PrivateKey}

/-! ### What is sealed -/

/-- **A buffer that cannot be sealed stays**: it is too short for a tag, or its text is too long
for the cipher. -/
theorem sealInPlace_of_not_sealable (unfit : ¬ Sealable buffer) :
    sealInPlace buffer associated nonce key = (.error .sealFailed, buffer) := by
  rw [sealInPlace]
  split
  · rfl
  · next room =>
    have long : ¬ (beforeTag buffer).length ≤ Aead.maxTextSize := by
      intro short
      rw [length_beforeTag] at short
      exact unfit ⟨Nat.le_of_not_lt room, short⟩
    rw [Aead.encrypt, if_neg long]

/-- A buffer that can be sealed is, and there is no other condition on it. -/
theorem sealInPlace_of_sealable (fit : Sealable buffer) :
    sealInPlace buffer associated nonce key =
      (.ok (), sealedBuffer (beforeTag buffer) associated nonce key) :=
  sealInPlace_eq fit.1 (by rw [length_beforeTag]; exact fit.2)

/-- **Which buffers are sealed**, and what they become.  What stood in the place of the tag has no
part in it. -/
theorem sealInPlace_eq_ok_iff {sealedBytes : Bytes} :
    sealInPlace buffer associated nonce key = (.ok (), sealedBytes) ↔
      Sealable buffer ∧ sealedBytes = sealedBuffer (beforeTag buffer) associated nonce key := by
  by_cases fit : Sealable buffer
  · rw [sealInPlace_of_sealable fit]
    simp [fit, eq_comm]
  · rw [sealInPlace_of_not_sealable fit]
    simp [fit]

/-! ### What opens -/

/-- **Which buffers open**, and what they become: the tag stays behind the text.  They are exactly
the sealed buffers of the same associated data, nonce and key. -/
theorem openInPlace_eq_ok_iff {opened : Bytes} :
    openInPlace buffer associated nonce key = (.ok (), opened) ↔
      ∃ text, text.length ≤ Aead.maxTextSize ∧
        buffer = sealedBuffer text associated nonce key ∧ opened = text ++ tagOf buffer := by
  constructor
  · intro passed
    unfold openInPlace at passed
    split at passed
    · cases passed
    · split at passed
      · next text decrypted =>
        obtain ⟨short, ciphertext, expected⟩ := Aead.decrypt?_eq_some_iff.mp decrypted
        cases passed
        refine ⟨text, short, ?_, rfl⟩
        rw [sealedBuffer, ← ciphertext, ← expected, beforeTag_append_tagOf]
      · cases passed
  · rintro ⟨text, short, rfl, rfl⟩
    exact openInPlace_sealedBuffer short

/-- **A buffer that does not open stays**, and the error does not say what is wrong with it. -/
theorem refused_of_openInPlace {e : TokenError} {left : Bytes}
    (refused : openInPlace buffer associated nonce key = (.error e, left)) :
    e = .unauthentic ∧ left = buffer := by
  unfold openInPlace at refused
  split at refused
  · cases refused
    exact ⟨rfl, rfl⟩
  · split at refused
    · cases refused
    · cases refused
      exact ⟨rfl, rfl⟩

/-! ### There and back -/

/-- What was sealed opens to its text, and the tag stays behind it in the place where sealing put
it. -/
theorem openInPlace_of_sealInPlace {sealedBytes : Bytes}
    (made : sealInPlace buffer associated nonce key = (.ok (), sealedBytes)) :
    openInPlace sealedBytes associated nonce key =
      (.ok (), beforeTag buffer ++ tagOf sealedBytes) := by
  obtain ⟨fit, isSealed⟩ := sealInPlace_eq_ok_iff.mp made
  refine openInPlace_eq_ok_iff.mpr ⟨beforeTag buffer, ?_, isSealed, rfl⟩
  rw [length_beforeTag]
  exact fit.2

/-- What opened is sealed to what it was: a text has one sealed form, so that nothing else could
have opened to it. -/
theorem sealInPlace_of_openInPlace {opened : Bytes}
    (passed : openInPlace buffer associated nonce key = (.ok (), opened)) :
    opened.length = buffer.length ∧
      sealInPlace opened associated nonce key = (.ok (), buffer) := by
  obtain ⟨text, short, isSealed, rfl⟩ := openInPlace_eq_ok_iff.mp passed
  have isTag : ∃ tag : Block 16, tagOf buffer = tag.toList := by
    rw [isSealed, sealedBuffer, tagOf_append]
    exact ⟨_, rfl⟩
  obtain ⟨tag, isTag⟩ := isTag
  have length : (text ++ tag.toList).length = text.length + Size.mac := by
    rw [List.length_append, tag.length_toList, Size.mac]
  have fit : Sealable (text ++ tag.toList) :=
    ⟨length ▸ Nat.le_add_left .., by rw [length, Nat.add_sub_cancel]; exact short⟩
  rw [isTag]
  refine ⟨?_, sealInPlace_eq_ok_iff.mpr ⟨fit, ?_⟩⟩
  · rw [length, isSealed, length_sealedBuffer]
  · rw [beforeTag_append]
    exact isSealed

end

/-! ### Every buffer -/

section

variable (buffer associated : Bytes) (nonce : Nonce) (key : PrivateKey)

/-- **What becomes of a buffer that is to be sealed.** -/
structure SealsInPlace : Prop where
  /-- It is sealed when there is room for a tag and the cipher takes the text before it. -/
  sealed_iff : (sealInPlace buffer associated nonce key).1 = .ok () ↔
    16 ≤ buffer.length ∧ buffer.length - 16 ≤ Aead.maxTextSize
  /-- It has as many bytes as before. -/
  length : (sealInPlace buffer associated nonce key).2.length = buffer.length
  /-- What stood in the place of the tag leaves no trace. -/
  overwrites : (sealInPlace buffer associated nonce key).1 = .ok () → ∀ other : Bytes,
    other.length = buffer.length →
    other.take (buffer.length - 16) = buffer.take (buffer.length - 16) →
      sealInPlace other associated nonce key = sealInPlace buffer associated nonce key
  /-- Else it stays. -/
  refused : ∀ e, (sealInPlace buffer associated nonce key).1 = .error e →
    sealInPlace buffer associated nonce key = (.error .sealFailed, buffer)

/-- **What becomes of a buffer that is to be opened.** -/
structure OpensInPlace : Prop where
  /-- It opens when it is what some buffer of its length is sealed to. -/
  opens_iff : (openInPlace buffer associated nonce key).1 = .ok () ↔
    ∃ plain : Bytes, plain.length = buffer.length ∧
      sealInPlace plain associated nonce key = (.ok (), buffer)
  /-- It has the text of that buffer then, and its own tag behind it. -/
  opened : ∀ plain : Bytes, sealInPlace plain associated nonce key = (.ok (), buffer) →
    openInPlace buffer associated nonce key =
      (.ok (), plain.take (buffer.length - 16) ++ buffer.drop (buffer.length - 16))
  /-- Sealed again, it is what it was. -/
  resealed : (openInPlace buffer associated nonce key).1 = .ok () →
    sealInPlace (openInPlace buffer associated nonce key).2 associated nonce key =
      (.ok (), buffer)
  /-- Else it stays. -/
  refused : ∀ e, (openInPlace buffer associated nonce key).1 = .error e →
    openInPlace buffer associated nonce key = (.error .unauthentic, buffer)

/-- All that sealing does to a buffer: what is refused and stays, what is sealed, and that it
opens again. -/
theorem sealsInPlace : SealsInPlace buffer associated nonce key := by
  by_cases fit : Sealable buffer
  · have made : sealInPlace buffer associated nonce key =
        (.ok (), sealedBuffer (beforeTag buffer) associated nonce key) :=
      sealInPlace_of_sealable fit
    constructor
    case sealed_iff => exact iff_of_true (congrArg Prod.fst made) fit
    case length =>
      rw [made, length_sealedBuffer, length_beforeTag]
      exact Nat.sub_add_cancel fit.1
    case overwrites =>
      intro _ other sameLength sameText
      have fitOther : Sealable other := by
        rw [Sealable, sameLength]
        exact fit
      have same : beforeTag other = beforeTag buffer := by
        rw [beforeTag, sameLength]
        exact sameText
      rw [sealInPlace_of_sealable fitOther, made, same]
    case refused =>
      intro e failed
      rw [made] at failed
      cases failed
  · have failed : sealInPlace buffer associated nonce key = (.error .sealFailed, buffer) :=
      sealInPlace_of_not_sealable fit
    constructor
    case sealed_iff =>
      rw [failed]
      exact iff_of_false (by rintro ⟨⟩) fit
    case length => rw [failed]
    case overwrites =>
      intro made
      rw [failed] at made
      cases made
    case refused => exact fun _ _ => failed

/-- All that opening does to a buffer: what is refused and stays, what opens, and that it is
sealed to what it was. -/
theorem opensInPlace : OpensInPlace buffer associated nonce key := by
  constructor
  case opens_iff =>
    constructor
    · intro passed
      obtain ⟨length, made⟩ := sealInPlace_of_openInPlace (Prod.ext passed rfl)
      exact ⟨_, length, made⟩
    · rintro ⟨plain, -, made⟩
      rw [openInPlace_of_sealInPlace made]
  case opened =>
    intro plain made
    have length : buffer.length = plain.length := by
      have kept := (sealsInPlace plain associated nonce key).length
      rw [made] at kept
      exact kept
    rw [openInPlace_of_sealInPlace made, beforeTag, tagOf, length]
    rfl
  case resealed =>
    intro passed
    exact (sealInPlace_of_openInPlace (Prod.ext passed rfl)).2
  case refused =>
    intro e failed
    obtain ⟨rfl, left⟩ := refused_of_openInPlace (Prod.ext failed rfl)
    exact Prod.ext failed left

/-- **Sealing and opening undo each other, and what they refuse stays**, for all buffers,
associated data and keys, and for the nonces of both schemes. -/
theorem inPlace_inverse_or_unchanged :
    SealsInPlace buffer associated nonce key ∧ OpensInPlace buffer associated nonce key :=
  ⟨sealsInPlace buffer associated nonce key, opensInPlace buffer associated nonce key⟩

end

/-- Three bytes, and one byte sixteen times in the place of their tag. -/
def threeBytes (stale : UInt8) : Bytes := [1, 2, 3] ++ List.replicate 16 stale

/-- Three bytes are sealed alike before whatever stands in the place of their tag, and open to
themselves before the tag; fifteen bytes have no room for one. -/
theorem inPlace_inverse_or_unchanged_three :
    (∃ c : Bytes, c.length = 19 ∧
      sealInPlace (threeBytes 0) [7] (.sequence 5) ⟨Block.zero 32⟩ = (.ok (), c) ∧
      sealInPlace (threeBytes 9) [7] (.sequence 5) ⟨Block.zero 32⟩ = (.ok (), c) ∧
      openInPlace c [7] (.sequence 5) ⟨Block.zero 32⟩ = (.ok (), [1, 2, 3] ++ c.drop 3) ∧
      sealInPlace ([1, 2, 3] ++ c.drop 3) [7] (.sequence 5) ⟨Block.zero 32⟩ = (.ok (), c)) ∧
    sealInPlace (List.replicate 15 0) [7] (.sequence 5) ⟨Block.zero 32⟩ =
      (.error .sealFailed, List.replicate 15 0) := by
  constructor
  · obtain ⟨seals, -⟩ :=
      inPlace_inverse_or_unchanged (threeBytes 0) [7] (.sequence 5) ⟨Block.zero 32⟩
    have passed := seals.sealed_iff.mpr (by decide)
    obtain ⟨c, isSealed⟩ :
        ∃ c, (sealInPlace (threeBytes 0) [7] (.sequence 5) ⟨Block.zero 32⟩).2 = c := ⟨_, rfl⟩
    have made : sealInPlace (threeBytes 0) [7] (.sequence 5) ⟨Block.zero 32⟩ = (.ok (), c) :=
      Prod.ext passed isSealed
    have length : c.length = 19 := isSealed ▸ seals.length
    obtain ⟨-, opens⟩ := inPlace_inverse_or_unchanged c [7] (.sequence 5) ⟨Block.zero 32⟩
    have opened := opens.opened _ made
    have resealed := opens.resealed (congrArg Prod.fst opened)
    rw [opened, length] at resealed
    rw [length] at opened
    exact ⟨c, length, made, (seals.overwrites passed _ rfl rfl).trans made, opened, resealed⟩
  · obtain ⟨seals, -⟩ :=
      inPlace_inverse_or_unchanged (List.replicate 15 0) [7] (.sequence 5) ⟨Block.zero 32⟩
    cases outcome : (sealInPlace (List.replicate 15 0) [7] (.sequence 5) ⟨Block.zero 32⟩).1 with
    | ok => exact absurd (seals.sealed_iff.mp outcome).1 (by decide)
    | error e => exact seals.refused e outcome

end ConnectTokens
