import ConnectTokens.Proofs.Issuing

/-!
# Address lists and their written form

A list is decoded exactly where its written form stands at the front: what follows never
matters, no list has a second written form, and of a written form that is cut short it is told
that bytes are missing.

## Main Definitions

* `Reader.TellsCuts`: readers that tell when bytes are missing.
* `ServerAddresses.IsFrontOf`: all that an accepted list has to do with its bytes.
* `ServerAddresses.ComesBack`: all that becomes of a written list.

## Main Statements

* `ServerAddresses.decode_eq_ok_iff`: what is decoded, and from which bytes.
* `ServerAddresses.tellsCuts_read`: lists that are cut short.
* `ServerAddresses.decode_exact`: what is accepted, and what is not.
* `ServerAddresses.encodeList_decode`: what becomes of every list, and of every part of its
  written form.

## Design Notes

That bytes are missing is told by the early check of a count and by each part of an entry.
`Reader.TellsCuts` does not ask which of them it is, and readers in a row inherit it.  It speaks
of fronts of bytes that are accepted only: of others the cause may be any.
-/

namespace ConnectTokens

namespace Reader

variable {α β : Type}

/-! ### Readers that tell when bytes are missing -/

/-- **A reader tells cuts.**  Where it takes a value off some bytes, it takes the same value
off any front of them, or else it tells that bytes are missing there. -/
def TellsCuts (read : Reader α) : Prop :=
  ∀ front behind a rest, read (front ++ behind) = .ok (a, rest) →
    read front = .error .truncated ∨ ∃ left, read front = .ok (a, left) ∧ rest = left ++ behind

theorem bind_of_error {read : Reader α} {bytes : Bytes} {e : TokenError}
    (refused : read bytes = .error e) (next : α → Reader β) :
    (read >>= next) bytes = .error e := by
  show (read bytes >>= fun p => next p.1 p.2) = .error e
  rw [refused]
  rfl

theorem bind_of_ok {read : Reader α} {bytes rest : Bytes} {a : α}
    (taken : read bytes = .ok (a, rest)) (next : α → Reader β) :
    (read >>= next) bytes = next a rest := by
  show (read bytes >>= fun p => next p.1 p.2) = next a rest
  rw [taken]
  rfl

namespace TellsCuts

theorem pure (a : α) : TellsCuts (Pure.pure a : Reader α) := by
  intro front behind b rest taken
  obtain ⟨rfl, rfl⟩ := pure_eq_ok_iff.mp taken
  exact .inr ⟨front, rfl, rfl⟩

theorem throw (e : TokenError) : TellsCuts (MonadExcept.throw e : Reader α) := by
  intro front behind a rest taken
  exact absurd taken throw_ne_ok

/-- Readers in a row tell cuts if each of them does.  The cut is in what the first one reads, or
in what is left for the second. -/
theorem bind {read : Reader α} {next : α → Reader β} (first : TellsCuts read)
    (second : ∀ a, TellsCuts (next a)) : TellsCuts (read >>= next) := by
  intro front behind b rest taken
  obtain ⟨a, middle, takenFirst, takenSecond⟩ := bind_eq_ok_iff.mp taken
  rcases first front behind a middle takenFirst with cut | ⟨left, same, rfl⟩
  · exact .inl (bind_of_error cut next)
  · rw [bind_of_ok same next]
    exact second a left behind b rest takenSecond

/-- A reader that looks how much is left before it goes on tells cuts, if what it goes on with
does: looking ahead finds a cut early but names no other cause. -/
theorem lookAhead {size : Nat} {next : Reader α} (cuts : TellsCuts next) :
    TellsCuts (do
      let rest ← get
      if rest.length < size then MonadExcept.throw .truncated else next) := by
  intro front behind a rest taken
  rw [bind_of_ok (get_eq_ok_iff.mpr ⟨rfl, rfl⟩)] at taken ⊢
  -- The look may pass on the whole and fail on the front, but only since bytes are missing.
  by_cases few : front.length < size
  · left
    rw [if_pos few]
    rfl
  · have enough : ¬ (front ++ behind).length < size := by
      rw [List.length_append]
      omega
    rw [if_neg enough] at taken
    rw [if_neg few]
    exact cuts front behind a rest taken

/-- A block tells cuts.  All readers of words are blocks with something made of them. -/
theorem block (size : Nat) : TellsCuts (block size) := by
  intro front behind b rest taken
  rcases List.append_eq_append_iff.mp (block_eq_ok_iff.mp taken) with
    ⟨more, whole, rfl⟩ | ⟨left, rfl, rfl⟩
  · have length : front.length + more.length = size := by
      rw [← List.length_append, ← whole, b.length_toList]
    -- A front that ends with the block itself is not cut.
    rcases more with _ | ⟨missing, others⟩
    · rw [List.append_nil] at whole
      exact .inr ⟨[], block_eq_ok_iff.mpr (by rw [whole, List.append_nil]), rfl⟩
    · refine .inl (block_of_lt ?_)
      rw [← length, List.length_cons]
      omega
  · exact .inr ⟨left, block_append b left, rfl⟩

theorem uint8 : TellsCuts uint8 := by
  intro front behind b rest taken
  rcases front with _ | ⟨first, others⟩
  · exact .inl rfl
  · obtain ⟨rfl, rfl⟩ := List.cons.inj (uint8_eq_ok_iff.mp taken)
    exact .inr ⟨others, rfl, rfl⟩

theorem uint16 : TellsCuts uint16 := (block 2).bind fun _ => .pure _

theorem uint32 : TellsCuts uint32 := (block 4).bind fun _ => .pure _

end TellsCuts

end Reader

open Reader (TellsCuts)

/-- An entry tells cuts, behind either tag; the tag itself is one byte and is there or not. -/
theorem SocketAddress.tellsCuts_readEntry : TellsCuts readEntry := by
  refine TellsCuts.uint8.bind fun kind => ?_
  split
  · exact (TellsCuts.block 4).bind fun _ => TellsCuts.uint16.bind fun _ => .pure _
  · split
    · exact (TellsCuts.block 16).bind fun _ => TellsCuts.uint16.bind fun _ => .pure _
    · exact .throw _

namespace ServerAddresses

theorem tellsCuts_readEntries (count : Nat) : TellsCuts (readEntries count) := by
  -- On the count, as the entries are read.
  induction count with
  | zero => exact .pure _
  | succ count ih =>
      exact SocketAddress.tellsCuts_readEntry.bind fun _ => ih.bind fun _ => .pure _

/-- **A list that is cut short is told to be**, wherever the cut is: in the count, in an entry or
between two of them. -/
theorem tellsCuts_read : TellsCuts read := by
  refine TellsCuts.uint32.bind fun word => ?_
  dsimp only
  split
  · exact .lookAhead ((tellsCuts_readEntries word.toNat).bind fun _ => .pure _)
  · exact .throw _

/-! ### Decoding -/

variable {addresses : List SocketAddress} {bytes other : Bytes} {s : ServerAddresses} {n : Nat}

/-- A list is decoded exactly where its written form stands at the front.  What is decoded has no
scopes, since none are written. -/
theorem decode_eq_ok_iff :
    decode bytes = .ok (s, n) ↔ s.unscoped = s ∧ n = s.encodedSize ∧ s.encode <+: bytes := by
  have size (rest : Bytes) : (s.encode ++ rest).length - rest.length = s.encodedSize := by
    rw [List.length_append, length_encode, Nat.add_sub_cancel]
  constructor
  · intro decoded
    unfold decode at decoded
    cases taken : read bytes with
    | error e =>
        rw [taken] at decoded
        cases decoded
    | ok p =>
        obtain ⟨front, rest⟩ := p
        rw [taken] at decoded
        cases decoded
        obtain ⟨isUnscoped, rfl⟩ := read_eq_ok_iff.mp taken
        exact ⟨isUnscoped, size rest, s.encode.prefix_append rest⟩
  · rintro ⟨isUnscoped, rfl, rest, rfl⟩
    unfold decode
    rw [read_eq_ok_iff.mpr ⟨isUnscoped, rfl⟩, ← size rest]
    rfl

theorem decode_of_read_eq_error {e : TokenError} (refused : read bytes = .error e) :
    decode bytes = .error e := by
  unfold decode
  rw [refused]
  rfl

/-- What stands at the front of bytes that decode is the written form of the list, byte by byte.
-/
theorem take_of_decode (decoded : decode bytes = .ok (s, n)) : bytes.take n = s.encode := by
  obtain ⟨-, rfl, isFront⟩ := decode_eq_ok_iff.mp decoded
  rw [← length_encode]
  exact (List.prefix_iff_eq_take.mp isFront).symm

/-- Whatever follows, the same list stands at the same front.  The reader has not looked any
farther. -/
theorem decode_of_take_eq (decoded : decode bytes = .ok (s, n))
    (same : other.take n = bytes.take n) : decode other = .ok (s, n) := by
  obtain ⟨isUnscoped, size, -⟩ := decode_eq_ok_iff.mp decoded
  refine decode_eq_ok_iff.mpr ⟨isUnscoped, size, ?_⟩
  rw [← take_of_decode decoded, ← same]
  exact List.take_prefix n other

theorem le_length_of_decode (decoded : decode bytes = .ok (s, n)) : n ≤ bytes.length := by
  obtain ⟨-, rfl, isFront⟩ := decode_eq_ok_iff.mp decoded
  rw [← length_encode]
  exact isFront.length_le

/-! ### Encoding -/

/-- Writing succeeds exactly for what is a list of servers, which carries the bound on their
number. -/
theorem encodeList_eq_ok_iff :
    encodeList addresses = .ok bytes ↔
      ∃ s : ServerAddresses, s.toList = addresses ∧ bytes = s.encode := by
  constructor
  · intro encoded
    unfold encodeList at encoded
    cases made : ofList addresses with
    | error e =>
        rw [made] at encoded
        cases encoded
    | ok s =>
        rw [made] at encoded
        cases encoded
        exact ⟨s, ofList_eq_ok_iff.mp made, rfl⟩
  · rintro ⟨s, rfl, rfl⟩
    unfold encodeList
    rw [ofList_eq_ok_iff.mpr rfl]
    rfl

theorem encodeList_of_uncounted
    (uncounted : ¬ (1 ≤ addresses.length ∧ addresses.length ≤ Size.maxServers)) :
    encodeList addresses = .error (.addressCount addresses.length) := by
  rw [encodeList, ofList, dif_neg uncounted]
  rfl

/-- Addresses are written if there are one to eight of them.  The addresses themselves do not
matter. -/
theorem exists_encodeList_iff :
    (∃ bytes, encodeList addresses = .ok bytes) ↔
      1 ≤ addresses.length ∧ addresses.length ≤ Size.maxServers := by
  constructor
  · rintro ⟨bytes, encoded⟩
    obtain ⟨s, rfl, -⟩ := encodeList_eq_ok_iff.mp encoded
    exact ⟨s.one_le_length, s.length_le⟩
  · intro counted
    exact ⟨_, encodeList_eq_ok_iff.mpr ⟨⟨addresses, counted.1, counted.2⟩, rfl, rfl⟩⟩

/-! ### Accepted lists -/

/-- **All that an accepted list has to do with its bytes.** -/
structure IsFrontOf (s : ServerAddresses) (n : Nat) (bytes : Bytes) : Prop where
  one_le_length : 1 ≤ s.toList.length
  length_le : s.toList.length ≤ 8
  within : n ≤ bytes.length
  size : n = s.encodedSize
  /-- The list is written just as it was read. -/
  written : encodeList s.toList = .ok (bytes.take n)
  /-- No byte behind the list matters. -/
  alone : ∀ other : Bytes, other.take n = bytes.take n → decode other = .ok (s, n)
  /-- The list stands nowhere in another form. -/
  one_form : ∀ (other : Bytes) (m : Nat), decode other = .ok (s, m) →
    m = n ∧ other.take m = bytes.take n

/-- What is decoded stands at the front, in all that this means: the bytes, their number, and the
other bytes with that front. -/
theorem isFrontOf_of_decode (decoded : decode bytes = .ok (s, n)) : s.IsFrontOf n bytes where
  one_le_length := s.one_le_length
  length_le := s.length_le
  within := le_length_of_decode decoded
  size := (decode_eq_ok_iff.mp decoded).2.1
  written := encodeList_eq_ok_iff.mpr ⟨s, rfl, take_of_decode decoded⟩
  alone := fun _ same => decode_of_take_eq decoded same
  one_form := by
    intro other m decodedOther
    have size := (decode_eq_ok_iff.mp decoded).2.1
    have sizeOther := (decode_eq_ok_iff.mp decodedOther).2.1
    exact ⟨sizeOther.trans size.symm,
      (take_of_decode decodedOther).trans (take_of_decode decoded).symm⟩

/-- **Exactly the written lists are accepted.**  An accepted list is the one whose written form
stands at the front, and bytes without such a front are refused. -/
theorem decode_exact (bytes : Bytes) :
    (∀ s n, decode bytes = .ok (s, n) → s.IsFrontOf n bytes) ∧
    ((∃ e, decode bytes = .error e) ↔
      ¬ ∃ addresses front, 1 ≤ addresses.length ∧ addresses.length ≤ 8 ∧
        encodeList addresses = .ok front ∧ front <+: bytes) := by
  refine ⟨fun s n decoded => isFrontOf_of_decode decoded, ?_⟩
  constructor
  · rintro ⟨e, refused⟩ ⟨addresses, front, -, -, encoded, isFront⟩
    obtain ⟨s, rfl, rfl⟩ := encodeList_eq_ok_iff.mp encoded
    have decoded : decode bytes = .ok (s.unscoped, s.unscoped.encodedSize) :=
      decode_eq_ok_iff.mpr ⟨unscoped_unscoped s, rfl, by rwa [encode_unscoped]⟩
    cases refused.symm.trans decoded
  · intro noFront
    cases decoded : decode bytes with
    | error e => exact ⟨e, rfl⟩
    | ok p =>
        obtain ⟨s, n⟩ := p
        have front := isFrontOf_of_decode decoded
        exact absurd ⟨s.toList, bytes.take n, s.one_le_length, s.length_le, front.written,
          List.take_prefix n bytes⟩ noFront

/-- One IPv4 address. -/
def singleAddress : ServerAddresses :=
  ⟨[.v4 ⟨[203, 0, 113, 5], rfl⟩ 40000], by decide, by decide⟩

/-- One address is accepted before a byte of something else, and one with an unknown tag is the
written form of nothing. -/
theorem decode_exact_single :
    decode [1, 0, 0, 0, 1, 203, 0, 113, 5, 64, 156, 7] = .ok (singleAddress, 11) ∧
    singleAddress.IsFrontOf 11 [1, 0, 0, 0, 1, 203, 0, 113, 5, 64, 156, 7] ∧
    ¬ ∃ addresses front, 1 ≤ addresses.length ∧ addresses.length ≤ 8 ∧
      encodeList addresses = .ok front ∧ front <+: [1, 0, 0, 0, 3, 203, 0, 113, 5, 64, 156] := by
  have decoded : decode [1, 0, 0, 0, 1, 203, 0, 113, 5, 64, 156, 7] = .ok (singleAddress, 11) := by
    decide
  have refused : decode [1, 0, 0, 0, 3, 203, 0, 113, 5, 64, 156] = .error (.addressKind 3) := by
    decide
  exact ⟨decoded, (decode_exact _).1 singleAddress 11 decoded,
    (decode_exact _).2.mp ⟨.addressKind 3, refused⟩⟩

/-! ### Written lists -/

/-- **All that becomes of a written list.**  It comes back without flow information and scopes,
whatever follows, and no part of its written form passes for a list. -/
structure ComesBack (addresses : List SocketAddress) (bytes : Bytes) : Prop where
  size : ∃ s : ServerAddresses, s.toList = addresses ∧ bytes.length = s.encodedSize
  size_le : bytes.length ≤ maxEncodedSize
  back : ∃ s : ServerAddresses, s.toList = addresses.map SocketAddress.unscoped ∧
    ∀ suffix, decode (bytes ++ suffix) = .ok (s, bytes.length)
  cut : ∀ front, front <+: bytes → front ≠ bytes → decode front = .error .truncated

/-- The written form of a list of servers comes back, with anything behind it, and none of its
strict prefixes does. -/
theorem comesBack_encode (s : ServerAddresses) : ComesBack s.toList s.encode where
  size := ⟨s, rfl, length_encode s⟩
  size_le := by
    rw [length_encode]
    exact s.encodedSize_le
  back := by
    refine ⟨s.unscoped, rfl, fun suffix => ?_⟩
    refine decode_eq_ok_iff.mpr ⟨unscoped_unscoped s, ?_, ?_⟩
    · rw [← encode_unscoped, length_encode]
    · rw [encode_unscoped]
      exact s.encode.prefix_append suffix
  cut := by
    rintro front ⟨behind, whole⟩ strict
    have taken : read (front ++ behind) = .ok (s.unscoped, []) := by
      rw [read_eq_ok_iff, encode_unscoped, List.append_nil]
      exact ⟨unscoped_unscoped s, whole⟩
    rcases tellsCuts_read front behind _ _ taken with cut | ⟨left, -, nothing⟩
    · exact decode_of_read_eq_error cut
    · obtain ⟨-, rfl⟩ := List.append_eq_nil_iff.mp nothing.symm
      rw [List.append_nil] at whole
      exact absurd whole strict

/-- **What becomes of every list.**  One to eight addresses are written and come back, and of
other lists the number is refused. -/
theorem encodeList_decode (addresses : List SocketAddress) :
    ((∃ bytes, encodeList addresses = .ok bytes) ↔
      1 ≤ addresses.length ∧ addresses.length ≤ 8) ∧
    (¬ (1 ≤ addresses.length ∧ addresses.length ≤ 8) →
      encodeList addresses = .error (.addressCount addresses.length)) ∧
    ∀ bytes, encodeList addresses = .ok bytes → ComesBack addresses bytes := by
  refine ⟨exists_encodeList_iff, encodeList_of_uncounted, ?_⟩
  intro bytes encoded
  obtain ⟨s, rfl, rfl⟩ := encodeList_eq_ok_iff.mp encoded
  exact comesBack_encode s

/-- An address twice, and between the two the same one mapped into IPv6, with flow information
and a scope. -/
def mixedAddresses : List SocketAddress :=
  [.v4 ⟨[203, 0, 113, 5], rfl⟩ 40000,
    .v6 ⟨[0, 0, 0, 0, 0, 0, 0, 0, 0, 0, 255, 255, 203, 0, 113, 5], rfl⟩ 40000 8 3,
    .v4 ⟨[203, 0, 113, 5], rfl⟩ 40000]

/-- The mapped address stays one of IPv6, and both others stay.  A cut between two entries is
told, and nine addresses are too many. -/
theorem encodeList_decode_mixed :
    (∃ (bytes : Bytes) (s : ServerAddresses), encodeList mixedAddresses = .ok bytes ∧
      s.toList = [.v4 ⟨[203, 0, 113, 5], rfl⟩ 40000,
        .v6 ⟨[0, 0, 0, 0, 0, 0, 0, 0, 0, 0, 255, 255, 203, 0, 113, 5], rfl⟩ 40000 0 0,
        .v4 ⟨[203, 0, 113, 5], rfl⟩ 40000] ∧
      decode (bytes ++ [1, 2]) = .ok (s, 37) ∧ decode (bytes.take 30) = .error .truncated) ∧
    encodeList (List.replicate 9 (.v4 ⟨[203, 0, 113, 5], rfl⟩ 40000)) =
      .error (.addressCount 9) := by
  constructor
  · obtain ⟨encodes, -, becomes⟩ := encodeList_decode mixedAddresses
    obtain ⟨bytes, encoded⟩ := encodes.mpr (by decide)
    obtain ⟨⟨written, same, size⟩, -, ⟨s, unscoped, back⟩, cut⟩ := becomes bytes encoded
    have length : bytes.length = 37 := by
      rw [size, encodedSize, same]
      rfl
    refine ⟨bytes, s, encoded, unscoped, ?_, cut _ (List.take_prefix 30 bytes) ?_⟩
    · rw [← length]
      exact back [1, 2]
    · intro whole
      have short : (bytes.take 30).length = 30 := by simp [length]
      rw [whole, length] at short
      cases short
  · obtain ⟨-, uncounted, -⟩ :=
      encodeList_decode (List.replicate 9 (.v4 ⟨[203, 0, 113, 5], rfl⟩ 40000))
    exact uncounted (by decide)

end ServerAddresses

end ConnectTokens
