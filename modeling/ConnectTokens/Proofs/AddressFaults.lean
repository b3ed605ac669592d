import ConnectTokens.Proofs.AddressLists

/-!
# Why an address list is refused

The cause for which a list is refused stands in its bytes: in their number, in the count, and
in the tags that a walk over the entries comes to.  The walk reads tags and nothing else, so it
says without any reader which entry is the first that cannot be read.

## Main Definitions

* `SocketAddress.sizeOfTag?`, `SocketAddress.Unreadable`: what a tag says, and why no entry
  stands at the front of some bytes.
* `ServerAddresses.Walk`: the way past some entries.
* `ServerAddresses.Refused`: the causes, each with what it takes.
* `ServerAddresses.ToldByWalk`: all that the walk says of bytes that are to be decoded.

## Main Statements

* `SocketAddress.readEntry_eq_error_iff`, `ServerAddresses.readEntries_eq_error_iff`: refused
  entries.
* `ServerAddresses.exists_readEntries_iff`: the walk goes where the entries are read.
* `ServerAddresses.read_eq_error_iff`, `ServerAddresses.exists_read_iff`: lists.
* `ServerAddresses.decode_told`: what is decoded and what is refused, for all bytes.

## Design Notes

A reader in a row of readers fails with the cause of the first one that fails
(`Reader.bind_eq_error_iff`).  Together with `Reader.bind_eq_ok_iff` this is all that is asked
of the readers here, and no reader is unfolded twice.
-/

namespace ConnectTokens

namespace Reader

variable {α β : Type} {bytes : Bytes} {e : TokenError}

/-! ### Readers that fail -/

/-- Of two readers in a row the first one that fails gives the cause.  What follows it is never
asked. -/
theorem bind_eq_error_iff {read : Reader α} {next : α → Reader β} :
    (read >>= next) bytes = .error e ↔
      read bytes = .error e ∨
        ∃ a middle, read bytes = .ok (a, middle) ∧ next a middle = .error e := by
  cases taken : read bytes with
  | error cause =>
      rw [bind_of_error taken]
      simp
  | ok p =>
      obtain ⟨a, middle⟩ := p
      rw [bind_of_ok taken]
      constructor
      · intro refused
        exact .inr ⟨a, middle, rfl, refused⟩
      · rintro (impossible | ⟨_, _, same, refused⟩)
        · cases impossible
        · cases same
          exact refused

theorem pure_ne_error {a : α} : (pure a : Reader α) bytes ≠ .error e := by
  rintro ⟨⟩

theorem throw_eq_error_iff {cause : TokenError} :
    (throw cause : Reader α) bytes = .error e ↔ cause = e := by
  show (Except.error cause : Except TokenError (α × Bytes)) = .error e ↔ _
  simp

/-- A block is refused exactly when the bytes end in front of its end, and for no other cause. -/
theorem block_eq_error_iff {size : Nat} :
    block size bytes = .error e ↔ bytes.length < size ∧ e = .truncated := by
  rw [block]
  split
  · next enough => simp [Nat.not_lt.mpr enough]
  · next few => simp [Nat.lt_of_not_le few, eq_comm]

/-- A word is missing when its block is, since any bytes of the right number make a word. -/
theorem word_eq_error_iff {size : Nat} {ofBytes : Bytes → α} :
    (do return ofBytes (← block size).toList : Reader α) bytes = .error e ↔
      bytes.length < size ∧ e = .truncated := by
  simp only [bind_eq_error_iff, block_eq_error_iff, pure_ne_error, and_false, exists_false,
    or_false]

theorem uint16_eq_error_iff : uint16 bytes = .error e ↔ bytes.length < 2 ∧ e = .truncated :=
  word_eq_error_iff

theorem uint32_eq_error_iff : uint32 bytes = .error e ↔ bytes.length < 4 ∧ e = .truncated :=
  word_eq_error_iff

end Reader

namespace SocketAddress

/-! ### One entry -/

/-- How many bytes the entry with a tag takes, the tag with them. -/
def sizeOfTag? (tag : UInt8) : Option Nat :=
  if tag = 1 then some 7 else if tag = 2 then some 19 else none

/-- **Why no entry stands at the front.** -/
inductive Unreadable : Bytes → TokenError → Prop
  /-- Not even a tag is left. -/
  | tagless : Unreadable [] .truncated
  /-- The host or the number of the service runs past the end. -/
  | cut {tag : UInt8} {behind : Bytes} {size : Nat} (known : sizeOfTag? tag = some size)
      (short : (tag :: behind).length < size) : Unreadable (tag :: behind) .truncated
  /-- The tag is that of no entry, whatever follows. -/
  | unknown {tag : UInt8} {behind : Bytes} (unknown : sizeOfTag? tag = none) :
      Unreadable (tag :: behind) (.addressKind tag)

@[simp] theorem sizeOfTag?_tag (a : SocketAddress) : sizeOfTag? a.tag = some a.entrySize := by
  cases a <;> rfl

/-- A host and the number of its service are refused when they are not there in full, whichever of
the two is cut. -/
theorem host_eq_error_iff {size : Nat} (make : Block size → UInt16 → SocketAddress)
    {bytes : Bytes} {e : TokenError} :
    (do return make (← Reader.block size) (← Reader.uint16) : Reader SocketAddress) bytes =
        .error e ↔
      bytes.length < size + 2 ∧ e = .truncated := by
  simp only [Reader.bind_eq_error_iff, Reader.block_eq_error_iff, Reader.block_eq_ok_iff,
    Reader.uint16_eq_error_iff, Reader.pure_ne_error, and_false, exists_false, or_false]
  constructor
  · rintro (⟨few, rfl⟩ | ⟨octets, middle, rfl, few, rfl⟩)
    · exact ⟨by omega, rfl⟩
    · rw [List.length_append, octets.length_toList]
      exact ⟨by omega, rfl⟩
  · rintro ⟨few, rfl⟩
    by_cases hostless : bytes.length < size
    · exact .inl ⟨hostless, rfl⟩
    · refine .inr ⟨⟨bytes.take size, by simp; omega⟩, bytes.drop size,
        (List.take_append_drop size bytes).symm, ?_, rfl⟩
      rw [List.length_drop]
      omega

theorem size_eq_or_eq {tag : UInt8} {size : Nat} (known : sizeOfTag? tag = some size) :
    size = 7 ∨ size = 19 := by
  unfold sizeOfTag? at known
  split at known
  · exact .inl (Option.some.inj known).symm
  · split at known
    · exact .inr (Option.some.inj known).symm
    · cases known

theorem eq_tag_or_unknown (tag : UInt8) :
    tag = v4Tag ∨ tag = v6Tag ∨ sizeOfTag? tag = none := by
  by_cases isV4 : tag = v4Tag
  · exact .inl isV4
  · by_cases isV6 : tag = v6Tag
    · exact .inr (.inl isV6)
    · exact .inr (.inr ((if_neg isV4).trans (if_neg isV6)))

section

variable {tag : UInt8} {behind : Bytes} {e : TokenError}

/-- Behind a known tag an entry can only be too short, for any bytes of the right number are a
host and the number of its service. -/
theorem unreadable_cons_iff_of_known {size : Nat} (known : sizeOfTag? tag = some size) :
    Unreadable (tag :: behind) e ↔ (tag :: behind).length < size ∧ e = .truncated := by
  constructor
  · rintro (_ | ⟨known', short⟩ | unknown)
    · cases known.symm.trans known'
      exact ⟨short, rfl⟩
    · cases known.symm.trans unknown
  · rintro ⟨short, rfl⟩
    exact .cut known short

theorem unreadable_cons_iff_of_unknown (unknown : sizeOfTag? tag = none) :
    Unreadable (tag :: behind) e ↔ .addressKind tag = e := by
  constructor
  · rintro (_ | ⟨known, -⟩ | -)
    · cases unknown.symm.trans known
    · rfl
  · rintro rfl
    exact .unknown unknown

theorem readEntry_of_unknown (unknown : sizeOfTag? tag = none) :
    readEntry (tag :: behind) = .error (.addressKind tag) := by
  have notV4 : tag ≠ v4Tag := by
    rintro rfl
    cases unknown
  have notV6 : tag ≠ v6Tag := by
    rintro rfl
    cases unknown
  rw [readEntry, Reader.bind_of_ok (Reader.uint8_eq_ok_iff.mpr rfl), if_neg notV4, if_neg notV6]
  rfl

end

/-- **An entry is refused for what its bytes lack or for its tag.**  The tag comes first: without
a known one nobody knows how much is lacking. -/
theorem readEntry_eq_error_iff {bytes : Bytes} {e : TokenError} :
    readEntry bytes = .error e ↔ Unreadable bytes e := by
  rcases bytes with _ | ⟨tag, behind⟩
  · constructor
    · rintro ⟨⟩
      exact .tagless
    · rintro ⟨⟩
      rfl
  rcases eq_tag_or_unknown tag with rfl | rfl | unknown
  · rw [unreadable_cons_iff_of_known rfl]
    exact (host_eq_error_iff v4).trans (and_congr_left' Nat.succ_lt_succ_iff.symm)
  · rw [unreadable_cons_iff_of_known rfl]
    exact (host_eq_error_iff fun o p => v6 o p 0 0).trans
      (and_congr_left' Nat.succ_lt_succ_iff.symm)
  · rw [unreadable_cons_iff_of_unknown unknown, readEntry_of_unknown unknown]
    simp

/-- What is read of an entry is as long as its tag says.  Nothing else about its bytes matters to
whether it can be read. -/
theorem exists_readEntry_iff {bytes rest : Bytes} :
    (∃ a, readEntry bytes = .ok (a, rest)) ↔
      ∃ tag size behind, sizeOfTag? tag = some size ∧ (tag :: behind).length = size ∧
        bytes = tag :: (behind ++ rest) := by
  constructor
  · rintro ⟨a, taken⟩
    obtain ⟨-, rfl⟩ := readEntry_eq_ok_iff.mp taken
    exact ⟨a.tag, a.entrySize, a.octets ++ Bytes.ofUInt16 a.portNumber, sizeOfTag?_tag a,
      length_entry a, rfl⟩
  · rintro ⟨tag, size, behind, known, whole, rfl⟩
    cases taken : readEntry (tag :: (behind ++ rest)) with
    | error e =>
        obtain ⟨short, -⟩ :=
          (unreadable_cons_iff_of_known known).mp (readEntry_eq_error_iff.mp taken)
        simp only [List.length_cons, List.length_append] at short whole
        omega
    | ok p =>
        obtain ⟨a, left⟩ := p
        obtain ⟨-, same⟩ := readEntry_eq_ok_iff.mp taken
        have tags : tag = a.tag := (List.cons.inj same).1
        -- The tag is that of the address, so both entries have the same bytes.
        have sizes : a.entrySize = size := by
          rw [tags, sizeOfTag?_tag] at known
          exact Option.some.inj known
        have row : (tag :: behind) ++ rest = a.entry ++ left := same
        obtain ⟨-, rfl⟩ := List.append_inj row (by rw [whole, length_entry, sizes])
        exact ⟨a, rfl⟩

end SocketAddress

namespace ServerAddresses

open SocketAddress (sizeOfTag? Unreadable)

/-! ### Entries in a row -/

/-- **The way past so many entries**, by their tags: from some bytes to those that are left. -/
inductive Walk : Nat → Bytes → Bytes → Prop
  | here (bytes : Bytes) : Walk 0 bytes bytes
  | past {count size : Nat} {tag : UInt8} {behind rest last : Bytes}
      (known : sizeOfTag? tag = some size) (whole : (tag :: behind).length = size)
      (onward : Walk count rest last) : Walk (count + 1) (tag :: (behind ++ rest)) last

variable {count : Nat} {bytes rest last : Bytes} {e : TokenError}

theorem walk_zero_iff : Walk 0 bytes last ↔ bytes = last := by
  constructor
  · rintro ⟨⟩
    rfl
  · rintro rfl
    exact .here bytes

/-- A walk past an entry is the reading of it, and then a walk past the others from where it ends.
-/
theorem walk_succ_iff :
    Walk (count + 1) bytes last ↔
      ∃ a rest, SocketAddress.readEntry bytes = .ok (a, rest) ∧ Walk count rest last := by
  constructor
  · rintro (_ | @⟨_, size, tag, behind, rest, _, known, whole, onward⟩)
    obtain ⟨a, taken⟩ :=
      SocketAddress.exists_readEntry_iff.mpr ⟨tag, size, behind, known, whole, rfl⟩
    exact ⟨a, rest, taken, onward⟩
  · rintro ⟨a, rest, taken, onward⟩
    obtain ⟨tag, size, behind, known, whole, rfl⟩ :=
      SocketAddress.exists_readEntry_iff.mp ⟨a, taken⟩
    exact .past known whole onward

/-- **The walk goes where the entries are read.**  It looks at tags and lengths only, and comes to
the same rest as the reader. -/
theorem exists_readEntries_iff :
    (∃ entries, readEntries count bytes = .ok (entries, last)) ↔ Walk count bytes last := by
  -- On the count, as the entries are read, with the bytes free.
  induction count generalizing bytes with
  | zero =>
      rw [walk_zero_iff]
      constructor
      · rintro ⟨entries, ⟨⟩⟩
        rfl
      · rintro rfl
        exact ⟨⟨[], rfl⟩, rfl⟩
  | succ count ih =>
      rw [walk_succ_iff]
      simp only [readEntries, Reader.bind_eq_ok_iff, Reader.pure_eq_ok_iff]
      constructor
      · rintro ⟨_, first, rest, taken, others, _, onward, rfl, rfl⟩
        exact ⟨first, rest, taken, ih.mp ⟨others, onward⟩⟩
      · rintro ⟨first, rest, taken, walk⟩
        obtain ⟨others, onward⟩ := ih.mpr walk
        exact ⟨_, first, rest, taken, others, last, onward, rfl, rfl⟩

/-- **The first entry that cannot be read decides.**  Those in front of it are passed, and those
behind it are not looked at. -/
theorem readEntries_eq_error_iff :
    readEntries count bytes = .error e ↔
      ∃ passed < count, ∃ rest, Walk passed bytes rest ∧ Unreadable rest e := by
  induction count generalizing bytes with
  | zero =>
      simp only [Nat.not_lt_zero, false_and, exists_false, iff_false]
      exact Reader.pure_ne_error
  | succ count ih =>
      simp only [readEntries, Reader.bind_eq_error_iff, SocketAddress.readEntry_eq_error_iff, ih,
        Reader.pure_ne_error, and_false, exists_false, or_false]
      constructor
      · rintro (unreadable | ⟨first, middle, taken, passed, below, rest, walk, unreadable⟩)
        · exact ⟨0, Nat.succ_pos count, bytes, .here bytes, unreadable⟩
        · exact ⟨passed + 1, Nat.succ_lt_succ below, rest,
            walk_succ_iff.mpr ⟨first, middle, taken, walk⟩, unreadable⟩
      · rintro ⟨passed, below, rest, walk, unreadable⟩
        rcases passed with _ | passed
        · obtain rfl := walk_zero_iff.mp walk
          exact .inl unreadable
        · obtain ⟨first, middle, taken, onward⟩ := walk_succ_iff.mp walk
          exact .inr ⟨first, middle, taken, passed, Nat.lt_of_succ_lt_succ below, rest, onward,
            unreadable⟩

/-! ### Lists -/

/-- The count at the front of some bytes. -/
def countOf (bytes : Bytes) : Nat := Bytes.ofLittleEndian (bytes.take 4)

/-- **Why a list is refused**, in the order in which it is looked at. -/
inductive Refused (bytes : Bytes) : TokenError → Prop
  /-- There is no count. -/
  | countless (short : bytes.length < 4) : Refused bytes .truncated
  /-- The count is that of no list, whatever follows. -/
  | uncounted (there : 4 ≤ bytes.length) (wrong : countOf bytes = 0 ∨ 8 < countOf bytes) :
      Refused bytes (.addressCount (countOf bytes))
  /-- So many entries do not fit, were they all of IPv4, whatever their tags. -/
  | few (there : 4 ≤ bytes.length) (one_le : 1 ≤ countOf bytes) (le : countOf bytes ≤ 8)
      (short : (bytes.drop 4).length < 7 * countOf bytes) : Refused bytes .truncated
  /-- After some entries that can be read there is one that cannot. -/
  | entry {passed : Nat} {rest : Bytes} {e : TokenError} (there : 4 ≤ bytes.length)
      (one_le : 1 ≤ countOf bytes) (le : countOf bytes ≤ 8)
      (enough : 7 * countOf bytes ≤ (bytes.drop 4).length) (below : passed < countOf bytes)
      (walk : Walk passed (bytes.drop 4) rest) (unreadable : Unreadable rest e) :
      Refused bytes e

/-- The word of a count that is there is the number that its four bytes stand for. -/
theorem exists_uint32 (there : 4 ≤ bytes.length) :
    ∃ word : UInt32, word.toNat = countOf bytes ∧
      Reader.uint32 bytes = .ok (word, bytes.drop 4) := by
  have length : (bytes.take 4).length = 4 := by
    rw [List.length_take]
    omega
  have small : countOf bytes < UInt32.size := Bytes.ofLittleEndian_lt_of_length length
  refine ⟨Bytes.toUInt32 (bytes.take 4), UInt32.toNat_ofNat_of_lt' small, ?_⟩
  rw [Reader.uint32_eq_ok_iff, ← Bytes.eq_ofUInt32_iff.mpr ⟨length, rfl⟩,
    List.take_append_drop]

/-- Each cause of the list makes the reader fail with it: first the count, then what is left for
the entries, then the entries. -/
theorem read_of_refused (refused : Refused bytes e) : read bytes = .error e := by
  unfold read
  cases refused with
  | countless short =>
      exact Reader.bind_of_error (Reader.uint32_eq_error_iff.mpr ⟨short, rfl⟩) _
  | uncounted there wrong =>
      obtain ⟨word, value, taken⟩ := exists_uint32 there
      rw [← value] at wrong ⊢
      rw [Reader.bind_of_ok taken, dif_neg (by simp only [Size.maxServers]; omega)]
      rfl
  | few there one_le le short =>
      obtain ⟨word, value, taken⟩ := exists_uint32 there
      rw [← value] at one_le le short
      rw [Reader.bind_of_ok taken, dif_pos ⟨one_le, le⟩,
        Reader.bind_of_ok (Reader.get_eq_ok_iff.mpr ⟨rfl, rfl⟩),
        if_pos (by rw [Nat.mul_comm]; exact short)]
      rfl
  | entry there one_le le enough below walk unreadable =>
      obtain ⟨word, value, taken⟩ := exists_uint32 there
      rw [← value] at one_le le enough below
      rw [Reader.bind_of_ok taken, dif_pos ⟨one_le, le⟩,
        Reader.bind_of_ok (Reader.get_eq_ok_iff.mpr ⟨rfl, rfl⟩),
        if_neg (by rw [Nat.mul_comm]; exact Nat.not_lt.mpr enough)]
      exact Reader.bind_of_error
        (readEntries_eq_error_iff.mpr ⟨_, below, _, walk, unreadable⟩) _

/-- The reader fails for no cause but those of the list, which is the direction in which a check
could have been forgotten. -/
theorem refused_of_read (failed : read bytes = .error e) : Refused bytes e := by
  by_cases there : 4 ≤ bytes.length
  · obtain ⟨word, value, taken⟩ := exists_uint32 there
    rw [read, Reader.bind_of_ok taken] at failed
    dsimp only at failed
    split at failed
    · next counted =>
      rw [value] at counted
      rw [Reader.bind_of_ok (Reader.get_eq_ok_iff.mpr ⟨rfl, rfl⟩)] at failed
      split at failed
      · next short =>
        obtain rfl := Reader.throw_eq_error_iff.mp failed
        exact .few there counted.1 counted.2 (by rwa [value, Nat.mul_comm] at short)
      · next enough =>
        rw [Reader.bind_eq_error_iff] at failed
        rcases failed with refused | ⟨_, _, _, impossible⟩
        · obtain ⟨passed, below, rest, walk, unreadable⟩ := readEntries_eq_error_iff.mp refused
          rw [value] at below enough
          exact .entry there counted.1 counted.2 (by rwa [Nat.not_lt, Nat.mul_comm] at enough)
            below walk unreadable
        · cases impossible
    · next wrong =>
      obtain rfl := Reader.throw_eq_error_iff.mp failed
      rw [value] at wrong ⊢
      exact .uncounted there (by simp only [Size.maxServers] at wrong; omega)
  · rw [read, Reader.bind_of_error
      (Reader.uint32_eq_error_iff.mpr ⟨Nat.lt_of_not_le there, rfl⟩)] at failed
    cases failed
    exact .countless (Nat.lt_of_not_le there)

/-- **What refuses a list** is told by its count, its length and its tags.  Reading being a
function, a refused list has one cause. -/
theorem read_eq_error_iff : read bytes = .error e ↔ Refused bytes e :=
  ⟨refused_of_read, read_of_refused⟩

/-- Each entry that a walk goes past has seven bytes or nineteen, which bounds the walk by the
number of its entries. -/
theorem Walk.length_le (walk : Walk count bytes last) :
    7 * count + last.length ≤ bytes.length ∧ bytes.length ≤ 19 * count + last.length := by
  induction walk with
  | here => simp
  | @past _ size tag behind _ _ known whole _ ih =>
      have sizes := SocketAddress.size_eq_or_eq known
      simp only [List.length_cons, List.length_append] at whole ⊢
      omega

/-- The written form of a list: its count, and behind it the entries.  Bytes start with the form
exactly if they start with these two. -/
theorem eq_encode_append_iff {s : ServerAddresses} :
    bytes = s.encode ++ rest ↔
      4 ≤ bytes.length ∧ countOf bytes = s.toList.length ∧
        bytes.drop 4 = s.toList.flatMap SocketAddress.entry ++ rest := by
  have few : s.toList.length ≤ 8 := s.length_le
  have word : Bytes.ofUInt32 (UInt32.ofNat s.toList.length) =
      Bytes.littleEndian 4 s.toList.length := by
    rw [Bytes.ofUInt32, UInt32.toNat_ofNat_of_lt' (by rw [UInt32.size]; omega)]
  have fits : s.toList.length < 256 ^ 4 := by omega
  rw [encode, written, word, List.append_assoc]
  constructor
  · rintro rfl
    have length : (Bytes.littleEndian 4 s.toList.length).length = 4 := by simp
    refine ⟨by simp, ?_, List.drop_left' length⟩
    rw [countOf, List.take_left' length]
    exact ((Bytes.eq_littleEndian_iff fits).mp rfl).2
  · rintro ⟨there, count, behind⟩
    have length : (bytes.take 4).length = 4 := by
      rw [List.length_take]
      omega
    rw [← (Bytes.eq_littleEndian_iff fits).mpr ⟨length, count⟩, ← behind,
      List.take_append_drop]

/-- **The look at what is left refuses no list that the entries alone would give.**  It asks for
the least number of bytes that so many entries can take. -/
theorem read_eq_ok_iff_readEntries {s : ServerAddresses} :
    read bytes = .ok (s, rest) ↔
      4 ≤ bytes.length ∧ 1 ≤ countOf bytes ∧ countOf bytes ≤ 8 ∧
        ∃ entries, entries.val = s.toList ∧
          readEntries (countOf bytes) (bytes.drop 4) = .ok (entries, rest) := by
  rw [read_eq_ok_iff, eq_encode_append_iff]
  simp only [readEntries_eq_ok_iff]
  constructor
  · rintro ⟨isUnscoped, there, count, behind⟩
    have few : s.toList.length ≤ 8 := s.length_le
    exact ⟨there, count ▸ s.one_le_length, count ▸ few, ⟨s.toList, count.symm⟩, rfl,
      congrArg toList isUnscoped, behind⟩
  · rintro ⟨there, -, -, ⟨entries, length⟩, rfl, isUnscoped, behind⟩
    exact ⟨ServerAddresses.ext isUnscoped, there, length.symm, behind⟩

/-- Which bytes start with a list, and what is behind it, without mention of the list itself: a
count within its bounds, and a walk past so many entries. -/
theorem exists_read_iff :
    (∃ s, read bytes = .ok (s, last)) ↔
      4 ≤ bytes.length ∧ 1 ≤ countOf bytes ∧ countOf bytes ≤ 8 ∧
        Walk (countOf bytes) (bytes.drop 4) last := by
  rw [← exists_readEntries_iff]
  constructor
  · rintro ⟨s, taken⟩
    obtain ⟨there, one_le, le, entries, -, taken⟩ := read_eq_ok_iff_readEntries.mp taken
    exact ⟨there, one_le, le, entries, taken⟩
  · rintro ⟨there, one_le, le, entries, taken⟩
    exact ⟨⟨entries.val, entries.property.symm ▸ one_le, entries.property.symm ▸ le⟩,
      read_eq_ok_iff_readEntries.mpr ⟨there, one_le, le, entries, rfl, taken⟩⟩

/-! ### Decoding -/

/-- Decoding fails as reading does, since the number of bytes that it adds to the list is always
there. -/
theorem decode_eq_error_iff : decode bytes = .error e ↔ Refused bytes e := by
  rw [← read_eq_error_iff]
  refine ⟨fun failed => ?_, decode_of_read_eq_error⟩
  unfold decode at failed
  cases taken : read bytes with
  | error cause =>
      rw [taken] at failed
      cases failed
      rfl
  | ok p =>
      rw [taken] at failed
      cases failed

/-- What is decoded is what is read, with the number of the bytes in front of the rest. -/
theorem decode_of_read {s : ServerAddresses} (taken : read bytes = .ok (s, rest)) :
    decode bytes = .ok (s, bytes.length - rest.length) := by
  unfold decode
  rw [taken]
  rfl

/-- **All that the walk says of bytes that are to be decoded.** -/
structure ToldByWalk (bytes : Bytes) : Prop where
  refused : ∀ e, decode bytes = .error e ↔ Refused bytes e
  decoded : (∃ s n, decode bytes = .ok (s, n)) ↔
    4 ≤ bytes.length ∧ 1 ≤ countOf bytes ∧ countOf bytes ≤ 8 ∧
      ∃ rest, Walk (countOf bytes) (bytes.drop 4) rest
  /-- No entry is left out, and nothing is read behind the last one. -/
  all_read : ∀ s n, decode bytes = .ok (s, n) →
    s.toList.length = countOf bytes ∧ Walk (countOf bytes) (bytes.drop 4) (bytes.drop n)
  /-- Where the entries can be read, there are bytes enough for the first look at them, and so
  nothing else is decoded than they are. -/
  harmless : 4 ≤ bytes.length → 1 ≤ countOf bytes → countOf bytes ≤ 8 →
    ∀ entries rest, readEntries (countOf bytes) (bytes.drop 4) = .ok (entries, rest) →
      7 * countOf bytes ≤ (bytes.drop 4).length ∧
        ∃ s : ServerAddresses, s.toList = entries.val ∧
          decode bytes = .ok (s, bytes.length - rest.length)

/-- **What is decoded, and what is refused and why**, for all bytes.  The walk tells both, and of
several causes it tells the one that counts. -/
theorem decode_told (bytes : Bytes) : ToldByWalk bytes where
  refused := fun _ => decode_eq_error_iff
  decoded := by
    constructor
    · rintro ⟨s, n, decoded⟩
      obtain ⟨isUnscoped, -, rest, rfl⟩ := decode_eq_ok_iff.mp decoded
      obtain ⟨there, one_le, le, walk⟩ :=
        exists_read_iff.mp ⟨s, read_eq_ok_iff.mpr ⟨isUnscoped, rfl⟩⟩
      exact ⟨there, one_le, le, rest, walk⟩
    · rintro ⟨there, one_le, le, rest, walk⟩
      obtain ⟨s, taken⟩ := exists_read_iff.mpr ⟨there, one_le, le, walk⟩
      exact ⟨s, _, decode_of_read taken⟩
  all_read := by
    intro s n decoded
    obtain ⟨isUnscoped, rfl, rest, rfl⟩ := decode_eq_ok_iff.mp decoded
    have taken : read (s.encode ++ rest) = .ok (s, rest) := read_eq_ok_iff.mpr ⟨isUnscoped, rfl⟩
    obtain ⟨-, -, -, walk⟩ := exists_read_iff.mp ⟨s, taken⟩
    refine ⟨(eq_encode_append_iff.mp rfl).2.1.symm, ?_⟩
    rwa [List.drop_left' (length_encode s)]
  harmless := by
    intro there one_le le entries rest taken
    have walk := exists_readEntries_iff.mp ⟨entries, taken⟩
    refine ⟨Nat.le_trans (Nat.le_add_right ..) walk.length_le.1,
      ⟨entries.val, entries.property.symm ▸ one_le, entries.property.symm ▸ le⟩, rfl, ?_⟩
    exact decode_of_read
      (read_eq_ok_iff_readEntries.mpr ⟨there, one_le, le, entries, rfl, taken⟩)

/-- Two entries that start with an unknown tag: with a byte less than two IPv4 entries have, it
is bytes that are missing. -/
example :
    decode [2, 0, 0, 0, 9, 0, 0, 0, 0, 0, 0, 0, 0, 0, 0, 0, 0] = .error .truncated ∧
      decode [2, 0, 0, 0, 9, 0, 0, 0, 0, 0, 0, 0, 0, 0, 0, 0, 0, 0] =
        .error (.addressKind 9) := by
  decide

end ServerAddresses

end ConnectTokens
