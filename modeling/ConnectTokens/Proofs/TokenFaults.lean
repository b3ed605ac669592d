import ConnectTokens.Proofs.AddressFaults

/-!
# Why a token is refused

Bytes that are to be a token are looked at in five steps: their length, the version tag, the count
of the addresses, the tags of the address entries, and the zeros at the end.  The first step that
finds a fault gives the cause.  What is never found is that bytes are missing, since every trailer
has room, and what is never looked at is a value: of the fields between the version tag and the
trailer, and of the session keys.

## Main Definitions

* `ServerAddresses.Flawed`: what is wrong with a list that has all its bytes.
* `Token.Begins`, `Token.EndsWith`: the two ends of bytes that pass for a token so far.
* `Token.Refused`: the causes, each with what it takes.
* `Token.SameButValues`: byte strings that differ in values only.
* `Token.Judged`: all that there is to say of the outcome of reading.

## Main Statements

* `ServerAddresses.refused_iff_flawed`: with room enough no bytes are missing.
* `Token.readTrailer_eq_error_iff`, `Token.exists_readTrailer_iff`: trailers.
* `Token.parse_eq_error_iff`, `Token.exists_parse_iff`: tokens.
* `Token.SameButValues.refused`: values are no reason.
* `Token.parse_judged`: all of it, for all bytes.

## Design Notes

A trailer is long enough for eight IPv6 addresses and both keys under either scheme
(`Layout.maxTrailer_le_capacity`).  Everything else about room follows from that and from the
length of a walk.
-/

namespace ConnectTokens

namespace ServerAddresses

variable {bytes last : Bytes} {e : TokenError}

/-- **What is wrong with a list that has all its bytes**: its count, or the tag of an entry. -/
inductive Flawed (bytes : Bytes) : TokenError → Prop
  | count (wrong : countOf bytes = 0 ∨ 8 < countOf bytes) :
      Flawed bytes (.addressCount (countOf bytes))
  /-- The first entry whose tag is that of no entry. -/
  | tag {passed : Nat} {tag : UInt8} {behind : Bytes} (one_le : 1 ≤ countOf bytes)
      (le : countOf bytes ≤ 8) (below : passed < countOf bytes)
      (walk : Walk passed (bytes.drop 4) (tag :: behind))
      (unknown : SocketAddress.sizeOfTag? tag = none) : Flawed bytes (.addressKind tag)

/-- **Where there is room for any list, no bytes are missing.**  What is left of the causes is a
wrong count and an unknown tag. -/
theorem refused_iff_flawed (room : maxEncodedSize ≤ bytes.length) :
    Refused bytes e ↔ Flawed bytes e := by
  have room : 156 ≤ bytes.length := room
  constructor
  · intro refused
    cases refused with
    | countless short => omega
    | uncounted _ wrong => exact .count wrong
    | few _ _ le short =>
        rw [List.length_drop] at short
        omega
    | entry _ one_le le _ below walk unreadable =>
        -- At most seven entries are passed, so there is room for any other.
        have left := walk.length_le.2
        rw [List.length_drop] at left
        cases unreadable with
        | tagless =>
            rw [List.length_nil] at left
            omega
        | cut known short =>
            have sizes := SocketAddress.size_eq_or_eq known
            omega
        | unknown unknown => exact .tag one_le le below walk unknown
  · intro flawed
    cases flawed with
    | count wrong => exact .uncounted (by omega) wrong
    | tag one_le le below walk unknown =>
        exact .entry (by omega) one_le le (by rw [List.length_drop]; omega) below walk
          (.unknown unknown)

end ServerAddresses

namespace Token

open ServerAddresses (countOf Walk Flawed)

section

variable {bytes middle rest : Bytes} {e : TokenError}

/-! ### Trailers -/

/-- Both session keys at the front, whatever they are: any 64 bytes are two keys. -/
theorem exists_keys_iff :
    (∃ clientToServer serverToClient : Block Size.key,
        middle = clientToServer.toList ++ (serverToClient.toList ++ rest)) ↔
      64 ≤ middle.length ∧ rest = middle.drop 64 := by
  constructor
  · rintro ⟨clientToServer, serverToClient, rfl⟩
    have length : (clientToServer.toList ++ serverToClient.toList).length = 64 := by
      simp [Size.key]
    rw [← List.append_assoc, List.drop_left' length, List.length_append, length]
    exact ⟨Nat.le_add_right .., rfl⟩
  · rintro ⟨enough, rfl⟩
    refine ⟨⟨middle.take 32, by rw [List.length_take, Size.key]; omega⟩,
      ⟨(middle.drop 32).take 32, by rw [List.length_take, List.length_drop, Size.key]; omega⟩, ?_⟩
    show middle = middle.take 32 ++ ((middle.drop 32).take 32 ++ middle.drop (32 + 32))
    rw [← List.drop_drop, List.take_append_drop, List.take_append_drop]

/-- A trailer is a list and the two keys behind it, and what is behind them is left to the
padding. -/
theorem exists_readTrailer_iff :
    (∃ fields, readTrailer bytes = .ok (fields, rest)) ↔
      ∃ middle, (∃ servers, ServerAddresses.read bytes = .ok (servers, middle)) ∧
        64 ≤ middle.length ∧ rest = middle.drop 64 := by
  simp only [readTrailer, Reader.bind_eq_ok_iff, Reader.block_eq_ok_iff, Reader.pure_eq_ok_iff,
    ← exists_keys_iff]
  constructor
  · rintro ⟨_, servers, middle, taken, clientToServer, _, rfl, serverToClient, _, rfl, rfl, rfl⟩
    exact ⟨_, ⟨servers, taken⟩, clientToServer, serverToClient, rfl⟩
  · rintro ⟨_, ⟨servers, taken⟩, clientToServer, serverToClient, rfl⟩
    exact ⟨_, servers, _, taken, clientToServer, _, rfl, serverToClient, _, rfl, rfl, rfl⟩

/-- Behind a list that is read there is room for both keys, for there was room for the longest
list. -/
theorem length_of_read_of_room {servers : ServerAddresses}
    (room : ServerAddresses.maxEncodedSize + 2 * Size.key ≤ bytes.length)
    (taken : ServerAddresses.read bytes = .ok (servers, middle)) : 64 ≤ middle.length := by
  obtain ⟨-, rfl⟩ := ServerAddresses.read_eq_ok_iff.mp taken
  have size := servers.encodedSize_le
  rw [List.length_append, ServerAddresses.length_encode, Size.key] at room
  omega

/-- With room for any trailer, only the list can be the reason to refuse one, so that the keys
need not be looked at. -/
theorem readTrailer_eq_error_iff
    (room : ServerAddresses.maxEncodedSize + 2 * Size.key ≤ bytes.length) :
    readTrailer bytes = .error e ↔ Flawed bytes e := by
  rw [← ServerAddresses.refused_iff_flawed (Nat.le_trans (Nat.le_add_right ..) room),
    ← ServerAddresses.read_eq_error_iff]
  simp only [readTrailer, Reader.bind_eq_error_iff, Reader.block_eq_error_iff,
    Reader.block_eq_ok_iff, Reader.pure_ne_error, and_false, exists_false, or_false]
  constructor
  · rintro (refused | ⟨servers, middle, taken, keyless⟩)
    · exact refused
    · have enough := length_of_read_of_room room taken
      rcases keyless with ⟨short, -⟩ | ⟨clientToServer, rest, rfl, short, -⟩
      · rw [Size.key] at short
        omega
      · rw [List.length_append, clientToServer.length_toList] at enough
        rw [Size.key] at short enough
        omega
  · exact .inl

end

/-- What stands behind the fields of fixed size, in a token of a scheme. -/
def trailerOf (s : Scheme) (bytes : Bytes) : Bytes := bytes.drop (Layout.of s).trailerOffset

/-- Bytes of the right size that start with the version tag of a scheme. -/
structure Begins (s : Scheme) (bytes : Bytes) : Prop where
  length : bytes.length = 2048
  version : bytes.take 13 = s.versionTag.toList

/-- What is behind the addresses and both session keys, in bytes that start as a token does. -/
structure EndsWith (s : Scheme) (bytes behind : Bytes) : Prop where
  begins : Begins s bytes
  one_le : 1 ≤ countOf (trailerOf s bytes)
  le : countOf (trailerOf s bytes) ≤ 8
  walk : ∃ rest, Walk (countOf (trailerOf s bytes)) ((trailerOf s bytes).drop 4) rest ∧
    behind = rest.drop 64

/-- **Why bytes are no token**, in the order in which they are looked at. -/
inductive Refused (bytes : Bytes) : TokenError → Prop
  | length (wrong : bytes.length ≠ 2048) : Refused bytes (.malformed (.length bytes.length))
  | version (length : bytes.length = 2048)
      (unknown : ∀ s : Scheme, bytes.take 13 ≠ s.versionTag.toList) :
      Refused bytes (.malformed .version)
  | addresses {s : Scheme} {e : TokenError} (begins : Begins s bytes)
      (flawed : Flawed (trailerOf s bytes) e) : Refused bytes e
  | padding {s : Scheme} {behind : Bytes} (ends : EndsWith s bytes behind)
      (dirty : ∃ b ∈ behind, b ≠ 0) : Refused bytes (.malformed .padding)

variable {bytes : Bytes} {s : Scheme} {e : TokenError}

/-- Bytes of the size of a token have room for any trailer, under either scheme. -/
theorem room_of_length (length : bytes.length = 2048) :
    ServerAddresses.maxEncodedSize + 2 * Size.key ≤ (trailerOf s bytes).length := by
  rw [trailerOf, List.length_drop, length]
  exact Layout.maxTrailer_le_capacity s

/-- A trailer is read in front of what is behind it, and the rest of the reading is told by that
alone. -/
theorem endsWith_iff (begins : Begins s bytes) {behind : Bytes} :
    EndsWith s bytes behind ↔
      ∃ fields, readTrailer (trailerOf s bytes) = .ok (fields, behind) := by
  have room := room_of_length (s := s) begins.length
  have there : 4 ≤ (trailerOf s bytes).length := Nat.le_trans (by decide) room
  rw [exists_readTrailer_iff]
  constructor
  · rintro ⟨-, one_le, le, middle, walk, rfl⟩
    obtain ⟨servers, taken⟩ := ServerAddresses.exists_read_iff.mpr ⟨there, one_le, le, walk⟩
    exact ⟨middle, ⟨servers, taken⟩, length_of_read_of_room room taken, rfl⟩
  · rintro ⟨middle, read, -, rfl⟩
    obtain ⟨-, one_le, le, walk⟩ := ServerAddresses.exists_read_iff.mp read
    exact ⟨begins, one_le, le, middle, walk, rfl⟩

/-! ### Under a known version tag -/

theorem ofBytes_of_error (failed : readTrailer (trailerOf s bytes) = .error e) :
    ofBytes s bytes = .error e := by
  rw [trailerOf] at failed
  simp only [ofBytes, failed]

section

variable {fields : ServerAddresses × Block Size.key × Block Size.key} {rest : Bytes}

/-- Behind a trailer that is read, a byte that is not zero is a fault of the padding, wherever it
is. -/
theorem ofBytes_of_dirty (taken : readTrailer (trailerOf s bytes) = .ok (fields, rest))
    (dirty : ∃ b ∈ rest, b ≠ 0) : ofBytes s bytes = .error (.malformed .padding) := by
  have notAll : ¬ rest.all (· == 0) = true := by simpa using dirty
  rw [trailerOf] at taken
  simp only [ofBytes, taken, if_neg notAll]

theorem exists_ofBytes_of_clean (taken : readTrailer (trailerOf s bytes) = .ok (fields, rest))
    (clean : ∀ b ∈ rest, b = 0) : ∃ t, ofBytes s bytes = .ok t := by
  have all : rest.all (· == 0) = true := by simpa using clean
  rw [trailerOf] at taken
  simp only [ofBytes, taken, if_pos all]
  exact ⟨_, rfl⟩

end

/-! ### All bytes -/

theorem parse_of_length_ne (wrong : bytes.length ≠ 2048) :
    parse bytes = .error (.malformed (.length bytes.length)) :=
  if_pos wrong

/-- Bytes of the right size that start with neither version tag are refused for that, whatever
else is in them. -/
theorem parse_of_unknown (length : bytes.length = 2048)
    (unknown : ∀ s : Scheme, bytes.take 13 ≠ s.versionTag.toList) :
    parse bytes = .error (.malformed .version) := by
  have noScheme : Scheme.ofVersionTag? (bytes.take Size.version) = none := by
    refine Option.eq_none_iff_forall_ne_some.mpr fun s known => unknown s ?_
    exact Scheme.ofVersionTag?_eq_some_iff.mp known
  rw [parse, if_neg (not_not.mpr (show bytes.length = Size.token from length)), noScheme]

theorem parse_of_begins (begins : Begins s bytes) : parse bytes = ofBytes s bytes := by
  have known : Scheme.ofVersionTag? (bytes.take Size.version) = some s :=
    Scheme.ofVersionTag?_eq_some_iff.mpr begins.version
  have length : bytes.length = Size.token := begins.length
  rw [parse, if_neg (not_not.mpr length), known]

/-- Bytes have the wrong size, or neither version tag, or they begin as tokens of one scheme do.
The reader goes by these three cases. -/
theorem length_ne_or_unknown_or_begins (bytes : Bytes) :
    bytes.length ≠ 2048 ∨
      (bytes.length = 2048 ∧ ∀ s : Scheme, bytes.take 13 ≠ s.versionTag.toList) ∨
      ∃ s, Begins s bytes := by
  by_cases length : bytes.length = 2048
  · by_cases known : ∃ s : Scheme, bytes.take 13 = s.versionTag.toList
    · obtain ⟨s, version⟩ := known
      exact .inr (.inr ⟨s, length, version⟩)
    · exact .inr (.inl ⟨length, not_exists.mp known⟩)
  · exact .inl length

/-- Each cause of the list makes the reader fail with it, in the order size, version, list and
padding. -/
theorem parse_of_refused (refused : Refused bytes e) : parse bytes = .error e := by
  cases refused with
  | length wrong => exact parse_of_length_ne wrong
  | version length unknown => exact parse_of_unknown length unknown
  | addresses begins flawed =>
      rw [parse_of_begins begins]
      exact ofBytes_of_error
        ((readTrailer_eq_error_iff (room_of_length begins.length)).mpr flawed)
  | padding ends dirty =>
      obtain ⟨fields, taken⟩ := (endsWith_iff ends.begins).mp ends
      rw [parse_of_begins ends.begins]
      exact ofBytes_of_dirty taken dirty

/-- The reader fails for no cause but those of the list.  In particular it is never for want of
bytes. -/
theorem refused_of_parse (failed : parse bytes = .error e) : Refused bytes e := by
  rcases length_ne_or_unknown_or_begins bytes with wrong | ⟨length, unknown⟩ | ⟨s, begins⟩
  · cases (parse_of_length_ne wrong).symm.trans failed
    exact .length wrong
  · cases (parse_of_unknown length unknown).symm.trans failed
    exact .version length unknown
  · rw [parse_of_begins begins] at failed
    cases taken : readTrailer (trailerOf s bytes) with
    | error cause =>
        cases (ofBytes_of_error taken).symm.trans failed
        exact .addresses begins
          ((readTrailer_eq_error_iff (room_of_length begins.length)).mp taken)
    | ok p =>
        obtain ⟨fields, behind⟩ := p
        by_cases clean : ∀ b ∈ behind, b = 0
        · obtain ⟨t, accepted⟩ := exists_ofBytes_of_clean taken clean
          cases accepted.symm.trans failed
        · have dirty : ∃ b ∈ behind, b ≠ 0 := by simpa using clean
          cases (ofBytes_of_dirty taken dirty).symm.trans failed
          exact .padding ((endsWith_iff begins).mpr ⟨fields, taken⟩) dirty

theorem parse_eq_error_iff : parse bytes = .error e ↔ Refused bytes e :=
  ⟨refused_of_parse, parse_of_refused⟩

/-- **Which bytes are accepted**: those of a token with zeros behind its session keys. -/
theorem exists_parse_iff :
    (∃ t, parse bytes = .ok t) ↔
      ∃ s behind, EndsWith s bytes behind ∧ ∀ b ∈ behind, b = 0 := by
  constructor
  · rintro ⟨t, accepted⟩
    rcases length_ne_or_unknown_or_begins bytes with wrong | ⟨length, unknown⟩ | ⟨s, begins⟩
    · cases (parse_of_length_ne wrong).symm.trans accepted
    · cases (parse_of_unknown length unknown).symm.trans accepted
    · rw [parse_of_begins begins] at accepted
      obtain ⟨rfl, -, behind, taken, clean⟩ := ofBytes_eq_ok_iff.mp accepted
      exact ⟨_, behind, (endsWith_iff begins).mpr ⟨_, taken⟩, by simpa using clean⟩
  · rintro ⟨s, behind, ends, clean⟩
    obtain ⟨fields, taken⟩ := (endsWith_iff ends.begins).mp ends
    rw [parse_of_begins ends.begins]
    exact exists_ofBytes_of_clean taken clean

/-! ### Values -/

/-- Two trailers that differ in session keys only, if there are any. -/
inductive SameButKeys : Bytes → Bytes → Prop
  | same (trailer : Bytes) : SameButKeys trailer trailer
  | keys (servers : ServerAddresses)
      (clientToServer serverToClient clientToServer' serverToClient' : Block Size.key)
      (behind : Bytes) :
      SameButKeys
        (servers.encode ++ clientToServer.toList ++ serverToClient.toList ++ behind)
        (servers.encode ++ clientToServer'.toList ++ serverToClient'.toList ++ behind)

/-- **Two byte strings that differ in values only**: those of the fields between the version tag
and the trailer, and those of the session keys. -/
structure SameButValues (bytes other : Bytes) : Prop where
  length : other.length = bytes.length
  version : other.take 13 = bytes.take 13
  trailer : ∀ s : Scheme, bytes.take 13 = s.versionTag.toList →
    SameButKeys (trailerOf s bytes) (trailerOf s other)

theorem SameButKeys.symm {trailer other : Bytes} (same : SameButKeys trailer other) :
    SameButKeys other trailer := by
  cases same with
  | same => exact .same _
  | keys => exact .keys ..

/-- Of the keys themselves nothing is asked, so that trailers which differ in them are read or
refused alike. -/
theorem SameButKeys.readTrailer {trailer other : Bytes} (same : SameButKeys trailer other) :
    (∀ e, readTrailer trailer = .error e → readTrailer other = .error e) ∧
      ∀ behind, (∃ fields, readTrailer trailer = .ok (fields, behind)) →
        ∃ fields, readTrailer other = .ok (fields, behind) := by
  cases same with
  | same => exact ⟨fun _ => id, fun _ => id⟩
  | keys servers c d c' d' behind =>
      have taken (c d : Block Size.key) :
          Token.readTrailer (servers.encode ++ c.toList ++ d.toList ++ behind) =
            .ok ((servers.unscoped, c, d), behind) :=
        readTrailer_eq_ok_iff.mpr ⟨servers.unscoped_unscoped, by simp⟩
      rw [taken c d, taken c' d']
      constructor
      · rintro e ⟨⟩
      · rintro _ ⟨fields, ⟨⟩⟩
        exact ⟨_, rfl⟩

namespace SameButValues

variable {other : Bytes}

theorem symm (same : SameButValues bytes other) : SameButValues other bytes where
  length := same.length.symm
  version := same.version.symm
  trailer := fun s version => (same.trailer s (same.version ▸ version)).symm

theorem begins (same : SameButValues bytes other) (begins : Begins s bytes) : Begins s other where
  length := same.length.trans begins.length
  version := same.version.trans begins.version

/-- Values can change without moving what is behind the trailer, since the list keeps its entries
and their tags. -/
theorem endsWith (same : SameButValues bytes other) {behind : Bytes}
    (ends : EndsWith s bytes behind) : EndsWith s other behind := by
  have read := (endsWith_iff ends.begins).mp ends
  exact (endsWith_iff (same.begins ends.begins)).mpr
    ((same.trailer s ends.begins.version).readTrailer.2 behind read)

/-- **No value is a reason to refuse a token.**  Only the size, the tags, the count of the list
and the padding can be one. -/
theorem refused (same : SameButValues bytes other) (refused : Refused bytes e) :
    Refused other e := by
  cases refused with
  | length wrong =>
      rw [← same.length] at wrong ⊢
      exact .length wrong
  | version length unknown =>
      exact .version (same.length.trans length) fun s => same.version ▸ unknown s
  | @addresses s _ begins flawed =>
      have failed := (readTrailer_eq_error_iff (room_of_length begins.length)).mpr flawed
      have begins' := same.begins begins
      exact .addresses begins' ((readTrailer_eq_error_iff (room_of_length begins'.length)).mp
        ((same.trailer s begins.version).readTrailer.1 _ failed))
  | padding ends dirty => exact .padding (same.endsWith ends) dirty

end SameButValues

/-! ### The outcome of reading -/

/-- **All that there is to say of the outcome of reading some bytes.** -/
structure Judged (bytes : Bytes) : Prop where
  refused : ∀ e, parse bytes = .error e ↔ Refused bytes e
  accepted : (∃ t, parse bytes = .ok t) ↔
    ∃ s behind, EndsWith s bytes behind ∧ ∀ b ∈ behind, b = 0
  /-- There is room for all that a trailer can be, so no bytes are ever missing. -/
  never_truncated : parse bytes ≠ .error .truncated
  /-- No value decides whether bytes are accepted, nor for which cause they are refused. -/
  values : ∀ other, SameButValues bytes other →
    ((∃ t, parse other = .ok t) ↔ ∃ t, parse bytes = .ok t) ∧
      ∀ e, parse other = .error e ↔ parse bytes = .error e

/-- **What is accepted as a token, and what is refused and why**, for all bytes.  Of several
causes it is the first one in the order of the reading. -/
theorem parse_judged (bytes : Bytes) : Judged bytes where
  refused := fun _ => parse_eq_error_iff
  accepted := exists_parse_iff
  never_truncated := by
    intro failed
    cases parse_eq_error_iff.mp failed with
    | addresses _ flawed => cases flawed
  values := by
    intro other same
    simp only [parse_eq_error_iff, exists_parse_iff]
    constructor
    · constructor
      · rintro ⟨s, behind, ends, clean⟩
        exact ⟨s, behind, same.symm.endsWith ends, clean⟩
      · rintro ⟨s, behind, ends, clean⟩
        exact ⟨s, behind, same.endsWith ends, clean⟩
    · intro e
      exact ⟨same.symm.refused, same.refused⟩

/-- A count of nine goes before all that is not zero behind it. -/
example :
    parse (Scheme.extended.versionTag.toList ++ List.replicate 1076 0 ++ [9, 0, 0, 0] ++
      List.replicate 955 1) = .error (.addressCount 9) := by
  decide +kernel

end Token

end ConnectTokens
