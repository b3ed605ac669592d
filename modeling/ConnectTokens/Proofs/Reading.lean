import ConnectTokens.PrivateToken
import ConnectTokens.Proofs.Words

/-!
# What a reader takes

A reader gives a value and a rest exactly when its bytes are the written form of
that value, followed by that rest.  So each reader below inverts its writer, and
takes nothing else.

## Main Statements

* `Reader.bind_eq_ok_iff`: two readers in a row.
* `Reader.uint64_eq_ok_iff` and its companions: blocks and words.
* `SocketAddress.readEntry_eq_ok_iff`, `ServerAddresses.read_eq_ok_iff`: address
  lists.
* `PrivateToken.read_eq_ok_iff`: the private part of a token.

## Design Notes

The written form of an IPv6 address has no flow information and no scope.  What
is read is therefore unscoped, and the written form of a list is that of the
unscoped list (`ServerAddresses.encode_unscoped`).
-/

namespace ConnectTokens

namespace Reader

variable {α β : Type} {bytes rest : Bytes}

/-- A reader followed by another one takes the two written forms in their order: the second one
starts where the first one stopped, and sees nothing in front of that. -/
theorem bind_eq_ok_iff {read : Reader α} {next : α → Reader β} {b : β} :
    (read >>= next) bytes = .ok (b, rest) ↔
      ∃ a middle, read bytes = .ok (a, middle) ∧ next a middle = .ok (b, rest) := by
  show (read bytes >>= fun p => next p.1 p.2) = .ok (b, rest) ↔ _
  cases read bytes with
  | error e => simp [bind, Except.bind]
  | ok p =>
      constructor
      · intro h
        exact ⟨p.1, p.2, rfl, h⟩
      · rintro ⟨_, _, h, continued⟩
        cases h
        exact continued

theorem pure_eq_ok_iff {a b : α} :
    (pure a : Reader α) bytes = .ok (b, rest) ↔ a = b ∧ bytes = rest := by
  show (Except.ok (a, bytes) : Except TokenError (α × Bytes)) = .ok (b, rest) ↔ _
  simp

theorem get_eq_ok_iff {whole : Bytes} :
    (get : Reader Bytes) bytes = .ok (whole, rest) ↔ bytes = whole ∧ bytes = rest := by
  show (Except.ok (bytes, bytes) : Except TokenError (Bytes × Bytes)) = .ok (whole, rest) ↔ _
  simp

theorem throw_ne_ok {e : TokenError} {a : α} :
    (throw e : Reader α) bytes ≠ .ok (a, rest) := by
  show (Except.error e : Except TokenError (α × Bytes)) ≠ .ok (a, rest)
  simp

/-- A block is read exactly where its bytes are the front.  Fewer bytes than its size give none.
-/
theorem block_eq_ok_iff {size : Nat} {b : Block size} :
    block size bytes = .ok (b, rest) ↔ bytes = b.toList ++ rest := by
  constructor
  · intro h
    unfold block at h
    split at h
    · cases h
      exact (List.take_append_drop size bytes).symm
    · cases h
  · rintro rfl
    exact block_append b rest

theorem uint8_eq_ok_iff {b : UInt8} :
    uint8 bytes = .ok (b, rest) ↔ bytes = b :: rest := by
  cases bytes <;> simp [uint8]

/-- Reading a value of fixed size through its block, for a written form of that size from which
the value reads back.  The readers of all words are instances of it. -/
theorem word_eq_ok_iff {size : Nat} {ofBytes : Bytes → α} {toBytes : α → Bytes} {a : α}
    (inverse : ∀ bytes, bytes = toBytes a ↔ bytes.length = size ∧ ofBytes bytes = a) :
    (do return ofBytes (← block size).toList : Reader α) bytes = .ok (a, rest) ↔
      bytes = toBytes a ++ rest := by
  simp only [bind_eq_ok_iff, block_eq_ok_iff, pure_eq_ok_iff]
  constructor
  · rintro ⟨b, _, rfl, value, rfl⟩
    rw [(inverse b.toList).mpr ⟨b.length_toList, value⟩]
  · rintro rfl
    obtain ⟨length, value⟩ := (inverse (toBytes a)).mp rfl
    exact ⟨⟨toBytes a, length⟩, rest, rfl, value, rfl⟩

theorem uint16_eq_ok_iff {x : UInt16} :
    uint16 bytes = .ok (x, rest) ↔ bytes = Bytes.ofUInt16 x ++ rest :=
  word_eq_ok_iff fun _ => Bytes.eq_ofUInt16_iff

theorem uint32_eq_ok_iff {x : UInt32} :
    uint32 bytes = .ok (x, rest) ↔ bytes = Bytes.ofUInt32 x ++ rest :=
  word_eq_ok_iff fun _ => Bytes.eq_ofUInt32_iff

theorem int32_eq_ok_iff {x : Int32} :
    int32 bytes = .ok (x, rest) ↔ bytes = Bytes.ofInt32 x ++ rest :=
  word_eq_ok_iff fun _ => Bytes.eq_ofInt32_iff

theorem uint64_eq_ok_iff {x : UInt64} :
    uint64 bytes = .ok (x, rest) ↔ bytes = Bytes.ofUInt64 x ++ rest :=
  word_eq_ok_iff fun _ => Bytes.eq_ofUInt64_iff

end Reader

namespace SocketAddress

/-- Flow information and scope are not written, so an address and its unscoped form have one
entry. -/
@[simp] theorem entry_unscoped (a : SocketAddress) : a.unscoped.entry = a.entry := by
  cases a <;> rfl

/-- What follows the tag of an entry: the host and the number of the service, whatever kind of
address is made of them. -/
theorem host_eq_ok_iff {size : Nat} (make : Block size → UInt16 → SocketAddress)
    {bytes rest : Bytes} {a : SocketAddress} :
    (do return make (← Reader.block size) (← Reader.uint16) : Reader SocketAddress) bytes =
        .ok (a, rest) ↔
      ∃ octets portNumber, make octets portNumber = a ∧
        bytes = octets.toList ++ Bytes.ofUInt16 portNumber ++ rest := by
  simp only [Reader.bind_eq_ok_iff, Reader.block_eq_ok_iff, Reader.uint16_eq_ok_iff,
    Reader.pure_eq_ok_iff]
  constructor
  · rintro ⟨octets, _, rfl, portNumber, _, rfl, made, rfl⟩
    exact ⟨octets, portNumber, made, (List.append_assoc ..).symm⟩
  · rintro ⟨octets, portNumber, made, rfl⟩
    exact ⟨octets, _, List.append_assoc .., portNumber, rest, rfl, made, rfl⟩

/-- An entry is read exactly where an unscoped address is written.  The tag settles which kind it
is, so no two addresses share an entry. -/
theorem readEntry_eq_ok_iff {bytes rest : Bytes} {a : SocketAddress} :
    readEntry bytes = .ok (a, rest) ↔ a.unscoped = a ∧ bytes = a.entry ++ rest := by
  simp only [readEntry, Reader.bind_eq_ok_iff, Reader.uint8_eq_ok_iff]
  constructor
  · rintro ⟨kind, _, rfl, h⟩
    split at h
    · next isV4 =>
      obtain ⟨octets, portNumber, rfl, rfl⟩ := (host_eq_ok_iff v4).mp h
      exact ⟨rfl, by rw [isV4]; rfl⟩
    · split at h
      · next isV6 =>
        obtain ⟨octets, portNumber, rfl, rfl⟩ := (host_eq_ok_iff fun o p => v6 o p 0 0).mp h
        exact ⟨rfl, by rw [isV6]; rfl⟩
      · exact absurd h Reader.throw_ne_ok
  · rintro ⟨isUnscoped, rfl⟩
    -- What is not written of an IPv6 address is zero, since it is unscoped.
    refine ⟨a.tag, a.octets ++ Bytes.ofUInt16 a.portNumber ++ rest, rfl, ?_⟩
    cases a with
    | v4 octets portNumber =>
        exact (host_eq_ok_iff v4).mpr ⟨octets, portNumber, rfl, rfl⟩
    | v6 octets portNumber flow scope =>
        exact (host_eq_ok_iff fun o p => v6 o p 0 0).mpr ⟨octets, portNumber, isUnscoped, rfl⟩

end SocketAddress

namespace ServerAddresses

/-- The entries are read exactly where unscoped addresses are written, one behind the other and as
many as were told. -/
theorem readEntries_eq_ok_iff {bytes rest : Bytes} {count : Nat}
    {entries : { entries : List SocketAddress // entries.length = count }} :
    readEntries count bytes = .ok (entries, rest) ↔
      entries.val.map SocketAddress.unscoped = entries.val ∧
        bytes = entries.val.flatMap SocketAddress.entry ++ rest := by
  -- On the count, with the bytes free: the rest of one entry is where the next begins.
  induction count generalizing bytes rest with
  | zero =>
      obtain ⟨entries, isEmpty⟩ := entries
      obtain rfl := List.eq_nil_of_length_eq_zero isEmpty
      simp [readEntries, Reader.pure_eq_ok_iff]
  | succ count ih =>
      simp only [readEntries, Reader.bind_eq_ok_iff, SocketAddress.readEntry_eq_ok_iff, ih,
        Reader.pure_eq_ok_iff]
      constructor
      · rintro ⟨first, _, ⟨firstUnscoped, rfl⟩, others, _, ⟨othersUnscoped, rfl⟩, rfl, rfl⟩
        simp [firstUnscoped, othersUnscoped]
      · rintro ⟨allUnscoped, rfl⟩
        obtain ⟨entries, length⟩ := entries
        cases entries with
        | nil => cases length
        | cons first others =>
            simp only [List.map_cons, List.cons.injEq] at allUnscoped
            exact ⟨first, _, ⟨allUnscoped.1, List.append_assoc ..⟩,
              ⟨others, Nat.succ.inj length⟩, rest, ⟨allUnscoped.2, rfl⟩, rfl, rfl⟩

/-- Flow information and scopes are not written, so a list and its unscoped form have one
encoding. -/
@[simp] theorem encode_unscoped (s : ServerAddresses) : s.unscoped.encode = s.encode := by
  simp [encode, written, unscoped, List.flatMap_map]

/-- What a list has once lost it cannot lose again: the unscoped form is a normal form. -/
@[simp] theorem unscoped_unscoped (s : ServerAddresses) : s.unscoped.unscoped = s.unscoped := by
  ext1
  simp [unscoped]

/-- Each entry takes at least as much as an IPv4 entry.  So a list that is there has the bytes
that the early check of the reader asks for. -/
theorem length_mul_v4EntrySize_le (addresses : List SocketAddress) :
    addresses.length * SocketAddress.v4EntrySize ≤ entriesSize addresses := by
  induction addresses with
  | nil => simp [entriesSize]
  | cons a rest ih =>
      have atLeast : SocketAddress.v4EntrySize ≤ a.entrySize := by
        cases a <;> simp [SocketAddress.entrySize, SocketAddress.v4EntrySize,
          SocketAddress.v6EntrySize]
      simp only [List.length_cons, entriesSize, Nat.succ_mul]
      omega

/-- **A list is read exactly where an unscoped list is written.**  The early check of the bytes
that are left refuses nothing that the entries would not. -/
theorem read_eq_ok_iff {bytes rest : Bytes} {s : ServerAddresses} :
    read bytes = .ok (s, rest) ↔ s.unscoped = s ∧ bytes = s.encode ++ rest := by
  simp only [read, Reader.bind_eq_ok_iff, Reader.uint32_eq_ok_iff]
  constructor
  · rintro ⟨count, afterCount, rfl, h⟩
    split at h
    · simp only [Reader.bind_eq_ok_iff, Reader.get_eq_ok_iff] at h
      obtain ⟨_, _, ⟨rfl, rfl⟩, h⟩ := h
      split at h
      · exact absurd h Reader.throw_ne_ok
      · simp only [Reader.bind_eq_ok_iff, readEntries_eq_ok_iff, Reader.pure_eq_ok_iff] at h
        obtain ⟨⟨entries, length⟩, _, ⟨isUnscoped, rfl⟩, rfl, rfl⟩ := h
        refine ⟨ServerAddresses.ext isUnscoped, ?_⟩
        simp [encode, written, length]
    · exact absurd h Reader.throw_ne_ok
  · rintro ⟨isUnscoped, rfl⟩
    -- The count of a list fits its word, and so many entries have the bytes they need.
    have few : s.toList.length ≤ 8 := s.length_le
    have countBack : (UInt32.ofNat s.toList.length).toNat = s.toList.length :=
      UInt32.toNat_ofNat_of_lt' (by rw [UInt32.size]; omega)
    refine ⟨UInt32.ofNat s.toList.length, s.toList.flatMap SocketAddress.entry ++ rest,
      List.append_assoc .., ?_⟩
    rw [dif_pos (by rw [countBack]; exact ⟨s.one_le_length, s.length_le⟩)]
    simp only [Reader.bind_eq_ok_iff, Reader.get_eq_ok_iff]
    refine ⟨_, _, ⟨rfl, rfl⟩, ?_⟩
    have enough := length_mul_v4EntrySize_le s.toList
    rw [← length_flatMap_entry] at enough
    rw [if_neg (by rw [countBack, List.length_append]; omega)]
    simp only [Reader.bind_eq_ok_iff, readEntries_eq_ok_iff, Reader.pure_eq_ok_iff]
    exact ⟨⟨s.toList, countBack.symm⟩, rest, ⟨congrArg toList isUnscoped, rfl⟩, rfl, rfl⟩

end ServerAddresses

namespace PrivateToken

/-- A private part and its unscoped form have the same fields in bytes, since only the addresses
in it can differ. -/
@[simp] theorem fields_unscoped (p : PrivateToken) : p.unscoped.fields = p.fields := by
  simp [fields, unscoped]

@[simp] theorem unscoped_unscoped (p : PrivateToken) : p.unscoped.unscoped = p.unscoped := by
  simp [unscoped]

/-- A private part is read exactly where the fields of an unscoped one are written.  Nothing is
said of the bytes behind them: those are for the caller to judge. -/
theorem read_eq_ok_iff {bytes rest : Bytes} {p : PrivateToken} :
    read bytes = .ok (p, rest) ↔ p.unscoped = p ∧ bytes = p.fields ++ rest := by
  simp only [read, Reader.bind_eq_ok_iff, Reader.uint64_eq_ok_iff, Reader.int32_eq_ok_iff,
    ServerAddresses.read_eq_ok_iff, Reader.block_eq_ok_iff, Reader.pure_eq_ok_iff]
  constructor
  · rintro ⟨_, _, rfl, _, _, rfl, _, _, ⟨isUnscoped, rfl⟩, _, _, rfl, _, _, rfl, _, _, rfl,
      rfl, rfl⟩
    exact ⟨PrivateToken.ext rfl rfl isUnscoped rfl rfl rfl, by simp [fields]⟩
  · rintro ⟨isUnscoped, rfl⟩
    refine ⟨p.clientId, _, ?_, p.timeout, _, rfl, p.servers, _,
      ⟨congrArg servers isUnscoped, rfl⟩, p.clientToServer, _, rfl, p.serverToClient, _, rfl,
      p.userData, rest, rfl, rfl, rfl⟩
    simp only [fields, List.append_assoc]

end PrivateToken

end ConnectTokens
