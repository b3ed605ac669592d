import ConnectTokens.Proofs.Ranges
import ConnectTokens.Proofs.TokenFaults

/-!
# There is room for everything

Every list of addresses that any operation gives has one to eight entries, since it was counted
when it was made or when it was read.  So whatever has such a list fits where it is written:
private parts and tokens are always written and sealed, and where a block is read no bytes are
missing.

## Main Definitions

* `ServerAddresses.readPlain`: the reading of a list that carries no proof of its length.
* `ServerAddresses.Obtained`: the lists that the operations give.
* `ServerAddresses.Origin`: where they come from.
* `Token.HasRoom`: all that follows from their lengths.

## Main Statements

* `ServerAddresses.readPlain_eq`: the plain reading is the reading.
* `ServerAddresses.Obtained.origin`, `ServerAddresses.Origin.counted`: the lengths.
* `PrivateToken.deserialize_eq_error_iff`, `PrivateToken.ofSealed_eq_error_iff`: which blocks
  give no private part.
* `Token.hasRoom`: all of it.

## Design Notes

Server addresses carry the proof of their length.  That it holds of what is read is therefore
shown of a reading that carries none, by counting its entries, and the two readings are compared.
-/

namespace ConnectTokens

namespace ServerAddresses

variable {addresses : List SocketAddress} {bytes rest : Bytes} {count : Nat}

/-! ### Counting what is read -/

/-- Reads as many entries as told. -/
def readEntriesPlain : (count : Nat) → Reader (List SocketAddress)
  | 0 => return []
  | count + 1 => do
    let entry ← SocketAddress.readEntry
    let entries ← readEntriesPlain count
    return entry :: entries

/-- Reads a list off the front. -/
def readPlain : Reader (List SocketAddress) := do
  let count := (← Reader.uint32).toNat
  if 1 ≤ count ∧ count ≤ Size.maxServers then
    let rest ← get
    if rest.length < count * SocketAddress.v4EntrySize then throw .truncated
    else readEntriesPlain count
  else throw (.addressCount count)

theorem length_of_readEntriesPlain (taken : readEntriesPlain count bytes = .ok (addresses, rest)) :
    addresses.length = count := by
  induction count generalizing bytes rest addresses with
  | zero =>
      obtain ⟨rfl, -⟩ := Reader.pure_eq_ok_iff.mp taken
      rfl
  | succ count ih =>
      simp only [readEntriesPlain, Reader.bind_eq_ok_iff, Reader.pure_eq_ok_iff] at taken
      obtain ⟨entry, _, -, entries, _, others, rfl, -⟩ := taken
      rw [List.length_cons, ih others]

/-- **What is read was counted.**  The proof is about the reading that carries none, and it is the
check of the count that makes it. -/
theorem counted_of_readPlain (taken : readPlain bytes = .ok (addresses, rest)) :
    1 ≤ addresses.length ∧ addresses.length ≤ Size.maxServers := by
  simp only [readPlain, Reader.bind_eq_ok_iff] at taken
  obtain ⟨word, _, -, taken⟩ := taken
  split at taken
  · next counted =>
    simp only [Reader.bind_eq_ok_iff, Reader.get_eq_ok_iff] at taken
    obtain ⟨_, _, -, taken⟩ := taken
    split at taken
    · exact absurd taken Reader.throw_ne_ok
    · rwa [length_of_readEntriesPlain taken]
  · exact absurd taken Reader.throw_ne_ok

/-- Without the proof of their number, the same entries are read from the same bytes. -/
theorem readEntriesPlain_eq (count : Nat) (bytes : Bytes) :
    readEntriesPlain count bytes =
      (readEntries count bytes).map fun taken => (taken.1.val, taken.2) := by
  induction count generalizing bytes with
  | zero => rfl
  | succ count ih =>
      show (SocketAddress.readEntry bytes >>= fun first =>
          readEntriesPlain count first.2 >>= fun others => _) =
        Except.map _ (SocketAddress.readEntry bytes >>= fun first =>
          readEntries count first.2 >>= fun others => _)
      cases SocketAddress.readEntry bytes with
      | error e => rfl
      | ok first =>
          show (readEntriesPlain count first.2 >>= fun others => _) =
            Except.map _ (readEntries count first.2 >>= fun others => _)
          rw [ih]
          cases readEntries count first.2 <;> rfl

/-- **The plain reading is the reading.**  Carrying a proof of the count neither lets through nor
refuses anything. -/
theorem readPlain_eq (bytes : Bytes) :
    readPlain bytes = (read bytes).map fun taken => (taken.1.toList, taken.2) := by
  rw [readPlain, read]
  simp only [bind, StateT.bind, Except.bind]
  cases Reader.uint32 bytes with
  | error e => rfl
  | ok word =>
      by_cases counted : 1 ≤ word.1.toNat ∧ word.1.toNat ≤ Size.maxServers
      · simp only [if_pos counted, dif_pos counted]
        show (if word.2.length < _ then _ else _ : Reader _) word.2 =
          Except.map _ ((if word.2.length < _ then _ else _ : Reader _) word.2)
        split
        · rfl
        · rw [readEntriesPlain_eq]
          show _ = Except.map _ (readEntries word.1.toNat word.2 >>= fun taken => _)
          cases readEntries word.1.toNat word.2 <;> rfl
      · simp only [if_neg counted, dif_neg counted]
        rfl

/-! ### Where lists come from -/

/-- Where a list of addresses comes from. -/
inductive Origin (addresses : List SocketAddress) : Prop where
  /-- It was counted when it was made. -/
  | made {s : ServerAddresses} (checked : ofList addresses = .ok s)
  /-- It was counted when it was read. -/
  | read {bytes rest : Bytes} (taken : readPlain bytes = .ok (addresses, rest))

/-- **The lists that the operations give**, in any order. -/
inductive Obtained : List SocketAddress → Prop where
  | ofList {addresses : List SocketAddress} {s : ServerAddresses}
      (made : ofList addresses = .ok s) : Obtained s.toList
  | decode {bytes : Bytes} {s : ServerAddresses} {used : Nat}
      (decoded : decode bytes = .ok (s, used)) : Obtained s.toList
  | deserialize {b : Block Size.privatePlain} {p : PrivateToken}
      (read : PrivateToken.deserialize b = .ok p) : Obtained p.servers.toList
  | ofSealed {sealedPart : Block Size.sealedPart} {protocolId expireTime : UInt64}
      {nonce : Nonce} {key : PrivateKey} {p : PrivateToken}
      (opened : PrivateToken.ofSealed sealedPart protocolId expireTime nonce key = .ok p) :
      Obtained p.servers.toList
  | parse {bytes : Bytes} {t : Token} (parsed : Token.parse bytes = .ok t) :
      Obtained t.servers.toList
  /-- A token has the list of its private part. -/
  | sealPrivate {p : PrivateToken} {protocolId createTime expireTime : UInt64} {nonce : Nonce}
      {key : PrivateKey} {t : Token} (before : Obtained p.servers.toList)
      (made : Token.sealPrivate p protocolId createTime expireTime nonce key = .ok t) :
      Obtained t.servers.toList
  | issueToken {issuer : Issuer} {now : Instant} {r : TokenRequest} {s s' : Supply} {t : Token}
      (issued : issuer.issueToken now r s = (.ok t, s')) : Obtained t.servers.toList

/-- A list was counted, wherever it comes from: when it was made, or when it was read. -/
theorem Origin.counted (origin : Origin addresses) :
    1 ≤ addresses.length ∧ addresses.length ≤ Size.maxServers := by
  cases origin with
  | made checked =>
      rw [ServerAddresses.ofList] at checked
      split at checked
      · next counted => exact counted
      · cases checked
  | read taken => exact counted_of_readPlain taken

theorem origin_of_read {s : ServerAddresses} (taken : read bytes = .ok (s, rest)) :
    Origin s.toList := by
  have plain := readPlain_eq bytes
  rw [taken] at plain
  exact .read plain

/-- What has no flow information and scopes is read from its own bytes, whoever holds it. -/
theorem origin_of_unscoped {s : ServerAddresses} (isUnscoped : s.unscoped = s) :
    Origin s.toList :=
  origin_of_read (read_eq_ok_iff.mpr ⟨isUnscoped, rfl⟩ : read (s.encode ++ []) = .ok (s, []))

end ServerAddresses

namespace PrivateToken

variable {p : PrivateToken} {bytes : Bytes}

/-- Whatever bytes a private part is read from, it has no flow information and no scopes. -/
theorem unscoped_of_ofBytes (read : ofBytes bytes = .ok p) : p.unscoped = p := by
  rw [ofBytes] at read
  cases taken : PrivateToken.read bytes with
  | error e =>
      rw [taken] at read
      cases read
  | ok fields =>
      rw [taken] at read
      cases read
      exact (read_eq_ok_iff.mp taken).1

theorem exists_ofBytes_of_ofSealed {sealedPart : Block Size.sealedPart}
    {protocolId expireTime : UInt64} {nonce : Nonce} {key : PrivateKey}
    (opened : ofSealed sealedPart protocolId expireTime nonce key = .ok p) :
    ∃ bytes, ofBytes bytes = .ok p := by
  rw [ofSealed] at opened
  split at opened
  · exact ⟨_, opened⟩
  · cases opened

end PrivateToken

namespace ServerAddresses

/-- A token is issued for the list that was asked for, which was counted before anything was
drawn. -/
theorem origin_of_issueToken {issuer : Issuer} {now : Instant} {r : TokenRequest} {s s' : Supply}
    {t : Token} (issued : issuer.issueToken now r s = (.ok t, s')) : Origin t.servers.toList := by
  obtain ⟨d, random, nonce, drafted, -, rfl⟩ := Issuer.issueToken_eq_ok_iff.mp issued
  obtain ⟨servers, expireTime, same, -, -, rfl, -⟩ := TokenRequest.draft_eq_ok_iff.mp drafted
  exact .made (ofList_eq_ok_iff.mpr (rfl : servers.toList = servers.toList))

/-- **Every list that is obtained was counted**, when it was made or when it was read.  There is
no third way to a list. -/
theorem Obtained.origin {addresses : List SocketAddress} (obtained : Obtained addresses) :
    Origin addresses := by
  induction obtained with
  | ofList made =>
      rw [ofList_eq_ok_iff.mp made]
      exact .made made
  | @decode bytes s used decoded =>
      rw [ServerAddresses.decode] at decoded
      cases taken : ServerAddresses.read bytes with
      | error e =>
          rw [taken] at decoded
          cases decoded
      | ok fields =>
          rw [taken] at decoded
          cases decoded
          exact origin_of_read taken
  | deserialize read =>
      exact origin_of_unscoped
        (congrArg PrivateToken.servers (PrivateToken.unscoped_of_ofBytes read))
  | ofSealed opened =>
      obtain ⟨bytes, read⟩ := PrivateToken.exists_ofBytes_of_ofSealed opened
      exact origin_of_unscoped
        (congrArg PrivateToken.servers (PrivateToken.unscoped_of_ofBytes read))
  | parse parsed =>
      exact origin_of_unscoped (congrArg Token.servers (Token.parse_eq_ok_iff.mp parsed).1)
  | @sealPrivate p _ _ _ _ _ _ _ made origin =>
      rw [Token.sealPrivate, p.sealed_eq] at made
      cases made
      exact origin
  | issueToken issued => exact origin_of_issueToken issued

end ServerAddresses

/-! ### Blocks that give no private part -/

/-- A word is read where its bytes are there, and the reading goes on behind it. -/
theorem Reader.word_of_le {α : Type} {bytes : Bytes} {size : Nat} {ofBytes : Bytes → α}
    (there : size ≤ bytes.length) :
    (do return ofBytes (← block size).toList : Reader α) bytes =
      .ok (ofBytes (bytes.take size), bytes.drop size) := by
  have taken : block size bytes =
      .ok (⟨bytes.take size, by simp [there]⟩, bytes.drop size) := dif_pos there
  rw [bind_of_ok taken]
  rfl

namespace PrivateToken

open ServerAddresses (Flawed)

variable {bytes : Bytes} {e : TokenError}

/-- With room for any private part, both keys and the user data are there behind the list, however
long the list is. -/
theorem length_of_read_of_room {servers : ServerAddresses} {middle : Bytes}
    (room : 488 ≤ bytes.length)
    (taken : ServerAddresses.read (bytes.drop 12) = .ok (servers, middle)) :
    320 ≤ middle.length := by
  obtain ⟨-, whole⟩ := ServerAddresses.read_eq_ok_iff.mp taken
  have size : servers.encodedSize ≤ 156 := servers.encodedSize_le
  have length := congrArg List.length whole
  rw [List.length_drop, List.length_append, ServerAddresses.length_encode] at length
  omega

/-- **With room for any private part, only the list can be the reason to refuse one.**  In front
of it stand two words that can be anything. -/
theorem read_eq_error_iff (room : 488 ≤ bytes.length) :
    PrivateToken.read bytes = .error e ↔ Flawed (bytes.drop 12) e := by
  have clientId : Reader.uint64 bytes = .ok (Bytes.toUInt64 (bytes.take 8), bytes.drop 8) :=
    Reader.word_of_le (by omega)
  have timeout : Reader.int32 (bytes.drop 8) =
      .ok (Bytes.toInt32 ((bytes.drop 8).take 4), (bytes.drop 8).drop 4) :=
    Reader.word_of_le (by rw [List.length_drop]; omega)
  rw [List.drop_drop] at timeout
  have listRoom : ServerAddresses.maxEncodedSize ≤ (bytes.drop 12).length := by
    rw [List.length_drop]
    exact Nat.le_trans (by decide) (Nat.sub_le_sub_right room 12)
  rw [PrivateToken.read, Reader.bind_of_ok clientId, Reader.bind_of_ok timeout,
    ← ServerAddresses.refused_iff_flawed listRoom, ← ServerAddresses.read_eq_error_iff]
  simp only [Reader.bind_eq_error_iff, Reader.block_eq_error_iff, Reader.block_eq_ok_iff,
    Reader.pure_ne_error, and_false, exists_false, or_false, Size.key, Size.userData]
  constructor
  · rintro (refused | ⟨servers, middle, taken, missing⟩)
    · exact refused
    · -- Neither a key nor the user data are missing.
      have enough := length_of_read_of_room room taken
      rcases missing with ⟨short, -⟩ | ⟨first, _, rfl, ⟨short, -⟩ | ⟨second, _, rfl, short, -⟩⟩
      · omega
      · rw [List.length_append, first.length_toList] at enough
        omega
      · rw [List.length_append, List.length_append, first.length_toList,
          second.length_toList] at enough
        omega
  · exact .inl

/-- Which blocks give no private part, and why: the count of the list, or the tag of an entry.  No
bytes can be missing. -/
theorem deserialize_eq_error_iff {b : Block Size.privatePlain} :
    deserialize b = .error e ↔ Flawed (b.toList.drop 12) e := by
  have room : 488 ≤ b.toList.length := by
    rw [b.length_toList]
    decide
  rw [← read_eq_error_iff room, deserialize, ofBytes]
  cases PrivateToken.read b.toList <;> simp [Except.map]

section

variable {sealedPart : Block Size.sealedPart} {protocolId expireTime : UInt64} {nonce : Nonce}
  {key : PrivateKey}

/-- What a sealed part opens to is a block of its own, with the tag behind it. -/
theorem exists_plain_of_openInPlace {associated buffer : Bytes}
    (opened : openInPlace sealedPart.toList associated nonce key = (.ok (), buffer)) :
    ∃ plain : Block Size.privatePlain, buffer = plain.toList ++ tagOf sealedPart.toList := by
  obtain ⟨text, -, isSealed, rfl⟩ := openInPlace_eq_ok_iff.mp opened
  have length := congrArg List.length isSealed
  rw [sealedPart.length_toList, length_sealedBuffer] at length
  exact ⟨⟨text, Nat.eq_sub_of_add_eq length.symm⟩, rfl⟩

/-- **Which sealed parts give no private part**, and why: they do not open, or they open to a
block that gives none. -/
theorem ofSealed_eq_error_iff :
    ofSealed sealedPart protocolId expireTime nonce key = .error e ↔
      ((openInPlace sealedPart.toList (associatedData nonce.scheme protocolId expireTime) nonce
          key).1 = .error .unauthentic ∧ e = .unauthentic) ∨
        ∃ plain : Block Size.privatePlain,
          openInPlace sealedPart.toList (associatedData nonce.scheme protocolId expireTime) nonce
            key = (.ok (), plain.toList ++ tagOf sealedPart.toList) ∧
          Flawed (plain.toList.drop 12) e := by
  rw [ofSealed]
  cases opened : openInPlace sealedPart.toList
    (associatedData nonce.scheme protocolId expireTime) nonce key with
  | mk outcome buffer =>
      cases outcome with
      | error e' =>
          obtain ⟨rfl, rfl⟩ := refused_of_openInPlace opened
          simp [eq_comm]
      | ok _ =>
          obtain ⟨plain, rfl⟩ := exists_plain_of_openInPlace opened
          have front : (plain.toList ++ tagOf sealedPart.toList).take Size.privatePlain =
              plain.toList := List.take_left' plain.length_toList
          have reads : ofBytes plain.toList = .error e ↔ Flawed (plain.toList.drop 12) e :=
            deserialize_eq_error_iff
          simp only [front, reads]
          constructor
          · intro flawed
            exact .inr ⟨plain, rfl, flawed⟩
          · rintro (⟨unopened, -⟩ | ⟨other, same, flawed⟩)
            · cases unopened
            · have same := List.append_cancel_right (Prod.mk.inj same).2
              rwa [same]

end

end PrivateToken

/-! ### Room for everything -/

/-- What is wrong is the list of addresses: its count, or the kind of an entry. -/
def TokenError.OfList (e : TokenError) : Prop :=
  (∃ found, e = .addressCount found) ∨ ∃ tag, e = .addressKind tag

theorem ServerAddresses.Flawed.ofList {bytes : Bytes} {e : TokenError} (flawed : Flawed bytes e) :
    e.OfList := by
  cases flawed with
  | count wrong => exact .inl ⟨_, rfl⟩
  | tag one_le le below walk unknown => exact .inr ⟨_, rfl⟩

namespace Token

open ServerAddresses (Obtained readPlain)

/-- **There is room for everything** that is made of a list of addresses. -/
structure HasRoom : Prop where
  /-- Every list that is obtained has one to eight entries. -/
  counted : ∀ addresses, Obtained addresses → 1 ≤ addresses.length ∧ addresses.length ≤ 8
  /-- The reading gives the entries that it would give if it carried no proof of their number. -/
  plain : ∀ bytes, readPlain bytes =
    (ServerAddresses.read bytes).map fun taken => (taken.1.toList, taken.2)
  /-- A private part never outgrows its block. -/
  serialize : ∀ p : PrivateToken, ∃ b, p.serialize = .ok b
  /-- A token never outgrows its size. -/
  toBytes : ∀ t : Token, ∃ b, t.toBytes = .ok b
  sealed : ∀ (p : PrivateToken) protocolId expireTime nonce key,
    ∃ b, p.sealed protocolId expireTime nonce key = .ok b
  sealPrivate : ∀ (p : PrivateToken) protocolId createTime expireTime nonce key,
    ∃ t, sealPrivate p protocolId createTime expireTime nonce key = .ok t
  /-- In a plain block no bytes are missing, whatever they are. -/
  deserialize : ∀ b e, PrivateToken.deserialize b = .error e → e.OfList
  /-- Nor are they in a sealed part that opens. -/
  ofSealed : ∀ sealedPart protocolId expireTime nonce key e,
    PrivateToken.ofSealed sealedPart protocolId expireTime nonce key = .error e →
      e = .unauthentic ∨ e.OfList
  /-- No range leaves its buffer. -/
  ranges : Ranged.Keeps

/-- **There is room for everything.**  Nothing that is written outgrows its buffer, no list has
another number of entries than one to eight, and no range leaves what it is a range of. -/
theorem hasRoom : HasRoom where
  counted _ obtained := obtained.origin.counted
  plain := ServerAddresses.readPlain_eq
  serialize p := ⟨_, p.serialize_eq⟩
  toBytes t := ⟨_, t.toBytes_eq⟩
  sealed p protocolId expireTime nonce key := ⟨_, p.sealed_eq protocolId expireTime nonce key⟩
  sealPrivate p protocolId createTime expireTime nonce key := by
    rw [sealPrivate, p.sealed_eq]
    exact ⟨_, rfl⟩
  deserialize _ _ refused := (PrivateToken.deserialize_eq_error_iff.mp refused).ofList
  ofSealed _ _ _ _ _ _ refused := by
    rcases PrivateToken.ofSealed_eq_error_iff.mp refused with ⟨-, rfl⟩ | ⟨plain, -, flawed⟩
    · exact .inl rfl
    · exact .inr flawed.ofList
  ranges := Ranged.keeps

/-- A list of one address that is decoded, and a block of zeros, whose list is empty and is
refused for that. -/
theorem hasRoom_single :
    (∃ s, ServerAddresses.decode [1, 0, 0, 0, 1, 127, 0, 0, 1, 64, 156] = .ok (s, 11) ∧
      1 ≤ s.toList.length ∧ s.toList.length ≤ 8) ∧
      PrivateToken.deserialize (Block.zero Size.privatePlain) = .error (.addressCount 0) ∧
      (TokenError.addressCount 0).OfList := by
  have decoded : ServerAddresses.decode [1, 0, 0, 0, 1, 127, 0, 0, 1, 64, 156] =
      .ok (⟨[.v4 ⟨[127, 0, 0, 1], rfl⟩ 40000], by decide, by decide⟩, 11) := by
    decide +kernel
  have empty : PrivateToken.deserialize (Block.zero Size.privatePlain) =
      .error (.addressCount 0) := by
    decide +kernel
  exact ⟨⟨_, decoded, hasRoom.counted _ (.decode decoded)⟩, empty, hasRoom.deserialize _ _ empty⟩

end Token

end ConnectTokens
