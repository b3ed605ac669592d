import ConnectTokens.Proofs.Reading
import ConnectTokens.Token

/-!
# The wire form of a token

A byte string is accepted as a token exactly when it is the wire form of that
token: the fixed fields at the places of the layout, the trailer behind them, and
zeros up to the end.

## Main Statements

* `Layout.take_trailerOffset`: the places of a layout cover what is in front of
  the trailer, without gap or overlap.
* `Token.toBytes_eq`: every token has a wire form.
* `Token.parse_eq_ok_iff`: a token is read exactly from its wire form.

## Design Notes

Reading goes by places and writing goes by order.  `Token.take_trailerOffset_eq_header_iff`
is the bridge: what stands in front of the trailer is the header of a token
exactly when each field, read at its place, is that of the token.
-/

namespace ConnectTokens

namespace Field

/-- What is in front of the end of a field: what is in front of the end of the field before it,
and the field itself. -/
theorem take_stop_after (f : Field) (length : Nat) (bytes : Bytes) :
    bytes.take (f.after length).stop = bytes.take f.stop ++ (f.after length).slice bytes :=
  List.take_add

theorem take_stop_first (length : Nat) (bytes : Bytes) :
    bytes.take (first length).stop = (first length).slice bytes := by
  simp [first, stop, slice]

/-- A field that lies inside a byte string has its own length there, and is not cut off by the
end. -/
theorem length_slice {f : Field} {bytes : Bytes} (inside : f.stop ≤ bytes.length) :
    (f.slice bytes).length = f.length := by
  rw [stop] at inside
  rw [slice, List.length_take, List.length_drop]
  omega

end Field

namespace Layout

/-- The fields in their order. -/
def fields (l : Layout) : List Field :=
  [l.version, l.protocolId, l.createTime, l.expireTime, l.nonce, l.sealedPart, l.timeout]

/-- **The places of a layout cover the header**, without gap or overlap: the parts that stand in
them, one behind the other, are the bytes in front of the trailer. -/
theorem take_trailerOffset (s : Scheme) (bytes : Bytes) :
    bytes.take (of s).trailerOffset = ((of s).fields.map (·.slice bytes)).flatten := by
  simp only [of, ofNonceSize, trailerOffset, fields, Field.take_stop_after,
    Field.take_stop_first, List.map_cons, List.map_nil, List.flatten_cons, List.flatten_nil,
    List.append_nil, List.append_assoc]

theorem trailerOffset_le (s : Scheme) : (of s).trailerOffset ≤ Size.token := by
  cases s <;> decide

/-- No field of a layout reaches into the trailer, whichever scheme the layout is of. -/
theorem stop_le_trailerOffset (s : Scheme) :
    ∀ f ∈ (of s).fields, f.stop ≤ (of s).trailerOffset := by
  cases s <;> decide

/-- Every field lies inside a byte string of the size of a token, so that a token of the right
size never lacks a field. -/
theorem length_slice {s : Scheme} {bytes : Bytes} (length : bytes.length = Size.token)
    {f : Field} (isField : f ∈ (of s).fields) : (f.slice bytes).length = f.length := by
  refine Field.length_slice ?_
  rw [length]
  exact Nat.le_trans (stop_le_trailerOffset s f isField) (trailerOffset_le s)

end Layout

namespace ServerAddresses

/-- No entry takes more than an IPv6 entry, which bounds a list by the number of its addresses. -/
theorem entriesSize_le (addresses : List SocketAddress) :
    entriesSize addresses ≤ addresses.length * SocketAddress.v6EntrySize := by
  induction addresses with
  | nil => simp [entriesSize]
  | cons a rest ih =>
      have atMost : a.entrySize ≤ SocketAddress.v6EntrySize := by
        cases a <;> simp [SocketAddress.entrySize, SocketAddress.v4EntrySize,
          SocketAddress.v6EntrySize]
      simp only [List.length_cons, entriesSize, Nat.succ_mul]
      omega

/-- No list outgrows the room for eight IPv6 addresses.  This and the two session keys are all
that a trailer can hold. -/
theorem encodedSize_le (s : ServerAddresses) : s.encodedSize ≤ maxEncodedSize := by
  have entries := entriesSize_le s.toList
  have few := Nat.mul_le_mul_right SocketAddress.v6EntrySize s.length_le
  rw [encodedSize, maxEncodedSize]
  omega

end ServerAddresses

namespace Token

/-! ### The parts and their sizes -/

/-- The written fields of fixed size, in their order. -/
def headerParts (t : Token) : List Bytes :=
  [t.versionTag.toList, Bytes.ofUInt64 t.protocolId, Bytes.ofUInt64 t.createTime,
    Bytes.ofUInt64 t.expireTime, t.nonce.bytes, t.sealedPart.toList, Bytes.ofInt32 t.timeout]

/-- The header is the row of its parts.  What is shown of parts in a row holds for the header of
either scheme. -/
theorem header_eq_flatten (t : Token) : t.header = t.headerParts.flatten := by
  simp [header, headerParts]

/-- Each part of a header has the length of its field, in the order of the layout. -/
theorem map_length_headerParts (t : Token) :
    t.headerParts.map List.length = t.layout.fields.map Field.length := by
  simp only [headerParts, List.map_cons, List.map_nil, Block.length_toList,
    Bytes.length_ofUInt64, Nonce.length_bytes, Bytes.length_ofInt32]
  rfl

theorem length_header (t : Token) : t.header.length = t.layout.trailerOffset := by
  simp only [header, List.length_append, Block.length_toList, Bytes.length_ofUInt64,
    Nonce.length_bytes, Bytes.length_ofInt32]
  rfl

theorem length_trailer (t : Token) :
    t.trailer.length = t.servers.encodedSize + 2 * Size.key := by
  simp only [trailer, List.length_append, ServerAddresses.length_encode, Block.length_toList]
  omega

/-- There is room for every trailer: eight IPv6 addresses and two keys fit behind the longer of
the two headers. -/
theorem length_trailer_le (t : Token) : t.trailer.length ≤ t.layout.trailerCapacity := by
  rw [length_trailer]
  exact Nat.le_trans (Nat.add_le_add_right t.servers.encodedSize_le _)
    (Layout.maxTrailer_le_capacity t.nonce.scheme)

/-- The zeros behind the trailer. -/
def padding (t : Token) : Bytes :=
  List.replicate (t.layout.trailerCapacity - t.trailer.length) 0

/-- Header, trailer and padding together have the size of a token, whatever token they are of. -/
theorem length_wire (t : Token) :
    (t.header ++ (t.trailer ++ t.padding)).length = Size.token := by
  have room := t.length_trailer_le
  have offset : t.layout.trailerOffset ≤ Size.token := Layout.trailerOffset_le t.nonce.scheme
  rw [Layout.trailerCapacity] at room
  simp only [List.length_append, length_header, padding, List.length_replicate,
    Layout.trailerCapacity]
  omega

/-- The wire form of a token: its header, its trailer and its padding. -/
def wire (t : Token) : Block Size.token where
  toList := t.header ++ (t.trailer ++ t.padding)
  length_toList := t.length_wire

theorem toList_wire (t : Token) : t.wire.toList = t.header ++ (t.trailer ++ t.padding) := rfl

/-- **Every token has a wire form.**  Writing never fails, since the bound on the number of
servers is a bound on the bytes that are written. -/
theorem toBytes_eq (t : Token) : t.toBytes = .ok t.wire := by
  have size := t.length_wire
  rw [← List.append_assoc, List.length_append] at size
  have zeros : t.padding = List.replicate (Size.token - (t.header ++ t.trailer).length) 0 := by
    rw [← size, Nat.add_sub_cancel_left, padding, List.length_replicate]
  rw [toBytes, if_pos t.length_trailer_le, Except.ok.injEq]
  ext1
  rw [Block.toList_pad_of_le (size ▸ Nat.le_add_right ..), ← zeros, List.append_assoc, wire]

/-! ### Reading by places -/

/-- The fields of fixed size behind the version tag, each read at its place, are
those of a token. -/
def HeaderAt (t : Token) (bytes : Bytes) : Prop :=
  Bytes.toUInt64 (t.layout.protocolId.slice bytes) = t.protocolId ∧
    Bytes.toUInt64 (t.layout.createTime.slice bytes) = t.createTime ∧
    Bytes.toUInt64 (t.layout.expireTime.slice bytes) = t.expireTime ∧
    Nonce.ofBytes t.nonce.scheme (t.layout.nonce.slice bytes) = t.nonce ∧
    Block.pad Size.sealedPart (t.layout.sealedPart.slice bytes) = t.sealedPart ∧
    Bytes.toInt32 (t.layout.timeout.slice bytes) = t.timeout

/-- What stands in front of the trailer is the header of a token exactly when each field stands
written at its place.  One comparison of bytes becomes one of parts. -/
theorem take_trailerOffset_eq_header_iff_map_slice {t : Token} {bytes : Bytes}
    (length : bytes.length = Size.token) :
    bytes.take t.layout.trailerOffset = t.header ↔
      t.layout.fields.map (·.slice bytes) = t.headerParts := by
  have sizes : (t.layout.fields.map (·.slice bytes)).map List.length =
      t.headerParts.map List.length := by
    rw [map_length_headerParts, List.map_map]
    exact List.map_congr_left fun f isField => Layout.length_slice length isField
  -- A list of byte strings is told by their lengths and all of them in a row.
  rw [layout, Layout.take_trailerOffset, header_eq_flatten, ← layout, List.eq_iff_flatten_eq,
    and_iff_left sizes]

/-- The fields of a token stand at their places in its wire form, as a reader will look for them.
-/
theorem map_slice_wire (t : Token) :
    t.layout.fields.map (·.slice t.wire.toList) = t.headerParts :=
  (take_trailerOffset_eq_header_iff_map_slice t.length_wire).mp
    (by rw [← length_header, List.take_left])

/-- What stands in front of the trailer is the header of a token exactly when each field, read at
its place, is that of the token. -/
theorem take_trailerOffset_eq_header_iff {t : Token} {bytes : Bytes}
    (length : bytes.length = Size.token) :
    bytes.take t.layout.trailerOffset = t.header ↔
      bytes.take Size.version = t.versionTag.toList ∧ t.HeaderAt bytes := by
  have size {f : Field} (isField : f ∈ t.layout.fields) : (f.slice bytes).length = f.length :=
    Layout.length_slice length isField
  have word {f : Field} {x : UInt64} (isField : f ∈ t.layout.fields) (width : f.length = 8) :
      f.slice bytes = Bytes.ofUInt64 x ↔ Bytes.toUInt64 (f.slice bytes) = x := by
    rw [Bytes.eq_ofUInt64_iff, and_iff_right ((size isField).trans width)]
  rw [take_trailerOffset_eq_header_iff_map_slice length]
  simp only [Layout.fields, headerParts, List.map_cons, List.map_nil, List.cons.injEq, and_true]
  refine and_congr_right fun _ => and_congr (word ?_ rfl) (and_congr (word ?_ rfl)
    (and_congr (word ?_ rfl) (and_congr ?_ (and_congr ?_ ?_))))
  · simp [Layout.fields]
  · simp [Layout.fields]
  · simp [Layout.fields]
  · exact Nonce.eq_bytes_iff.trans (and_iff_right
      (size (f := t.layout.nonce) (by simp [Layout.fields])))
  · exact Block.eq_toList_iff.trans (and_iff_right
      (size (f := t.layout.sealedPart) (by simp [Layout.fields])))
  · exact Bytes.eq_ofInt32_iff.trans (and_iff_right
      (size (f := t.layout.timeout) (by simp [Layout.fields])))

/-! ### Reading the trailer -/

/-- A trailer is read exactly where a list of unscoped addresses and two keys are written, with
any bytes behind them. -/
theorem readTrailer_eq_ok_iff {bytes rest : Bytes} {servers : ServerAddresses}
    {clientToServer serverToClient : Block Size.key} :
    readTrailer bytes = .ok ((servers, clientToServer, serverToClient), rest) ↔
      servers.unscoped = servers ∧
        bytes = servers.encode ++ clientToServer.toList ++ serverToClient.toList ++ rest := by
  simp only [readTrailer, Reader.bind_eq_ok_iff, ServerAddresses.read_eq_ok_iff,
    Reader.block_eq_ok_iff, Reader.pure_eq_ok_iff]
  constructor
  · rintro ⟨_, _, ⟨isUnscoped, rfl⟩, _, _, rfl, _, _, rfl, made, rfl⟩
    cases made
    exact ⟨isUnscoped, by simp⟩
  · rintro ⟨isUnscoped, rfl⟩
    refine ⟨servers, _, ⟨isUnscoped, ?_⟩, clientToServer, _, rfl, serverToClient, _, rfl, rfl, rfl⟩
    simp only [List.append_assoc]

/-! ### Reading a token -/

@[simp] theorem header_unscoped (t : Token) : t.unscoped.header = t.header := rfl

/-- The trailer shows the servers alone of what can have a scope, and writes none of it. -/
@[simp] theorem trailer_unscoped (t : Token) : t.unscoped.trailer = t.trailer := by
  simp [trailer, unscoped]

/-- Flow information and scopes are not written, so a token and its unscoped form have one wire
form. -/
@[simp] theorem wire_unscoped (t : Token) : t.unscoped.wire = t.wire := by
  ext1
  simp only [wire, padding, header_unscoped, trailer_unscoped]
  rfl

@[simp] theorem unscoped_unscoped (t : Token) : t.unscoped.unscoped = t.unscoped := by
  simp [unscoped]

/-- The bytes behind the trailer are zero exactly when they are the padding, which is as long as
the size of a token leaves it. -/
theorem all_zero_iff_eq_padding {t : Token} {rest : Bytes}
    (length : (t.header ++ (t.trailer ++ rest)).length = Size.token) :
    rest.all (· == 0) = true ↔ rest = t.padding := by
  have size : rest.length = t.layout.trailerCapacity - t.trailer.length := by
    rw [List.length_append, List.length_append, length_header] at length
    rw [Layout.trailerCapacity]
    omega
  rw [padding, ← size, List.eq_replicate_iff]
  simp

/-- What is read under a scheme, from a byte string of the right size: the header by its places,
the trailer from its offset on, and zeros behind. -/
theorem ofBytes_eq_ok_iff {scheme : Scheme} {bytes : Bytes} {t : Token} :
    ofBytes scheme bytes = .ok t ↔
      t.nonce.scheme = scheme ∧ t.HeaderAt bytes ∧
        ∃ rest, readTrailer (bytes.drop t.layout.trailerOffset) =
          .ok ((t.servers, t.clientToServer, t.serverToClient), rest) ∧
          rest.all (· == 0) = true := by
  constructor
  · intro h
    simp only [ofBytes] at h
    split at h
    · cases h
    · next servers clientToServer serverToClient rest trailerRead =>
      split at h
      · next zeros =>
        cases h
        have sameScheme := Nonce.scheme_ofBytes scheme ((Layout.of scheme).nonce.slice bytes)
        simp only [HeaderAt, layout, sameScheme, true_and]
        exact ⟨rest, trailerRead, zeros⟩
      · cases h
  · rintro ⟨rfl, ⟨protocolId, createTime, expireTime, nonce, sealedPart, timeout⟩, rest,
      trailerRead, zeros⟩
    simp only [layout] at *
    simp only [ofBytes, trailerRead, zeros, if_true, Except.ok.injEq]
    exact Token.ext protocolId createTime expireTime nonce sealedPart timeout rfl rfl rfl

/-- **A token is read exactly from the wire form of an unscoped token.**  All that is said of
reading and of writing tokens comes from this one equivalence. -/
theorem parse_eq_ok_iff {bytes : Bytes} {t : Token} :
    parse bytes = .ok t ↔ t.unscoped = t ∧ bytes = t.wire.toList := by
  constructor
  · intro h
    unfold parse at h
    split at h
    · cases h
    · next length =>
      rw [not_not] at length
      split at h
      · cases h
      · next scheme version =>
        rw [Scheme.ofVersionTag?_eq_some_iff] at version
        -- Front, trailer and rest are all there is, and each is told by the token.
        obtain ⟨rfl, fields, rest, trailerRead, zeros⟩ := ofBytes_eq_ok_iff.mp h
        obtain ⟨isUnscoped, behind⟩ := readTrailer_eq_ok_iff.mp trailerRead
        have front := (take_trailerOffset_eq_header_iff length).mpr ⟨version, fields⟩
        have whole : bytes = t.header ++ (t.trailer ++ rest) := by
          rw [← List.take_append_drop t.layout.trailerOffset bytes, front, behind, trailer]
        rw [whole] at length
        rw [(all_zero_iff_eq_padding length).mp zeros] at whole
        exact ⟨Token.ext rfl rfl rfl rfl rfl rfl isUnscoped rfl rfl, whole⟩
  · rintro ⟨isUnscoped, rfl⟩
    have front := (take_trailerOffset_eq_header_iff t.length_wire).mp
      (by rw [← length_header, List.take_left])
    rw [toList_wire, parse, if_neg (not_not.mpr t.length_wire),
      Scheme.ofVersionTag?_eq_some_iff.mpr front.1]
    refine ofBytes_eq_ok_iff.mpr ⟨rfl, front.2, t.padding, ?_, ?_⟩
    · rw [← length_header, List.drop_left]
      exact readTrailer_eq_ok_iff.mpr ⟨congrArg servers isUnscoped, rfl⟩
    · exact (all_zero_iff_eq_padding t.length_wire).mpr rfl

/-- A wire form reads back as the token without flow information and scopes, which is the token
itself for one that was read before. -/
theorem parse_wire (t : Token) : parse t.wire.toList = .ok t.unscoped :=
  parse_eq_ok_iff.mpr ⟨t.unscoped_unscoped, by rw [wire_unscoped]⟩

/-! ### Main results -/

/-- **Wire round trip.**  Every token, however it was made, has a wire form of the
fixed size, in which all is zero behind its last session key, and which reads back
as the token without flow information and scopes. -/
theorem parse_toBytes (t : Token) :
    ∃ b, t.toBytes = .ok b ∧ b.toList.length = 2048 ∧
      t.layout.trailerOffset + t.servers.encodedSize + 64 ≤ 2048 ∧
      b.toList.drop (t.layout.trailerOffset + t.servers.encodedSize + 64) =
        List.replicate (2048 - (t.layout.trailerOffset + t.servers.encodedSize + 64)) 0 ∧
      parse b.toList = .ok t.unscoped := by
  have used : (t.header ++ t.trailer).length =
      t.layout.trailerOffset + t.servers.encodedSize + 64 := by
    rw [List.length_append, length_header, length_trailer, Nat.add_assoc]
    rfl
  have size : (t.header ++ t.trailer).length + t.padding.length = 2048 := by
    rw [← List.length_append, List.append_assoc]
    exact t.length_wire
  refine ⟨t.wire, t.toBytes_eq, t.length_wire, used ▸ size ▸ Nat.le_add_right .., ?_,
    t.parse_wire⟩
  rw [← used, toList_wire, ← List.append_assoc, List.drop_left, ← size,
    Nat.add_sub_cancel_left, padding, List.length_replicate]

/-- **One wire form.**  Whatever is accepted as a token is, byte for byte, what that
token is written as.  So exactly the written forms are accepted, and no two of them
as the same token. -/
theorem parse_canonical (w : Bytes) :
    (∀ t, parse w = .ok t → ∃ b, t.toBytes = .ok b ∧ b.toList = w) ∧
      ((∃ t, parse w = .ok t) ↔ ∃ t b, toBytes t = .ok b ∧ b.toList = w) ∧
      ∀ t w', parse w = .ok t → parse w' = .ok t → w = w' := by
  have written : ∀ t, parse w = .ok t → ∃ b, t.toBytes = .ok b ∧ b.toList = w := by
    intro t accepted
    exact ⟨t.wire, t.toBytes_eq, (parse_eq_ok_iff.mp accepted).2.symm⟩
  refine ⟨written, ⟨fun ⟨t, accepted⟩ => ⟨t, written t accepted⟩, ?_⟩, ?_⟩
  · rintro ⟨t, b, isWritten, rfl⟩
    obtain rfl : t.wire = b := Except.ok.inj (t.toBytes_eq.symm.trans isWritten)
    exact ⟨t.unscoped, t.parse_wire⟩
  · intro t w' accepted accepted'
    rw [(parse_eq_ok_iff.mp accepted).2, (parse_eq_ok_iff.mp accepted').2]

/-- A token for `192.0.2.1`, once as it is and once mapped into IPv6, whose timeout
is negative. -/
def mappedToken : Token where
  protocolId := 5
  createTime := 1000
  expireTime := 1030
  nonce := .sequence 7
  sealedPart := ⟨List.replicate 1024 9, List.length_replicate⟩
  timeout := -1
  servers := ⟨[.v4 ⟨[192, 0, 2, 1], rfl⟩ 40000,
    .v6 ⟨[0, 0, 0, 0, 0, 0, 0, 0, 0, 0, 255, 255, 192, 0, 2, 1], rfl⟩ 40000 0 0],
    by decide, by decide⟩
  clientToServer := ⟨List.replicate 32 1, List.length_replicate⟩
  serverToClient := ⟨List.replicate 32 2, List.length_replicate⟩

/-- The bytes of `mappedToken`, field by field. -/
def mappedBytes : Bytes :=
  [78, 69, 84, 67, 79, 68, 69, 32, 49, 46, 48, 49, 0] ++ [5, 0, 0, 0, 0, 0, 0, 0] ++
    [232, 3, 0, 0, 0, 0, 0, 0] ++ [6, 4, 0, 0, 0, 0, 0, 0] ++ [7, 0, 0, 0, 0, 0, 0, 0] ++
    List.replicate 1024 9 ++ [255, 255, 255, 255] ++ [2, 0, 0, 0] ++
    [1, 192, 0, 2, 1, 64, 156] ++
    [2, 0, 0, 0, 0, 0, 0, 0, 0, 0, 0, 255, 255, 192, 0, 2, 1, 64, 156] ++
    List.replicate 32 1 ++ List.replicate 32 2 ++ List.replicate 881 0

/-- A token for an IPv6 host that stands for an IPv4 host is read as it is written.  Such a host
keeps its kind and is not taken for the other one. -/
theorem parse_canonical_mapped :
    parse mappedBytes = .ok mappedToken ∧
      ∃ b, mappedToken.toBytes = .ok b ∧ b.toList = mappedBytes := by
  have accepted : parse mappedBytes = .ok mappedToken := by decide +kernel
  exact ⟨accepted, (parse_canonical mappedBytes).1 mappedToken accepted⟩

end Token

end ConnectTokens
