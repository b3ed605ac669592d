import ConnectTokens.Proofs.InPlace
import ConnectTokens.Proofs.Issuing

/-!
# Ranges stay within their buffers

The bytes of tokens are made by writing over ranges of buffers of zeros, and they are read by
taking ranges of them.  Here every operation is told once more with each of its ranges, in such
a way that there is no outcome where a range leaves its buffer, or where what is written over a
range has another length.  Each of them has an outcome for all that it can be given, and the one
that is known.

## Main Definitions

* `Bytes.slice?`, `Bytes.store?`, `Bytes.split?`: ranges of buffers.
* `Field.InRow`, `Bytes.storeAll?`, `Block.fill?`: fields that follow one another, and a block of
  zeros that is written over with them.
* `Ranged`: the operations with their ranges.
* `Ranged.Keeps`: the operations keep to their buffers.

## Main Statements

* `Bytes.storeAll?_zeros`, `Block.fill?_eq_pad`: fields in a row fill a block from its front.
* `Ranged.keeps`: all operations.

## Design Notes

Every buffer that is written starts as zeros and is filled from the front, so that one induction
over the fields in a row serves all of them.  Which fields are in a row is decided by their
offsets alone.
-/

namespace ConnectTokens

namespace Bytes

/-! ### Ranges -/

/-- What stands in a range of a buffer, unless the range leaves the buffer. -/
def slice? (buffer : Bytes) (start stop : Nat) : Option Bytes :=
  if start ≤ stop ∧ stop ≤ buffer.length then some ((buffer.drop start).take (stop - start))
  else none

/-- A buffer with bytes written over a range of it, unless the range leaves the buffer or has
another length than the bytes. -/
def store? (buffer : Bytes) (start stop : Nat) (source : Bytes) : Option Bytes :=
  if start ≤ stop ∧ stop ≤ buffer.length ∧ source.length = stop - start then
    some (buffer.take start ++ source ++ buffer.drop stop)
  else none

/-- The two parts of a buffer around an index, unless the index leaves the buffer. -/
def split? (buffer : Bytes) (index : Nat) : Option (Bytes × Bytes) :=
  if index ≤ buffer.length then some (buffer.take index, buffer.drop index) else none

/-- A buffer with sources written over fields, one after the other. -/
def storeAll? : List Field → List Bytes → Bytes → Option Bytes
  | f :: fields, source :: sources, buffer => do
    storeAll? fields sources (← buffer.store? f.offset f.stop source)
  | _, _, buffer => some buffer

end Bytes

namespace Field

/-- Fields follow one another from an offset on. -/
def InRow : Nat → List Field → Prop
  | _, [] => True
  | start, f :: fields => f.offset = start ∧ InRow f.stop fields

end Field

namespace Layout

/-- The fields of a layout follow one another from the front on.  It is decided by their offsets
and lengths, scheme by scheme. -/
theorem inRow (s : Scheme) : Field.InRow 0 (of s).fields := by
  simp only [Field.InRow, fields, of, ofNonceSize, Field.first, Field.after, and_self]

end Layout

namespace Bytes

/-- A range at the front of zeros is written over.  The zeros behind it are left, and are as many
as there were, less the length of the range. -/
theorem store?_zeros {f : Field} {front source : Bytes} {room : Nat}
    (offset : f.offset = front.length) (size : source.length = f.length)
    (fits : source.length ≤ room) :
    store? (front ++ List.replicate room 0) f.offset f.stop source =
      some (front ++ source ++ List.replicate (room - source.length) 0) := by
  have inside : f.offset ≤ f.stop ∧ f.stop ≤ (front ++ List.replicate room (0 : UInt8)).length ∧
      source.length = f.stop - f.offset := by
    rw [Field.stop, List.length_append, List.length_replicate]
    omega
  rw [store?, if_pos inside, offset, List.take_left, Field.stop, offset, ← List.drop_drop,
    List.drop_left, List.drop_replicate, size]

/-- **Fields in a row are written over zeros**, and leave zeros behind them.  In the induction the
buffer in front grows by one field at a time. -/
theorem storeAll?_zeros {fields : List Field} {sources : List Bytes} (front : Bytes) {room : Nat}
    (inRow : Field.InRow front.length fields)
    (sizes : sources.map List.length = fields.map Field.length)
    (fits : sources.flatten.length ≤ room) :
    storeAll? fields sources (front ++ List.replicate room 0) =
      some (front ++ sources.flatten ++ List.replicate (room - sources.flatten.length) 0) := by
  -- On the fields, with the front free: what is written over one is in front of the next.
  induction fields generalizing sources front room with
  | nil =>
      obtain rfl := List.map_eq_nil_iff.mp sizes
      simp [storeAll?]
  | cons f fields ih =>
      cases sources with
      | nil => cases sizes
      | cons source sources =>
          obtain ⟨offset, inRow⟩ := inRow
          obtain ⟨size, sizes⟩ := List.cons.inj sizes
          rw [List.flatten_cons, List.length_append] at fits
          have next : Field.InRow (front ++ source).length fields := by
            rwa [List.length_append, ← offset, size]
          rw [storeAll?, store?_zeros offset size (by omega)]
          show storeAll? fields sources _ = _
          rw [ih _ next sizes (by omega), List.flatten_cons, List.append_assoc front,
            List.length_append, Nat.sub_add_eq]

theorem slice?_field {f : Field} {bytes : Bytes} (inside : f.stop ≤ bytes.length) :
    bytes.slice? f.offset f.stop = some (f.slice bytes) := by
  rw [slice?, if_pos ⟨Nat.le_add_right .., inside⟩, Field.slice, Field.stop,
    Nat.add_sub_cancel_left]

/-- What is behind an offset, up to the end, is a range of the buffer. -/
theorem slice?_to_end {bytes : Bytes} {start : Nat} (inside : start ≤ bytes.length) :
    bytes.slice? start bytes.length = some (bytes.drop start) := by
  rw [slice?, if_pos ⟨inside, le_rfl⟩, ← List.length_drop, List.take_length]

theorem slice?_from_start {bytes : Bytes} {stop : Nat} (inside : stop ≤ bytes.length) :
    bytes.slice? 0 stop = some (bytes.take stop) := by
  rw [slice?, if_pos ⟨Nat.zero_le _, inside⟩, List.drop_zero, Nat.sub_zero]

/-- A whole buffer is written over by bytes of its own length, and nothing of it is left. -/
theorem store?_whole {buffer source : Bytes} (size : source.length = buffer.length) :
    buffer.store? 0 buffer.length source = some source := by
  rw [store?, if_pos ⟨Nat.zero_le _, le_rfl, size⟩, List.take_zero, List.nil_append,
    List.drop_length, List.append_nil]

end Bytes

namespace Block

variable {size : Nat}

/-- A block of zeros with sources written over fields of it. -/
def fill? (size : Nat) (fields : List Field) (sources : List Bytes) : Option (Block size) :=
  (Bytes.storeAll? fields sources (List.replicate size 0)).bind (ofList? size)

theorem ofList?_eq_pad {bytes : Bytes} (length : bytes.length = size) :
    ofList? size bytes = some (pad size bytes) := by
  rw [ofList?, dif_pos length]
  exact congrArg some (pad_toList ⟨bytes, length⟩).symm

/-- **Fields in a row fill a block from its front.**  The zeros behind them are the padding, so
that the block is the one of the plain form. -/
theorem fill?_eq_pad {fields : List Field} {sources : List Bytes} (inRow : Field.InRow 0 fields)
    (sizes : sources.map List.length = fields.map Field.length)
    (fits : sources.flatten.length ≤ size) :
    fill? size fields sources = some (pad size sources.flatten) := by
  have written := Bytes.storeAll?_zeros [] inRow sizes fits
  rw [List.nil_append, List.nil_append, ← toList_pad_of_le fits] at written
  rw [fill?, written]
  exact ofList?_toList _

end Block

/-! ### The operations with their ranges -/

namespace Ranged

/-- The nonce of the cipher. -/
def cipherNonce : Nonce → Option (Block 12)
  | .sequence value => Block.fill? 12 [⟨4, 8⟩] [Bytes.ofUInt64 value]
  | .extended bytes => some (Nonce.extended bytes).cipherNonce

/-- What the seal binds besides the private part itself. -/
def associatedData (scheme : Scheme) (protocolId expireTime : UInt64) : Option Bytes := do
  let bound ← Block.fill? (Size.version + 8 + 8)
    [⟨0, Size.version⟩, ⟨Size.version, 8⟩, ⟨Size.version + 8, 8⟩]
    [scheme.versionTag.toList, Bytes.ofUInt64 protocolId, Bytes.ofUInt64 expireTime]
  return bound.toList

/-- Encrypts what stands before the last sixteen bytes, and writes the tag over them. -/
def sealInPlace (buffer associated : Bytes) (nonce : Nonce) (key : PrivateKey) :
    Option (Except TokenError Unit × Bytes) :=
  if buffer.length < Size.mac then some (.error .sealFailed, buffer)
  else do
    let (text, last) ← buffer.split? (buffer.length - Size.mac)
    match Aead.encrypt (nonce.cipherKey key) (← cipherNonce nonce) associated text with
    | some (ciphertext, tag) =>
      return (.ok (), ciphertext ++ (← last.store? 0 last.length tag.toList))
    | none => return (.error .sealFailed, buffer)

/-- Decrypts what stands before the last sixteen bytes, when they are its tag. -/
def openInPlace (buffer associated : Bytes) (nonce : Nonce) (key : PrivateKey) :
    Option (Except TokenError Unit × Bytes) :=
  if buffer.length < Size.mac then some (.error .unauthentic, buffer)
  else do
    let (ciphertext, last) ← buffer.split? (buffer.length - Size.mac)
    let tag ← Block.ofList? Size.mac last
    match Aead.decrypt? (nonce.cipherKey key) (← cipherNonce nonce) associated ciphertext
      tag.toList with
    | some text => return (.ok (), text ++ last)
    | none => return (.error .unauthentic, buffer)

/-- The private part with user data, which is followed by zeros where it is short. -/
def build (clientId : UInt64) (timeout : Int32) (servers : ServerAddresses) (userData : Bytes)
    (clientToServer serverToClient : Block Size.key) : Option (Except TokenError PrivateToken) :=
  if userData.length ≤ Size.userData then do
    let userData ← Block.fill? Size.userData [⟨0, userData.length⟩] [userData]
    return .ok { clientId, timeout, servers, clientToServer, serverToClient, userData }
  else some (.error (.userDataTooLarge userData.length))

/-- The fields of a private part, with zeros up to the fixed size. -/
def serialize (p : PrivateToken) : Option (Except TokenError (Block Size.privatePlain)) :=
  if p.fields.length ≤ Size.privatePlain then do
    return .ok (← Block.fill? Size.privatePlain [⟨0, p.fields.length⟩] [p.fields])
  else some (.error (.privateOverflow p.fields.length))

/-- The sealed bytes of a private part. -/
def sealed (p : PrivateToken) (protocolId expireTime : UInt64) (nonce : Nonce)
    (key : PrivateKey) : Option (Except TokenError (Block Size.sealedPart)) := do
  match ← serialize p with
  | .error e => return .error e
  | .ok plain =>
    let buffer ← Block.fill? Size.sealedPart [⟨0, Size.privatePlain⟩] [plain.toList]
    let associated ← associatedData nonce.scheme protocolId expireTime
    match ← sealInPlace buffer.toList associated nonce key with
    | (.ok (), buffer) => return .ok (← Block.ofList? Size.sealedPart buffer)
    | (.error e, _) => return .error e

/-- The private part of sealed bytes. -/
def ofSealed (sealedPart : Block Size.sealedPart) (protocolId expireTime : UInt64)
    (nonce : Nonce) (key : PrivateKey) : Option (Except TokenError PrivateToken) := do
  let associated ← associatedData nonce.scheme protocolId expireTime
  match ← openInPlace sealedPart.toList associated nonce key with
  | (.ok (), buffer) => return PrivateToken.ofBytes (← buffer.slice? 0 Size.privatePlain)
  | (.error e, _) => return .error e

/-- A token of a private part, with the fields that are public beside it. -/
def sealPrivate (p : PrivateToken) (protocolId createTime expireTime : UInt64) (nonce : Nonce)
    (key : PrivateKey) : Option (Except TokenError Token) := do
  match ← sealed p protocolId expireTime nonce key with
  | .error e => return .error e
  | .ok sealedPart =>
    return .ok { protocolId, createTime, expireTime, nonce, sealedPart, timeout := p.timeout,
                 servers := p.servers, clientToServer := p.clientToServer,
                 serverToClient := p.serverToClient }

/-- The wire form of a token. -/
def toBytes (t : Token) : Option (Except TokenError (Block Size.token)) := do
  let buffer ← Bytes.storeAll? t.layout.fields t.headerParts (List.replicate Size.token 0)
  if t.trailer.length ≤ t.layout.trailerCapacity then
    let buffer ← buffer.store? t.layout.trailerOffset
      (t.layout.trailerOffset + t.trailer.length) t.trailer
    return .ok (← Block.ofList? Size.token buffer)
  else return .error (.tokenOverflow (t.layout.trailerOffset + t.trailer.length))

/-- What stands in a field, which has to have a size. -/
def fieldOf (bytes : Bytes) (f : Field) (size : Nat) : Option (Block size) := do
  Block.ofList? size (← bytes.slice? f.offset f.stop)

/-- The nonce of a scheme that stands in a field. -/
def nonceOf (scheme : Scheme) (bytes : Bytes) (f : Field) : Option Nonce :=
  match scheme with
  | .extended => do return .extended (← fieldOf bytes f Size.extendedNonce)
  | .sequence => do return .sequence (Bytes.toUInt64 (← fieldOf bytes f Size.sequenceNonce).toList)

/-- Reads a wire form. -/
def parse (bytes : Bytes) : Option (Except TokenError Token) :=
  if bytes.length ≠ Size.token then some (.error (.malformed (.length bytes.length)))
  else do
    match Scheme.ofVersionTag? (← bytes.slice? 0 Size.version) with
    | none => return .error (.malformed .version)
    | some scheme =>
      let layout := Layout.of scheme
      let nonce ← nonceOf scheme bytes layout.nonce
      let trailer ← bytes.slice? layout.trailerOffset bytes.length
      match Token.readTrailer trailer with
      | .error e => return .error e
      | .ok ((servers, clientToServer, serverToClient), rest) =>
        let behind ← trailer.slice? (trailer.length - rest.length) trailer.length
        if behind.all (· == 0) then
          return .ok {
            protocolId := Bytes.toUInt64 (← fieldOf bytes layout.protocolId 8).toList
            createTime := Bytes.toUInt64 (← fieldOf bytes layout.createTime 8).toList
            expireTime := Bytes.toUInt64 (← fieldOf bytes layout.expireTime 8).toList
            nonce
            sealedPart := ← fieldOf bytes layout.sealedPart Size.sealedPart
            timeout := Bytes.toInt32 (← fieldOf bytes layout.timeout 4).toList
            servers, clientToServer, serverToClient }
        else return .error (.malformed .padding)

/-- Checks a request and draws the session keys. -/
def draft (r : TokenRequest) (now : Instant) (random : RandomSource) :
    Option (Except IssuanceError Draft × RandomSource) :=
  match r.check now.seconds with
  | .error e => some (.error e, random)
  | .ok (servers, expireTime) => do
    let (clientToServer, random) := random.draw Size.key
    let (serverToClient, random) := random.draw Size.key
    let content ← build r.clientId r.timeout servers r.userData clientToServer serverToClient
    return (IssuanceError.during .building content |>.map fun content =>
      { content, protocolId := r.protocolId, createTime := now.seconds, expireTime }, random)

/-- Issues a token at an instant. -/
def issueToken (issuer : Issuer) (now : Instant) (r : TokenRequest) (s : Supply) :
    Option (Except IssuanceError Token × Supply) := do
  match ← draft r now s.random with
  | (.error e, random) => return (.error e, { s with random })
  | (.ok d, random) =>
    match issuer.scheme.nextNonce { s with random } with
    | (.error e, s) => return (.error e, s)
    | (.ok nonce, s) =>
      let made ← sealPrivate d.content d.protocolId d.createTime d.expireTime nonce issuer.key
      return (IssuanceError.during .sealing made, s)

/-! ### Sealing -/

/-- One source is written over the front of a block, as user data and the plain block are. -/
theorem fill?_single {size length : Nat} {source : Bytes} (isLength : source.length = length)
    (fits : length ≤ size) :
    Block.fill? size [⟨0, length⟩] [source] = some (Block.pad size source) := by
  rw [Block.fill?_eq_pad, List.flatten_singleton]
  · exact ⟨rfl, trivial⟩
  · rw [List.map_singleton, isLength]
    rfl
  · rwa [List.flatten_singleton, isLength]

theorem cipherNonce_eq (nonce : Nonce) : cipherNonce nonce = some nonce.cipherNonce := by
  cases nonce with
  | extended bytes => rfl
  | sequence value =>
      -- The first four bytes stay zeros.
      rw [cipherNonce, Block.fill?]
      show (Bytes.storeAll? _ _ (List.replicate 4 0 ++ List.replicate 8 0)).bind _ = _
      rw [Bytes.storeAll?_zeros]
      · rw [List.flatten_singleton, Bytes.length_ofUInt64, Nat.sub_self, List.replicate_zero,
          List.append_nil]
        exact Block.ofList?_toList (Nonce.sequence value).cipherNonce
      · exact ⟨rfl, trivial⟩
      · simp
      · simp

/-- The associated data fill their buffer, whose fields are the version tag and the two words. -/
theorem associatedData_eq (scheme : Scheme) (protocolId expireTime : UInt64) :
    associatedData scheme protocolId expireTime =
      some (PrivateToken.associatedData scheme protocolId expireTime) := by
  have whole : [scheme.versionTag.toList, Bytes.ofUInt64 protocolId,
      Bytes.ofUInt64 expireTime].flatten =
      PrivateToken.associatedData scheme protocolId expireTime := by
    simp [PrivateToken.associatedData]
  have size : (PrivateToken.associatedData scheme protocolId expireTime).length =
      Size.version + 8 + 8 := by
    simp [PrivateToken.associatedData]
  rw [associatedData, Block.fill?_eq_pad, whole]
  · show some (Block.pad _ _).toList = _
    rw [Block.toList_pad_of_le (Nat.le_of_eq size), size, Nat.sub_self, List.replicate_zero,
      List.append_nil]
  · exact ⟨rfl, rfl, rfl, trivial⟩
  · simp
  · rw [whole, size]

/-- The parts of a buffer around the start of its tag; the subtraction ends at zero where there is
no room for a tag. -/
theorem split?_tag (buffer : Bytes) :
    buffer.split? (buffer.length - Size.mac) = some (beforeTag buffer, tagOf buffer) :=
  if_pos (Nat.sub_le ..)

theorem length_tagOf {buffer : Bytes} (room : ¬ buffer.length < Size.mac) :
    (tagOf buffer).length = Size.mac := by
  rw [tagOf, List.length_drop]
  omega

/-- Sealing keeps to its buffer: the tag is written over the bytes that were put aside for it, and
they are as many as it has. -/
theorem sealInPlace_eq (buffer associated : Bytes) (nonce : Nonce) (key : PrivateKey) :
    sealInPlace buffer associated nonce key =
      some (ConnectTokens.sealInPlace buffer associated nonce key) := by
  rw [sealInPlace, ConnectTokens.sealInPlace]
  split
  · rfl
  · next room =>
    simp only [split?_tag, cipherNonce_eq, Option.bind_eq_bind, Option.bind_some]
    cases Aead.encrypt (nonce.cipherKey key) nonce.cipherNonce associated (beforeTag buffer) with
    | none => rfl
    | some made =>
        obtain ⟨ciphertext, tag⟩ := made
        have size : tag.toList.length = (tagOf buffer).length := by
          rw [tag.length_toList, length_tagOf room]
          rfl
        simp only [Bytes.store?_whole size, Option.bind_some]
        rfl

/-- Opening keeps to its buffer, whether or not it is long enough to hold a tag. -/
theorem openInPlace_eq (buffer associated : Bytes) (nonce : Nonce) (key : PrivateKey) :
    openInPlace buffer associated nonce key =
      some (ConnectTokens.openInPlace buffer associated nonce key) := by
  rw [openInPlace, ConnectTokens.openInPlace]
  split
  · rfl
  · next room =>
    have isTag : Block.ofList? Size.mac (tagOf buffer) = some ⟨tagOf buffer, length_tagOf room⟩ :=
      dif_pos (length_tagOf room)
    simp only [split?_tag, isTag, cipherNonce_eq, Option.bind_eq_bind, Option.bind_some]
    cases Aead.decrypt? (nonce.cipherKey key) nonce.cipherNonce associated (beforeTag buffer)
      (tagOf buffer) <;> rfl

/-! ### Private parts -/

section

variable (p : PrivateToken) (protocolId createTime expireTime : UInt64) (nonce : Nonce)
  (key : PrivateKey)

theorem build_eq (clientId : UInt64) (timeout : Int32) (servers : ServerAddresses)
    (userData : Bytes) (clientToServer serverToClient : Block Size.key) :
    build clientId timeout servers userData clientToServer serverToClient =
      some (PrivateToken.build clientId timeout servers userData clientToServer
        serverToClient) := by
  rw [build, PrivateToken.build]
  split
  · next fits =>
    rw [fill?_single rfl fits]
    rfl
  · rfl

theorem serialize_eq : serialize p = some p.serialize := by
  rw [serialize, PrivateToken.serialize]
  split
  · next fits =>
    rw [fill?_single rfl fits]
    rfl
  · rfl

theorem sealed_eq :
    sealed p protocolId expireTime nonce key =
      some (p.sealed protocolId expireTime nonce key) := by
  have plainFits (plain : Block Size.privatePlain) :
      Block.fill? Size.sealedPart [⟨0, Size.privatePlain⟩] [plain.toList] =
        some (Block.pad Size.sealedPart plain.toList) :=
    fill?_single plain.length_toList (by decide)
  have whole : Block.ofList? Size.sealedPart
      (sealedBuffer (Block.pad Size.privatePlain p.fields).toList
        (PrivateToken.associatedData nonce.scheme protocolId expireTime) nonce key) =
      some (p.sealedBlock protocolId expireTime nonce key) :=
    Block.ofList?_toList (p.sealedBlock protocolId expireTime nonce key)
  rw [sealed, serialize_eq, p.sealed_eq, p.serialize_eq]
  simp only [Option.bind_eq_bind, Option.bind_some, plainFits, associatedData_eq, sealInPlace_eq,
    PrivateToken.sealInPlace_pad, whole]
  rfl

/-- A sealed part is opened in a buffer of its own, and the plain block is a range of that. -/
theorem ofSealed_eq (sealedPart : Block Size.sealedPart) :
    ofSealed sealedPart protocolId expireTime nonce key =
      some (PrivateToken.ofSealed sealedPart protocolId expireTime nonce key) := by
  rw [ofSealed, PrivateToken.ofSealed]
  simp only [Option.bind_eq_bind, Option.bind_some, associatedData_eq, openInPlace_eq]
  cases opened : ConnectTokens.openInPlace sealedPart.toList
    (PrivateToken.associatedData nonce.scheme protocolId expireTime) nonce key with
  | mk outcome buffer =>
      cases outcome with
      | error e => rfl
      | ok _ =>
          have inside : Size.privatePlain ≤ buffer.length := by
            rw [(sealInPlace_of_openInPlace opened).1, sealedPart.length_toList]
            decide
          simp only [Bytes.slice?_from_start inside]
          rfl

theorem sealPrivate_eq :
    sealPrivate p protocolId createTime expireTime nonce key =
      some (Token.sealPrivate p protocolId createTime expireTime nonce key) := by
  rw [sealPrivate, sealed_eq, Token.sealPrivate]
  cases p.sealed protocolId expireTime nonce key <;> rfl

end

/-! ### Tokens -/

/-- The header is written over the front of a buffer with room for it, field after field. -/
theorem storeAll?_header (t : Token) {room : Nat} (fits : t.layout.trailerOffset ≤ room) :
    Bytes.storeAll? t.layout.fields t.headerParts (List.replicate room 0) =
      some (t.header ++ List.replicate (room - t.layout.trailerOffset) 0) := by
  have length : t.headerParts.flatten.length = t.layout.trailerOffset := by
    rw [← t.header_eq_flatten, t.length_header]
  have partsFit : t.headerParts.flatten.length ≤ room := by rwa [length]
  have written := Bytes.storeAll?_zeros [] (Layout.inRow t.nonce.scheme) t.map_length_headerParts
    partsFit
  rwa [List.nil_append, List.nil_append, length, ← t.header_eq_flatten] at written

/-- The trailer is written over what is behind the header, as far as it is long. -/
theorem store?_trailer (t : Token) {room : Nat} (fits : t.trailer.length ≤ room) :
    Bytes.store? (t.header ++ List.replicate room 0) t.layout.trailerOffset
        (t.layout.trailerOffset + t.trailer.length) t.trailer =
      some (t.header ++ t.trailer ++ List.replicate (room - t.trailer.length) 0) :=
  Bytes.store?_zeros (f := ⟨t.layout.trailerOffset, t.trailer.length⟩) t.length_header.symm rfl fits

/-- A token is written within its size: the header ends in front of the trailer, and there is room
for the trailer behind it. -/
theorem toBytes_eq (t : Token) : toBytes t = some t.toBytes := by
  have offset : t.layout.trailerOffset ≤ Size.token := Layout.trailerOffset_le t.nonce.scheme
  have fits := t.length_trailer_le
  have whole : Block.ofList? Size.token (t.header ++ t.trailer ++
      List.replicate (t.layout.trailerCapacity - t.trailer.length) 0) = some t.wire := by
    rw [List.append_assoc]
    exact Block.ofList?_toList t.wire
  rw [toBytes, t.toBytes_eq, storeAll?_header t offset, ← Layout.trailerCapacity]
  simp only [Option.bind_eq_bind, Option.bind_some, if_pos fits, store?_trailer t fits, whole]
  rfl

section

variable {bytes : Bytes} {scheme : Scheme} {f : Field} (size : Nat)

/-- What stands in a field of a layout, in bytes of the size of a token: no field of either layout
leaves them. -/
theorem fieldOf_eq (length : bytes.length = Size.token) (isField : f ∈ (Layout.of scheme).fields)
    (isSize : f.length = size) : fieldOf bytes f size = some (Block.pad size (f.slice bytes)) := by
  have inside : f.stop ≤ bytes.length := by
    rw [length]
    exact Nat.le_trans (Layout.stop_le_trailerOffset scheme f isField)
      (Layout.trailerOffset_le scheme)
  rw [fieldOf, Bytes.slice?_field inside]
  exact Block.ofList?_eq_pad ((Layout.length_slice length isField).trans isSize)

theorem toList_pad_slice (length : bytes.length = Size.token)
    (isField : f ∈ (Layout.of scheme).fields) (isSize : f.length = size) :
    (Block.pad size (f.slice bytes)).toList = f.slice bytes := by
  have whole := (Layout.length_slice length isField).trans isSize
  rw [Block.toList_pad_of_le (Nat.le_of_eq whole), whole, Nat.sub_self, List.replicate_zero,
    List.append_nil]

theorem nonceOf_eq (length : bytes.length = Size.token) :
    nonceOf scheme bytes (Layout.of scheme).nonce =
      some (Nonce.ofBytes scheme ((Layout.of scheme).nonce.slice bytes)) := by
  have isField : (Layout.of scheme).nonce ∈ (Layout.of scheme).fields := by simp [Layout.fields]
  cases scheme with
  | extended =>
      rw [nonceOf, fieldOf_eq Size.extendedNonce length isField rfl]
      rfl
  | sequence =>
      rw [nonceOf, fieldOf_eq Size.sequenceNonce length isField rfl]
      show some (Nonce.sequence (Bytes.toUInt64 (Block.pad _ _).toList)) = _
      rw [toList_pad_slice Size.sequenceNonce length isField rfl]
      rfl

/-- What is behind a trailer that was read is taken off its end, for reading takes bytes from the
front alone. -/
theorem slice?_behind {rest : Bytes} {fields : ServerAddresses × Block Size.key × Block Size.key}
    (taken : Token.readTrailer bytes = .ok (fields, rest)) :
    bytes.slice? (bytes.length - rest.length) bytes.length = some rest := by
  obtain ⟨servers, clientToServer, serverToClient⟩ := fields
  obtain ⟨-, whole⟩ := Token.readTrailer_eq_ok_iff.mp taken
  rw [Bytes.slice?_to_end (Nat.sub_le ..), whole, List.length_append, Nat.add_sub_cancel,
    List.drop_left]

end

/-- No range leaves the bytes that are read, whatever they are: their number is checked before any
range is taken. -/
theorem parse_eq (bytes : Bytes) : parse bytes = some (Token.parse bytes) := by
  rw [parse, Token.parse]
  split
  · rfl
  · next length =>
    have length : bytes.length = Size.token := not_not.mp length
    have front : bytes.slice? 0 Size.version = some (bytes.take Size.version) :=
      Bytes.slice?_from_start (by rw [length]; decide)
    simp only [front, Option.bind_eq_bind, Option.bind_some]
    cases Scheme.ofVersionTag? (bytes.take Size.version) with
    | none => rfl
    | some scheme =>
        have inside : (Layout.of scheme).trailerOffset ≤ bytes.length := by
          rw [length]
          exact Layout.trailerOffset_le scheme
        simp only [nonceOf_eq length, Bytes.slice?_to_end inside, Option.bind_some]
        rw [Token.ofBytes]
        cases taken : Token.readTrailer (bytes.drop (Layout.of scheme).trailerOffset) with
        | error e => rfl
        | ok fields =>
            obtain ⟨⟨servers, clientToServer, serverToClient⟩, rest⟩ := fields
            simp only [slice?_behind taken, Option.bind_some]
            split
            · have protocolId : (Layout.of scheme).protocolId ∈ (Layout.of scheme).fields := by
                simp [Layout.fields]
              have createTime : (Layout.of scheme).createTime ∈ (Layout.of scheme).fields := by
                simp [Layout.fields]
              have expireTime : (Layout.of scheme).expireTime ∈ (Layout.of scheme).fields := by
                simp [Layout.fields]
              have sealedPart : (Layout.of scheme).sealedPart ∈ (Layout.of scheme).fields := by
                simp [Layout.fields]
              have timeout : (Layout.of scheme).timeout ∈ (Layout.of scheme).fields := by
                simp [Layout.fields]
              simp only [fieldOf_eq 8 length protocolId rfl, fieldOf_eq 8 length createTime rfl,
                fieldOf_eq 8 length expireTime rfl,
                fieldOf_eq Size.sealedPart length sealedPart rfl,
                fieldOf_eq 4 length timeout rfl, toList_pad_slice 8 length protocolId rfl,
                toList_pad_slice 8 length createTime rfl, toList_pad_slice 8 length expireTime rfl,
                toList_pad_slice 4 length timeout rfl, Option.bind_some, Option.pure_def]
            · rfl

/-! ### Issuances -/

theorem draft_eq (r : TokenRequest) (now : Instant) (random : RandomSource) :
    draft r now random = some (r.draft now random) := by
  rw [draft, TokenRequest.draft]
  cases r.check now.seconds with
  | error e => rfl
  | ok checked =>
      simp only [build_eq]
      rfl

/-- An issuance keeps to its buffers, since all of its steps do and the others touch no buffer. -/
theorem issueToken_eq (issuer : Issuer) (now : Instant) (r : TokenRequest) (s : Supply) :
    issueToken issuer now r s = some (issuer.issueToken now r s) := by
  simp only [issueToken, draft_eq, sealPrivate_eq, Option.bind_eq_bind, Option.bind_some]
  rw [Issuer.issueToken]
  rcases r.draft now s.random with ⟨_ | d, random⟩
  · rfl
  · dsimp only
    rcases issuer.scheme.nextNonce { s with random } with ⟨_ | nonce, left⟩ <;> rfl

/-! ### All operations -/

/-- **Every operation keeps to its buffers**, whatever it is given: no range leaves a buffer, what
is written over a range has its length, and the outcome is the one that is known. -/
structure Keeps : Prop where
  build : ∀ clientId timeout servers userData clientToServer serverToClient,
    build clientId timeout servers userData clientToServer serverToClient =
      some (PrivateToken.build clientId timeout servers userData clientToServer serverToClient)
  serialize : ∀ p : PrivateToken, serialize p = some p.serialize
  sealed : ∀ (p : PrivateToken) protocolId expireTime nonce key,
    sealed p protocolId expireTime nonce key = some (p.sealed protocolId expireTime nonce key)
  ofSealed : ∀ sealedPart protocolId expireTime nonce key,
    ofSealed sealedPart protocolId expireTime nonce key =
      some (PrivateToken.ofSealed sealedPart protocolId expireTime nonce key)
  sealPrivate : ∀ p protocolId createTime expireTime nonce key,
    sealPrivate p protocolId createTime expireTime nonce key =
      some (Token.sealPrivate p protocolId createTime expireTime nonce key)
  toBytes : ∀ t : Token, toBytes t = some t.toBytes
  parse : ∀ bytes, parse bytes = some (Token.parse bytes)
  issueToken : ∀ (issuer : Issuer) now r s,
    issueToken issuer now r s = some (issuer.issueToken now r s)

theorem keeps : Keeps where
  build := build_eq
  serialize := serialize_eq
  sealed := sealed_eq
  ofSealed sealedPart protocolId expireTime nonce key :=
    ofSealed_eq protocolId expireTime nonce key sealedPart
  sealPrivate := sealPrivate_eq
  toBytes := toBytes_eq
  parse := parse_eq
  issueToken := issueToken_eq

end Ranged

end ConnectTokens
