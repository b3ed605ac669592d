import ConnectTokens.Proofs.WireForm

/-!
# Opening what was sealed

A sealed buffer opens, under the key, the nonce and the associated data that it
was sealed with, to what it was sealed from.  The private part of a token always
fits its block, so sealing it never fails, and opening the block gives the private
part back without flow information and scopes.

## Main Statements

* `openInPlace_sealedBuffer`: buffers.
* `PrivateToken.ofBytes_pad_fields`: the bytes of the private part.
* `PrivateToken.sealed_eq`, `PrivateToken.ofSealed_sealedBlock`: its sealed bytes.

## Design Notes

`PrivateToken.sealedBlock` is the sealed block as a total function.  It is what
`PrivateToken.sealed` gives, which cannot fail.
-/

namespace ConnectTokens

namespace Bytes

/-- Combining twice with bytes that reach far enough changes nothing.  Where they are too short,
the rest would be lost. -/
theorem xor_xor_cancel {a b : Bytes} (reaches : a.length ≤ b.length) : xor (xor a b) b = a := by
  induction a generalizing b with
  | nil => rfl
  | cons x a ih =>
      cases b with
      | nil => cases reaches
      | cons y b =>
          have rest : xor (xor a b) b = a := ih (Nat.le_of_succ_le_succ reaches)
          show (x ^^^ y ^^^ y) :: xor (xor a b) b = x :: a
          rw [rest, UInt8.xor_assoc, UInt8.xor_self, UInt8.xor_zero]

end Bytes

namespace Aead

/-- Decryption is encryption once more: the key stream depends on the key, the nonce and the
length of the text alone. -/
@[simp] theorem apply_apply (key : Block 32) (nonce : Block 12) (text : Bytes) :
    apply key nonce (apply key nonce text) = text := by
  have reaches : text.length ≤ (ChaCha.keystream key nonce text.length).length := by simp
  calc apply key nonce (apply key nonce text)
      = Bytes.xor (apply key nonce text) (ChaCha.keystream key nonce text.length) := by
        rw [apply, length_apply]
    _ = text := Bytes.xor_xor_cancel reaches

/-- A ciphertext decrypts under its tag.  The bound on the text is the one of the cipher, whose
block counter has 32 bits. -/
theorem decrypt?_apply {key : Block 32} {nonce : Block 12} {associated text : Bytes}
    (short : text.length ≤ maxTextSize) :
    decrypt? key nonce associated (apply key nonce text)
      (tag key nonce associated (apply key nonce text)).toList = some text := by
  rw [decrypt?, if_pos ⟨by rwa [length_apply], rfl⟩, apply_apply]

end Aead

/-! ### Buffers -/

@[simp] theorem beforeTag_append (text : Bytes) (tag : Block 16) :
    beforeTag (text ++ tag.toList) = text := by
  simp [beforeTag, Size.mac]

@[simp] theorem tagOf_append (text : Bytes) (tag : Block 16) :
    tagOf (text ++ tag.toList) = tag.toList := by
  simp [tagOf, Size.mac]

/-- What a buffer becomes when what stands before its tag is sealed. -/
def sealedBuffer (text associated : Bytes) (nonce : Nonce) (key : PrivateKey) : Bytes :=
  let ciphertext := Aead.apply (nonce.cipherKey key) nonce.cipherNonce text
  ciphertext ++ (Aead.tag (nonce.cipherKey key) nonce.cipherNonce associated ciphertext).toList

/-- A sealed buffer is longer than its text by one tag, whatever the text is. -/
@[simp] theorem length_sealedBuffer (text associated : Bytes) (nonce : Nonce)
    (key : PrivateKey) :
    (sealedBuffer text associated nonce key).length = text.length + Size.mac := by
  simp [sealedBuffer, Size.mac]

/-- A buffer with room for a tag and a text that the cipher takes is sealed: its last bytes are
given up for the tag, whatever they were. -/
theorem sealInPlace_eq {buffer associated : Bytes} {nonce : Nonce} {key : PrivateKey}
    (room : Size.mac ≤ buffer.length)
    (short : (beforeTag buffer).length ≤ Aead.maxTextSize) :
    sealInPlace buffer associated nonce key =
      (.ok (), sealedBuffer (beforeTag buffer) associated nonce key) := by
  rw [sealInPlace, if_neg (Nat.not_lt.mpr room), Aead.encrypt, if_pos short]
  rfl

/-- **A sealed buffer opens to its text**; the tag stays behind it.  Associated data, nonce and
key have to be those that it was sealed under. -/
theorem openInPlace_sealedBuffer {text associated : Bytes} {nonce : Nonce} {key : PrivateKey}
    (short : text.length ≤ Aead.maxTextSize) :
    openInPlace (sealedBuffer text associated nonce key) associated nonce key =
      (.ok (), text ++ tagOf (sealedBuffer text associated nonce key)) := by
  have room : ¬ (sealedBuffer text associated nonce key).length < Size.mac := by simp
  rw [openInPlace, if_neg room, sealedBuffer, beforeTag_append, tagOf_append,
    Aead.decrypt?_apply short]

namespace PrivateToken

/-! ### The bytes of the private part -/

/-- The fields of a private part have a length that depends on its addresses alone. -/
theorem length_fields (p : PrivateToken) :
    p.fields.length = p.servers.encodedSize + 332 := by
  simp only [fields, List.length_append, Bytes.length_ofUInt64, Bytes.length_ofInt32,
    ServerAddresses.length_encode, Block.length_toList, Size.key, Size.userData]
  omega

/-- The fields of a private part never outgrow the block that they are padded to. -/
theorem length_fields_le (p : PrivateToken) : p.fields.length ≤ Size.privatePlain := by
  have servers : p.servers.encodedSize ≤ 156 := p.servers.encodedSize_le
  rw [length_fields, show Size.privatePlain = 1008 from rfl]
  omega

/-- The private part always fits its block, so that writing one never fails and its form is the
padded row of fields. -/
theorem serialize_eq (p : PrivateToken) :
    p.serialize = .ok (Block.pad Size.privatePlain p.fields) := by
  rw [serialize, if_pos p.length_fields_le]

/-- **The bytes of a private part read back**, without flow information and scopes.  The padding
behind the fields is not looked at. -/
theorem ofBytes_pad_fields (p : PrivateToken) :
    ofBytes (Block.pad Size.privatePlain p.fields).toList = .ok p.unscoped := by
  have written : (Block.pad Size.privatePlain p.fields).toList =
      p.unscoped.fields ++ List.replicate (Size.privatePlain - p.fields.length) 0 := by
    rw [Block.toList_pad_of_le p.length_fields_le, fields_unscoped]
  rw [ofBytes, read_eq_ok_iff.mpr ⟨p.unscoped_unscoped, written⟩]
  rfl

/-! ### Its sealed bytes -/

/-- The sealed bytes of a private part. -/
def sealedBlock (p : PrivateToken) (protocolId expireTime : UInt64) (nonce : Nonce)
    (key : PrivateKey) : Block Size.sealedPart where
  toList := sealedBuffer (Block.pad Size.privatePlain p.fields).toList
    (associatedData nonce.scheme protocolId expireTime) nonce key
  length_toList := by
    rw [length_sealedBuffer, Block.length_toList]
    rfl

/-- The block before its tag is the plain block: padding to the sealed size is just the room for
the tag. -/
theorem beforeTag_pad (plain : Block Size.privatePlain) :
    beforeTag (Block.pad Size.sealedPart plain.toList).toList = plain.toList := by
  have fits : plain.toList.length ≤ Size.sealedPart := by
    rw [Block.length_toList]
    decide
  rw [beforeTag, Block.length_toList, Block.toList_pad_of_le fits]
  exact List.take_left' plain.length_toList

theorem length_plain_le (plain : Block Size.privatePlain) :
    plain.toList.length ≤ Aead.maxTextSize := by
  rw [Block.length_toList]
  decide

/-- The block is sealed where it stands, with its tag behind the plain block.  Neither of the two
causes to refuse a buffer applies. -/
theorem sealInPlace_pad (plain : Block Size.privatePlain) (associated : Bytes) (nonce : Nonce)
    (key : PrivateKey) :
    sealInPlace (Block.pad Size.sealedPart plain.toList).toList associated nonce key =
      (.ok (), sealedBuffer plain.toList associated nonce key) := by
  have room : Size.mac ≤ (Block.pad Size.sealedPart plain.toList).toList.length := by
    rw [Block.length_toList]
    decide
  rw [sealInPlace_eq room (by rw [beforeTag_pad]; exact length_plain_le plain), beforeTag_pad]

/-- **Sealing a private part never fails**, whatever is in it and under whatever nonce and key. -/
theorem sealed_eq (p : PrivateToken) (protocolId expireTime : UInt64) (nonce : Nonce)
    (key : PrivateKey) :
    p.sealed protocolId expireTime nonce key =
      .ok (p.sealedBlock protocolId expireTime nonce key) := by
  simp only [sealed, serialize_eq, bind, Except.bind, sealInPlace_pad, pure, Except.pure]
  exact congrArg Except.ok (Block.pad_toList (p.sealedBlock protocolId expireTime nonce key))

/-- **A sealed private part opens** under the same protocol, expire time, nonce and key, to the
part without flow information and scopes. -/
theorem ofSealed_sealedBlock (p : PrivateToken) (protocolId expireTime : UInt64)
    (nonce : Nonce) (key : PrivateKey) :
    ofSealed (p.sealedBlock protocolId expireTime nonce key) protocolId expireTime nonce key =
      .ok p.unscoped := by
  have front (behind : Bytes) :
      ((Block.pad Size.privatePlain p.fields).toList ++ behind).take Size.privatePlain =
        (Block.pad Size.privatePlain p.fields).toList :=
    List.take_left' (Block.length_toList _)
  -- The tag stays behind the opened text, and reading stops in front of it.
  rw [ofSealed, sealedBlock]
  simp only [openInPlace_sealedBuffer (length_plain_le _), front, ofBytes_pad_fields]

end PrivateToken

end ConnectTokens
