import ConnectTokens.Proofs.Opening

/-!
# The block of a private part

The plain block of a private part has its fields in front and zeros behind them.  Reading looks
at the fields only: as many bytes of a block as the fields take decide what is read from it, and
the bytes behind them, which in a token would have to be zero, are nobody's business here.

## Main Definitions

* `PrivateToken.usedSize`: how many bytes the fields take.
* `PrivateToken.IsBlockOf`: all that the block of a private part is.
* `PrivateToken.IsReadFrom`: all that a private part has to do with a block that gives it.

## Main Statements

* `PrivateToken.deserialize_eq_ok_iff`: what is read, and from which blocks.
* `PrivateToken.serialize_deserialize`: both directions, for all private parts and all blocks.

## Design Notes

Where both keys and the user data stand depends on the addresses.  No statement here says so by
numbers: a block gives a private part exactly when it starts with the fields of it, one behind
the other.
-/

namespace ConnectTokens

namespace PrivateToken

variable {p : PrivateToken} {b other : Block Size.privatePlain}

/-- How many bytes of its block the fields of a private part take. -/
def usedSize (p : PrivateToken) : Nat := 12 + p.servers.encodedSize + 320

theorem length_fields_eq_usedSize (p : PrivateToken) : p.fields.length = p.usedSize := by
  rw [length_fields, usedSize]
  omega

/-- The fields fit the block, by the bound on the number of servers that a private part carries.
-/
theorem usedSize_le (p : PrivateToken) : p.usedSize ≤ 1008 := by
  rw [← length_fields_eq_usedSize]
  exact p.length_fields_le

/-- **A block gives a private part exactly when it starts with its fields.**  The rest of the
block is free, for a reader does not look at it. -/
theorem deserialize_eq_ok_iff :
    deserialize b = .ok p ↔ p.unscoped = p ∧ b.toList.take p.usedSize = p.fields := by
  rw [deserialize, ofBytes, ← length_fields_eq_usedSize, eq_comm (b := p.fields),
    ← List.prefix_iff_eq_take]
  constructor
  · intro read
    cases taken : PrivateToken.read b.toList with
    | error e =>
        rw [taken] at read
        cases read
    | ok q =>
        obtain ⟨p', rest⟩ := q
        rw [taken] at read
        cases read
        obtain ⟨isUnscoped, whole⟩ := read_eq_ok_iff.mp taken
        exact ⟨isUnscoped, rest, whole.symm⟩
  · rintro ⟨isUnscoped, rest, whole⟩
    rw [read_eq_ok_iff.mpr ⟨isUnscoped, whole.symm⟩]
    rfl

/-- What is in front in the block of a private part: its fields, up to the size that they use. -/
theorem take_pad_fields (p : PrivateToken) :
    (Block.pad Size.privatePlain p.fields).toList.take p.usedSize = p.fields := by
  rw [Block.toList_pad_of_le p.length_fields_le, ← length_fields_eq_usedSize, List.take_left]

/-- What is behind in the block of a private part: zeros, whose number is what the fields leave of
the block. -/
theorem drop_pad_fields (p : PrivateToken) :
    (Block.pad Size.privatePlain p.fields).toList.drop p.usedSize =
      List.replicate (1008 - p.usedSize) 0 := by
  rw [Block.toList_pad_of_le p.length_fields_le, ← length_fields_eq_usedSize, List.drop_left]
  rfl

/-- **All that the block of a private part is.** -/
structure IsBlockOf (b : Block Size.privatePlain) (p : PrivateToken) : Prop where
  length : b.toList.length = 1008
  used_le : p.usedSize ≤ 1008
  front : b.toList.take p.usedSize =
    Bytes.ofUInt64 p.clientId ++ Bytes.ofInt32 p.timeout ++ p.servers.encode ++
      p.clientToServer.toList ++ p.serverToClient.toList ++ p.userData.toList
  behind : b.toList.drop p.usedSize = List.replicate (1008 - p.usedSize) 0
  /-- It gives the private part back, without flow information and scopes. -/
  back : deserialize b = .ok p.unscoped

/-- **All that a private part has to do with a block that gives it.** -/
structure IsReadFrom (p : PrivateToken) (b : Block Size.privatePlain) : Prop where
  /-- The fields are written just as they were read. -/
  written : ∃ c, p.serialize = .ok c ∧ c.toList.take p.usedSize = b.toList.take p.usedSize
  /-- Each byte of the fields matters, and no byte behind them. -/
  alone : ∀ other : Block Size.privatePlain,
    deserialize other = .ok p ↔ other.toList.take p.usedSize = b.toList.take p.usedSize

/-- The padded fields of a private part are its block, in all that this means. -/
theorem isBlockOf_pad_fields (p : PrivateToken) :
    IsBlockOf (Block.pad Size.privatePlain p.fields) p where
  length := Block.length_toList _
  used_le := p.usedSize_le
  front := p.take_pad_fields
  behind := p.drop_pad_fields
  back := p.ofBytes_pad_fields

/-- A private part that was read is written with the bytes that it was read from, as far as its
fields go. -/
theorem isReadFrom_of_deserialize (read : deserialize b = .ok p) : p.IsReadFrom b where
  written := by
    refine ⟨_, p.serialize_eq, ?_⟩
    rw [take_pad_fields, (deserialize_eq_ok_iff.mp read).2]
  alone := by
    obtain ⟨isUnscoped, front⟩ := deserialize_eq_ok_iff.mp read
    intro other
    rw [deserialize_eq_ok_iff, front, and_iff_right isUnscoped]

/-- **Private parts and their blocks.**  Every private part has a block, which gives it back, and
a block that gives a private part is told from other blocks that do by what is behind the fields
alone. -/
theorem serialize_deserialize :
    (∀ p : PrivateToken, ∃ b, p.serialize = .ok b ∧ IsBlockOf b p) ∧
      ∀ b p, deserialize b = .ok p → p.IsReadFrom b :=
  ⟨fun p => ⟨_, p.serialize_eq, p.isBlockOf_pad_fields⟩, fun _ _ => isReadFrom_of_deserialize⟩

/-- A private part for two servers, one of which is an IPv6 host. -/
def pairPrivate : PrivateToken where
  clientId := 9
  timeout := -1
  servers := ⟨[.v6 ⟨[32, 1, 13, 184, 0, 0, 0, 0, 0, 0, 0, 0, 0, 0, 0, 7], rfl⟩ 5000 0 0,
    .v4 ⟨[198, 51, 100, 7], rfl⟩ 5001], by decide, by decide⟩
  clientToServer := ⟨List.replicate 32 3, List.length_replicate⟩
  serverToClient := ⟨List.replicate 32 4, List.length_replicate⟩
  userData := ⟨List.replicate 256 5, List.length_replicate⟩

/-- A block with the fields of `pairPrivate` and with bytes behind them that are not zero. -/
def dirtyBlock : Block Size.privatePlain where
  toList := [9, 0, 0, 0, 0, 0, 0, 0] ++ [255, 255, 255, 255] ++ [2, 0, 0, 0] ++
    [2, 32, 1, 13, 184, 0, 0, 0, 0, 0, 0, 0, 0, 0, 0, 0, 7, 136, 19] ++
    [1, 198, 51, 100, 7, 137, 19] ++ List.replicate 32 3 ++ List.replicate 32 4 ++
    List.replicate 256 5 ++ List.replicate 646 6
  length_toList := by
    simp only [List.length_append, List.length_cons, List.length_nil, List.length_replicate]
    rfl

/-- A block with other bytes than zeros behind its fields gives a private part for two servers,
which is written with the same fields. -/
theorem serialize_deserialize_dirty :
    deserialize dirtyBlock = .ok pairPrivate ∧ pairPrivate.IsReadFrom dirtyBlock := by
  have read : deserialize dirtyBlock = .ok pairPrivate := by decide +kernel
  exact ⟨read, serialize_deserialize.2 dirtyBlock pairPrivate read⟩

end PrivateToken

end ConnectTokens
