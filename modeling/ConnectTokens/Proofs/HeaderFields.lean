import ConnectTokens.Proofs.Binding

/-!
# The fields of fixed size stand apart

Writing over one field of an accepted token gives an accepted token that differs in this field
only.  Some of these fields, and all that stands in the trailer, are not bound by the seal: what
a server finds in the sealed part is the same for all tokens that agree in the rest.

## Main Definitions

* `HeaderField`: the fields of fixed size behind the version tag.
* `HeaderField.place`, `HeaderField.put`: where a field stands, and a token with other bytes in it.
* `Token.Apart`: what becomes of a token when its wire form is changed.

## Main Statements

* `Bytes.overwrite_flatten`: writing over one of several byte strings in a row.
* `Layout.offset_eq`: a field starts where the fields before it stop.
* `HeaderField.overwrite_wire`: the wire form with other bytes in a field is that of a token.
* `Token.openPrivate_eq_of_agreeOn`: what a server finds in the sealed part.
* `Token.parse_apart`: both, for all accepted tokens.

## Design Notes

The header is a row of parts, and `HeaderField.number` says which part a field is.  So one lemma
about rows serves all fields under both layouts, and no two places are compared.
-/

namespace ConnectTokens

namespace Bytes

/-! ### Writing over one of several byte strings -/

/-- To write over the middle of three byte strings is to put another one of its length in its
place. -/
theorem overwrite_append {front old behind patch : Bytes} (size : patch.length = old.length) :
    overwrite (front ++ (old ++ behind)) front.length patch = front ++ (patch ++ behind) := by
  have rest : (front ++ (old ++ behind)).drop (front.length + patch.length) = behind := by
    rw [size, ← List.drop_drop, List.drop_left, List.drop_left]
  rw [overwrite, rest, List.take_left, List.append_assoc]
  refine List.take_of_length_le ?_
  simp only [List.length_append, size]
  exact le_rfl

/-- **One of several byte strings in a row** is written over without touching the others, whatever
follows the row. -/
theorem overwrite_flatten {parts : List Bytes} {i : Nat} {old patch : Bytes}
    (stands : parts[i]? = some old) (size : patch.length = old.length) (behind : Bytes) :
    overwrite (parts.flatten ++ behind) (parts.take i).flatten.length patch =
      (parts.set i patch).flatten ++ behind := by
  obtain ⟨inside, rfl⟩ := List.getElem?_eq_some_iff.mp stands
  have row : parts.flatten =
      (parts.take i).flatten ++ (parts[i] ++ (parts.drop (i + 1)).flatten) := by
    rw [← List.flatten_cons, ← List.drop_eq_getElem_cons inside, ← List.flatten_append,
      List.take_append_drop]
  rw [row, List.append_assoc, List.append_assoc, overwrite_append size,
    List.set_eq_take_append_cons_drop, if_pos inside, List.flatten_append, List.flatten_cons]
  simp only [List.append_assoc]

end Bytes

namespace Layout

/-- **A field starts where those before it stop.**  The header has no gaps, under either scheme,
and so the lengths tell the places. -/
theorem offset_eq (s : Scheme) {i : Nat} {f : Field} (stands : (of s).fields[i]? = some f) :
    f.offset = (((of s).fields.take i).map Field.length).sum := by
  have all : ∀ i : Fin 7, (of s).fields[i.val]?.map Field.offset =
      some (((of s).fields.take i.val).map Field.length).sum := by
    cases s <;> decide
  obtain ⟨inside, -⟩ := List.getElem?_eq_some_iff.mp stands
  have starts := all ⟨i, inside⟩
  rw [stands] at starts
  exact Option.some.inj starts

end Layout

/-- A field of fixed size behind the version tag. -/
inductive HeaderField where
  | protocolId
  | createTime
  | expireTime
  | nonce
  | sealedPart
  | timeout
deriving DecidableEq, Repr

namespace HeaderField

/-- Where the field stands in a layout. -/
def place (l : Layout) : HeaderField → Field
  | protocolId => l.protocolId
  | createTime => l.createTime
  | expireTime => l.expireTime
  | nonce => l.nonce
  | sealedPart => l.sealedPart
  | timeout => l.timeout

/-- The token with what some bytes denote in the field, all else as it was. -/
def put (t : Token) (bytes : Bytes) : HeaderField → Token
  | protocolId => { t with protocolId := Bytes.toUInt64 bytes }
  | createTime => { t with createTime := Bytes.toUInt64 bytes }
  | expireTime => { t with expireTime := Bytes.toUInt64 bytes }
  | nonce => { t with nonce := Nonce.ofBytes t.nonce.scheme bytes }
  | sealedPart => { t with sealedPart := Block.pad Size.sealedPart bytes }
  | timeout => { t with timeout := Bytes.toInt32 bytes }

/-- Which of the fields of a layout this is. -/
def number : HeaderField → Nat
  | protocolId => 1
  | createTime => 2
  | expireTime => 3
  | nonce => 4
  | sealedPart => 5
  | timeout => 6

theorem getElem?_fields (l : Layout) (f : HeaderField) :
    l.fields[f.number]? = some (f.place l) := by
  cases f <;> rfl

variable {t : Token} {f : HeaderField} {patch : Bytes}

@[simp] theorem scheme_nonce_put (t : Token) (f : HeaderField) (patch : Bytes) :
    (f.put t patch).nonce.scheme = t.nonce.scheme := by
  cases f with
  | nonce => exact Nonce.scheme_ofBytes _ patch
  | _ => rfl

@[simp] theorem trailer_put (t : Token) (f : HeaderField) (patch : Bytes) :
    (f.put t patch).trailer = t.trailer := by
  cases f <;> rfl

theorem padding_put (t : Token) (f : HeaderField) (patch : Bytes) :
    (f.put t patch).padding = t.padding := by
  rw [Token.padding, Token.padding, trailer_put, Token.layout, scheme_nonce_put]
  rfl

theorem unscoped_put (t : Token) (f : HeaderField) (patch : Bytes) :
    (f.put t patch).unscoped = f.put t.unscoped patch := by
  cases f <;> rfl

/-- The bytes of the field are written as they are, and those of the others as they were.  To put
and to write change places. -/
theorem headerParts_put (size : patch.length = (f.place t.layout).length) :
    (f.put t patch).headerParts = t.headerParts.set f.number patch := by
  have tag : (f.put t patch).versionTag = t.versionTag := by
    rw [Token.versionTag, scheme_nonce_put, Token.versionTag]
  have word {g : HeaderField} (isWord : (g.place t.layout).length = 8)
      (size : patch.length = (g.place t.layout).length) :
      Bytes.ofUInt64 (Bytes.toUInt64 patch) = patch :=
    (Bytes.eq_ofUInt64_iff.mpr ⟨size.trans isWord, rfl⟩).symm
  simp only [Token.headerParts, tag]
  cases f with
  | protocolId => rw [put, word rfl size]; rfl
  | createTime => rw [put, word rfl size]; rfl
  | expireTime => rw [put, word rfl size]; rfl
  | nonce =>
      have back : (Nonce.ofBytes t.nonce.scheme patch).bytes = patch := by
        refine (Nonce.eq_bytes_iff.mpr ?_).symm
        rw [Nonce.scheme_ofBytes]
        exact ⟨size, rfl⟩
      rw [put, back]
      rfl
  | sealedPart =>
      have back : (Block.pad Size.sealedPart patch).toList = patch :=
        (Block.eq_toList_iff.mpr ⟨size, rfl⟩).symm
      rw [put, back]
      rfl
  | timeout =>
      have back : Bytes.ofInt32 (Bytes.toInt32 patch) = patch :=
        (Bytes.eq_ofInt32_iff.mpr ⟨size, rfl⟩).symm
      rw [put, back]
      rfl

/-- Where a field starts in the wire form: behind the parts before it, which have the lengths of
their fields. -/
theorem offset_place (t : Token) (f : HeaderField) :
    (f.place t.layout).offset = (t.headerParts.take f.number).flatten.length := by
  rw [List.length_flatten, List.map_take, Token.map_length_headerParts, ← List.map_take]
  exact Layout.offset_eq t.nonce.scheme (getElem?_fields t.layout f)

/-- What stands in a field is as long as the field, so that bytes of this length take its place
exactly. -/
theorem exists_part (t : Token) (f : HeaderField) :
    ∃ part, t.headerParts[f.number]? = some part ∧ part.length = (f.place t.layout).length := by
  have lengths := congrArg (·[f.number]?) t.map_length_headerParts
  simp only [List.getElem?_map, getElem?_fields, Option.map_some] at lengths
  exact Option.map_eq_some_iff.mp lengths

/-- **Other bytes in a field of the wire form** make the wire form of a token: the one with these
bytes read into that field. -/
theorem overwrite_wire (size : patch.length = (f.place t.layout).length) :
    Bytes.overwrite t.wire.toList (f.place t.layout).offset patch =
      (f.put t patch).wire.toList := by
  rw [Token.toList_wire, Token.toList_wire, Token.header_eq_flatten, Token.header_eq_flatten,
    headerParts_put size, trailer_put, padding_put, offset_place]
  obtain ⟨part, stands, length⟩ := exists_part t f
  exact Bytes.overwrite_flatten stands (size.trans length.symm) _

end HeaderField

namespace Token

variable {t t' : Token} {w w' : Bytes}

/-- What is written over a field of an accepted token is read there, and nothing else changes.
There are no bytes for which it would be refused. -/
theorem parse_overwrite (accepted : parse w = .ok t) (f : HeaderField) {patch : Bytes}
    (size : patch.length = (f.place t.layout).length) :
    parse (Bytes.overwrite w (f.place t.layout).offset patch) = .ok (f.put t patch) := by
  obtain ⟨isUnscoped, rfl⟩ := parse_eq_ok_iff.mp accepted
  rw [HeaderField.overwrite_wire size, parse_wire, HeaderField.unscoped_put, isUnscoped]

/-! ### What the seal does not bind -/

/-- Two byte strings agree on what the seal of tokens of a layout binds, and on the sealed part. -/
def AgreeOn (l : Layout) (w w' : Bytes) : Prop := ∀ f ∈ l.boundFields, f.slice w' = f.slice w

/-- An accepted token starts with its version tag, and each field is read at its place. -/
theorem headerAt_of_parse (accepted : parse w = .ok t) :
    w.take Size.version = t.versionTag.toList ∧ t.HeaderAt w := by
  obtain ⟨-, rfl⟩ := parse_eq_ok_iff.mp accepted
  refine (take_trailerOffset_eq_header_iff t.length_wire).mp ?_
  rw [← length_header]
  exact List.take_left

/-- Accepted tokens that agree on the wire in what the seal binds agree in what it is. -/
theorem sameSealed_of_agreeOn (accepted : parse w = .ok t) (accepted' : parse w' = .ok t')
    (agree : AgreeOn t.layout w w') : t'.SameSealed t := by
  obtain ⟨version, protocolId, -, expireTime, nonce, sealedPart, -⟩ := headerAt_of_parse accepted
  obtain ⟨version', protocolId', -, expireTime', nonce', sealedPart', -⟩ :=
    headerAt_of_parse accepted'
  simp only [AgreeOn, Layout.boundFields, List.forall_mem_cons] at agree
  obtain ⟨sameVersion, sameProtocolId, sameExpireTime, sameNonce, sameSealedPart, -⟩ := agree
  -- The version tag stands at one place in both layouts, and tells which of them it is.
  have tag : t'.versionTag = t.versionTag :=
    Block.ext (version'.symm.trans (sameVersion.trans version))
  have scheme : t'.nonce.scheme = t.nonce.scheme := Scheme.versionTag_injective tag
  have layout : t'.layout = t.layout := by rw [Token.layout, scheme, Token.layout]
  rw [layout] at protocolId' expireTime' nonce' sealedPart'
  exact {
    versionTag := tag
    nonce := by rw [← nonce', ← nonce, scheme, sameNonce]
    protocolId := by rw [← protocolId', ← protocolId, sameProtocolId]
    expireTime := by rw [← expireTime', ← expireTime, sameExpireTime]
    sealedPart := by rw [← sealedPart', ← sealedPart, sameSealedPart] }

/-- What a server finds in the sealed part hangs on what the seal binds, and on nothing else. -/
theorem SameSealed.openPrivate_eq (same : t'.SameSealed t) (key : PrivateKey) :
    t'.openPrivate key = t.openPrivate key := by
  rw [openPrivate, openPrivate, same.nonce, same.protocolId, same.expireTime, same.sealedPart]

/-- Two accepted tokens that agree on the wire in what the seal binds open alike, under any key;
the rest may differ. -/
theorem openPrivate_eq_of_agreeOn (accepted : parse w = .ok t) (accepted' : parse w' = .ok t')
    (agree : AgreeOn t.layout w w') (key : PrivateKey) :
    t'.openPrivate key = t.openPrivate key :=
  (sameSealed_of_agreeOn accepted accepted' agree).openPrivate_eq key

/-! ### Main result -/

/-- **What becomes of an accepted token when its wire form is changed.** -/
structure Apart (t : Token) (w : Bytes) : Prop where
  /-- Other bytes in a field are accepted, and change this field only. -/
  field : ∀ (f : HeaderField) (patch : Bytes), patch.length = (f.place t.layout).length →
    parse (Bytes.overwrite w (f.place t.layout).offset patch) = .ok (f.put t patch)
  /-- Create time, timeout, addresses and public session keys have no part in the opening. -/
  opens : ∀ w' t', parse w' = .ok t' → AgreeOn t.layout w w' →
    ∀ key, t'.openPrivate key = t.openPrivate key
  /-- Who changes nothing that the seal binds is refused, or has changed nothing for the server. -/
  edited : ∀ w', AgreeOn t.layout w w' →
    (∃ e, parse w' = .error e) ∨
      ∃ t', parse w' = .ok t' ∧ ∀ key, t'.openPrivate key = t.openPrivate key

/-- **The fields of an accepted token stand apart**, and only some of them are sealed.  Those that
are not can be anything without the sealed part noticing. -/
theorem parse_apart (w : Bytes) (t : Token) (accepted : parse w = .ok t) : t.Apart w where
  field := fun f _ size => parse_overwrite accepted f size
  opens := fun _ _ accepted' agree key => openPrivate_eq_of_agreeOn accepted accepted' agree key
  edited := by
    intro w' agree
    cases read : parse w' with
    | error e => exact .inl ⟨e, rfl⟩
    | ok t' => exact .inr ⟨t', rfl, openPrivate_eq_of_agreeOn accepted read agree⟩

/-- A token under an extended nonce, for an IPv6 host. -/
def roamingToken : Token where
  protocolId := 77
  createTime := 2000
  expireTime := 2045
  nonce := .extended ⟨List.replicate 24 6, List.length_replicate⟩
  sealedPart := ⟨List.replicate 1024 8, List.length_replicate⟩
  timeout := 5
  servers := ⟨[.v6 ⟨[32, 1, 13, 184, 0, 0, 0, 0, 0, 0, 0, 0, 0, 0, 0, 9], rfl⟩ 5002 0 0],
    by decide, by decide⟩
  clientToServer := ⟨List.replicate 32 11, List.length_replicate⟩
  serverToClient := ⟨List.replicate 32 12, List.length_replicate⟩

/-- The same token for the eyes of a server, although it has other times, servers and keys. -/
def settledToken : Token :=
  { roamingToken with
    createTime := 1
    timeout := -1
    servers := ⟨[.v4 ⟨[198, 51, 100, 9], rfl⟩ 5003, .v4 ⟨[198, 51, 100, 10], rfl⟩ 5003],
      by decide, by decide⟩
    clientToServer := ⟨List.replicate 32 13, List.length_replicate⟩ }

/-- A token whose nonce is written over is read with the new one, and one that differs in create
time, timeout, servers and a session key opens as it does, under every key. -/
theorem parse_apart_roaming :
    parse roamingToken.wire.toList = .ok roamingToken ∧
    parse (Bytes.overwrite roamingToken.wire.toList 37 (List.replicate 24 7)) =
      .ok { roamingToken with
        nonce := .extended ⟨List.replicate 24 7, List.length_replicate⟩ } ∧
    AgreeOn roamingToken.layout roamingToken.wire.toList settledToken.wire.toList ∧
    ∀ key, settledToken.openPrivate key = roamingToken.openPrivate key := by
  have accepted : parse roamingToken.wire.toList = .ok roamingToken := roamingToken.parse_wire
  have accepted' : parse settledToken.wire.toList = .ok settledToken := settledToken.parse_wire
  have agree : AgreeOn roamingToken.layout roamingToken.wire.toList settledToken.wire.toList :=
    SameSealed.slice_wire_eq ⟨rfl, rfl, rfl, rfl, rfl⟩
  have apart := parse_apart roamingToken.wire.toList roamingToken accepted
  refine ⟨accepted, ?_, agree, apart.opens _ settledToken accepted' agree⟩
  exact apart.field .nonce (List.replicate 24 7) List.length_replicate

end Token

end ConnectTokens
