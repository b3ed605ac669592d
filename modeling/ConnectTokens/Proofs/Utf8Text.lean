import ConnectTokens.Proofs.Numerals
import ConnectTokens.Text.Utf8

/-!
# Texts and their bytes

Every text has one byte form, and only that form reads as the text.  This holds for the strict
reading, and for the lossy one wherever no replacement character is seen.

## Main Definitions

* `Utf8.Writes`: a lead byte and the bytes behind it write a character, as the table of
  well-formed byte sequences has it.

## Main Statements

* `Utf8.exists_writes`, `Utf8.Writes.encodeChar`: the table has just the bytes of characters.
* `Utf8.pieces_encode`: the bytes of a text come in pieces that are its characters.
* `Utf8.decode?_eq_some_iff`, `Utf8.decodeLossy_eq_iff`: which bytes read as a text.

## Design Notes

The scanner cuts a character off by counting, and the writer makes its bytes by dividing.  Both
are compared with the table, so that neither proof looks at the other function.
-/

namespace ConnectTokens.Utf8

/-! ### The table of well-formed byte sequences -/

/-- A byte that goes on with a character. -/
def Trails (b : UInt8) : Prop := 0x80 ≤ b.toNat ∧ b.toNat ≤ 0xBF

/-- A lead byte and the bytes behind it write the character of a number.  A character has no
longer form than it needs, none is a surrogate and none is beyond the last one: that is what
keeps some bytes from the second place. -/
inductive Writes : UInt8 → Bytes → Nat → Prop where
  /-- One byte, for the ASCII characters. -/
  | one {lead : UInt8} (most : lead.toNat < 0x80) : Writes lead [] lead.toNat
  /-- Two bytes. -/
  | two {lead a : UInt8} (least : 0xC2 ≤ lead.toNat) (most : lead.toNat < 0xE0)
      (first : Trails a) : Writes lead [a] (lead.toNat % 0x20 * 0x40 + a.toNat % 0x40)
  /-- Three bytes. -/
  | three {lead a b : UInt8} (least : 0xE0 ≤ lead.toNat) (most : lead.toNat < 0xF0)
      (first : Trails a) (second : Trails b) (notShort : lead.toNat = 0xE0 → 0xA0 ≤ a.toNat)
      (noSurrogate : lead.toNat = 0xED → a.toNat ≤ 0x9F) :
      Writes lead [a, b] ((lead.toNat % 0x10 * 0x40 + a.toNat % 0x40) * 0x40 + b.toNat % 0x40)
  /-- Four bytes. -/
  | four {lead a b c : UInt8} (least : 0xF0 ≤ lead.toNat) (most : lead.toNat < 0xF5)
      (first : Trails a) (second : Trails b) (third : Trails c)
      (notShort : lead.toNat = 0xF0 → 0x90 ≤ a.toNat)
      (notBeyond : lead.toNat = 0xF4 → a.toNat ≤ 0x8F) :
      Writes lead [a, b, c]
        (((lead.toNat % 0x08 * 0x40 + a.toNat % 0x40) * 0x40 + b.toNat % 0x40) * 0x40 +
          c.toNat % 0x40)

variable {lead a b c : UInt8} {tail rest bytes : Bytes} {n : Nat}

/-! ### The writer keeps to the table -/

theorem toNat_ofNat_of_valid (valid : n.isValidChar) : (Char.ofNat n).toNat = n := by
  rw [Char.ofNat, dif_pos valid]
  rfl

/-- What the table allows is a character, and its bytes are what the writer makes of it. -/
theorem Writes.encodeChar (written : Writes lead tail n) :
    n.isValidChar ∧ String.utf8EncodeChar (Char.ofNat n) = lead :: tail := by
  have bounded := lead.toNat_lt
  have valid : n.isValidChar := by
    cases written with
    | one most => exact .inl (by omega)
    | two least most first => exact .inl (by omega)
    | three least most first second notShort noSurrogate =>
        obtain ⟨_, _⟩ := first
        obtain ⟨_, _⟩ := second
        by_cases last : lead.toNat ≤ 0xED
        · exact .inl (by omega)
        · exact .inr (by omega)
    | four least most first second third notShort notBeyond =>
        obtain ⟨_, _⟩ := first
        exact .inr (by omega)
  refine ⟨valid, ?_⟩
  simp only [String.utf8EncodeChar]
  rw [show (Char.ofNat n).val.toNat = n from toNat_ofNat_of_valid valid]
  cases written with
  | one most => rw [if_pos (by omega), UInt8.ofNat_toNat]
  | two least most first =>
      obtain ⟨_, _⟩ := first
      rw [if_neg (by omega), if_pos (by omega)]
      simp only [List.cons.injEq, and_true]
      exact ⟨ofNat_eq_of_mod (by omega), ofNat_eq_of_mod (by omega)⟩
  | three least most first second notShort noSurrogate =>
      obtain ⟨_, _⟩ := first
      obtain ⟨_, _⟩ := second
      rw [if_neg (by omega), if_neg (by omega), if_pos (by omega)]
      simp only [List.cons.injEq, and_true]
      exact ⟨ofNat_eq_of_mod (by omega), ofNat_eq_of_mod (by omega), ofNat_eq_of_mod (by omega)⟩
  | four least most first second third notShort notBeyond =>
      obtain ⟨_, _⟩ := first
      obtain ⟨_, _⟩ := second
      obtain ⟨_, _⟩ := third
      rw [if_neg (by omega), if_neg (by omega), if_neg (by omega)]
      simp only [List.cons.injEq, and_true]
      exact ⟨ofNat_eq_of_mod (by omega), ofNat_eq_of_mod (by omega), ofNat_eq_of_mod (by omega),
        ofNat_eq_of_mod (by omega)⟩

theorem Writes.of_eq {m : Nat} (written : Writes lead tail n) (same : n = m) :
    Writes lead tail m :=
  same ▸ written

theorem toNat_ofNat_of_lt (fits : n < 256) : (UInt8.ofNat n).toNat = n := by
  rw [UInt8.toNat_ofNat', Nat.mod_eq_of_lt fits]

/-- Six bits with the mark of a byte that goes on are such a byte. -/
theorem trails_ofNat (n : Nat) : Trails (UInt8.ofNat (n % 64 + 128)) := by
  rw [Trails, toNat_ofNat_of_lt (by omega)]
  omega

/-- What the writer makes of a character is in the table, so that the table is neither too wide
nor too narrow. -/
theorem exists_writes (c : Char) :
    ∃ lead tail, String.utf8EncodeChar c = lead :: tail ∧ Writes lead tail c.toNat := by
  have valid : c.toNat < 0xD800 ∨ 0xDFFF < c.toNat ∧ c.toNat < 0x110000 := c.valid
  simp only [String.utf8EncodeChar]
  rw [show c.val.toNat = c.toNat from rfl]
  generalize c.toNat = n at valid ⊢
  split
  · have value := toNat_ofNat_of_lt (show n < 256 by omega)
    exact ⟨_, _, rfl, (Writes.one (by omega)).of_eq value⟩
  split
  · have lead := toNat_ofNat_of_lt (show n / 64 % 32 + 192 < 256 by omega)
    have first := toNat_ofNat_of_lt (show n % 64 + 128 < 256 by omega)
    refine ⟨_, _, rfl, (Writes.two ?_ ?_ (trails_ofNat _)).of_eq ?_⟩ <;> omega
  split
  · have lead := toNat_ofNat_of_lt (show n / 4096 % 16 + 224 < 256 by omega)
    have first := toNat_ofNat_of_lt (show n / 64 % 64 + 128 < 256 by omega)
    have second := toNat_ofNat_of_lt (show n % 64 + 128 < 256 by omega)
    refine ⟨_, _, rfl, (Writes.three ?_ ?_ (trails_ofNat _) (trails_ofNat _) ?_ ?_).of_eq ?_⟩ <;>
      omega
  · have lead := toNat_ofNat_of_lt (show n / 262144 % 8 + 240 < 256 by omega)
    have first := toNat_ofNat_of_lt (show n / 4096 % 64 + 128 < 256 by omega)
    have second := toNat_ofNat_of_lt (show n / 64 % 64 + 128 < 256 by omega)
    have third := toNat_ofNat_of_lt (show n % 64 + 128 < 256 by omega)
    refine ⟨_, _, rfl, (Writes.four ?_ ?_ (trails_ofNat _) (trails_ofNat _) (trails_ofNat _)
      ?_ ?_).of_eq ?_⟩ <;> omega

/-! ### The limits of the scanner -/

theorem trails_iff : Trails b ↔ 0x80 ≤ b ∧ b ≤ 0xBF := by
  simp only [Trails, UInt8.le_iff_toNat_le, UInt8.reduceToNat]

/-- The limits of a second byte are those of all others, but behind one lead byte that needs more
and one that allows less. -/
theorem limits_iff {needsMore allowsLess : Prop} [Decidable needsMore] [Decidable allowsLess]
    (low high : UInt8) (least : 0x80 ≤ low) (most : high ≤ 0xBF) :
    (if needsMore then low else 0x80) ≤ a ∧ a ≤ (if allowsLess then high else 0xBF) ↔
      Trails a ∧ (needsMore → low.toNat ≤ a.toNat) ∧ (allowsLess → a.toNat ≤ high.toNat) := by
  simp only [Trails, UInt8.le_iff_toNat_le, UInt8.reduceToNat] at *
  split <;> split <;> simp_all <;> omega

theorem following?_one (most : lead.toNat < 0x80) : following? lead = some (0, 0x80, 0xBF) := by
  simp only [following?, UInt8.lt_iff_toNat_lt, UInt8.reduceToNat]
  rw [if_pos most]

/-- A lead byte of two has one byte behind it, with no other limits than those of any byte that
goes on. -/
theorem following?_two (least : 0xC2 ≤ lead.toNat) (most : lead.toNat < 0xE0) :
    following? lead = some (1, 0x80, 0xBF) := by
  simp only [following?, UInt8.lt_iff_toNat_lt, UInt8.reduceToNat]
  rw [if_neg (by omega), if_neg (by omega), if_pos most]

/-- A lead byte of three has two behind it.  The limits of the first keep out forms that are too
long, and surrogates. -/
theorem following?_three (least : 0xE0 ≤ lead.toNat) (most : lead.toNat < 0xF0) :
    following? lead = some (2, if lead.toNat = 0xE0 then 0xA0 else 0x80,
      if lead.toNat = 0xED then 0x9F else 0xBF) := by
  simp only [following?, UInt8.lt_iff_toNat_lt, ← UInt8.toNat_inj, UInt8.reduceToNat]
  rw [if_neg (by omega), if_neg (by omega), if_neg (by omega)]
  by_cases first : lead.toNat = 0xE0
  · simp [first]
  by_cases surrogates : lead.toNat = 0xED
  · simp [surrogates]
  · simp [first, surrogates, most]

/-- A lead byte of four has three behind it.  The limits of the first keep out forms that are too
long, and numbers that are no character. -/
theorem following?_four (least : 0xF0 ≤ lead.toNat) (most : lead.toNat < 0xF5) :
    following? lead = some (3, if lead.toNat = 0xF0 then 0x90 else 0x80,
      if lead.toNat = 0xF4 then 0x8F else 0xBF) := by
  simp only [following?, UInt8.lt_iff_toNat_lt, ← UInt8.toNat_inj, UInt8.reduceToNat]
  rw [if_neg (by omega), if_neg (by omega), if_neg (by omega), if_neg (by omega),
    if_neg (by omega), if_neg (by omega)]
  by_cases first : lead.toNat = 0xF0
  · simp [first]
  by_cases last : lead.toNat = 0xF4
  · simp [last]
  · have middle : lead.toNat < 0xF4 := by omega
    simp [first, last, middle]

/-- All other bytes lead nothing: those that go on, and those that no character starts with. -/
theorem following?_none (no : 0x80 ≤ lead.toNat ∧ lead.toNat < 0xC2 ∨ 0xF5 ≤ lead.toNat) :
    following? lead = none := by
  simp only [following?, UInt8.lt_iff_toNat_lt, ← UInt8.toNat_inj, UInt8.reduceToNat]
  rw [if_neg (by omega)]
  split
  · rfl
  · rw [if_neg (by omega), if_neg (by omega), if_neg (by omega), if_neg (by omega),
      if_neg (by omega), if_neg (by omega), if_neg (by omega)]

/-! ### The scanner keeps to the table -/

/-- A full count of bytes that go on: the first is within the limits, the others go on. -/
theorem length_continuation_succ_iff {count : Nat} {low high : UInt8} :
    (continuation (count + 1) low high bytes).length = count + 1 ↔
      ∃ b rest, bytes = b :: rest ∧ (low ≤ b ∧ b ≤ high) ∧
        (continuation count 0x80 0xBF rest).length = count := by
  cases bytes with
  | nil => simp [continuation]
  | cons b rest =>
      by_cases allowed : low ≤ b ∧ b ≤ high
      · rw [continuation, if_pos allowed, List.length_cons, Nat.add_right_cancel_iff]
        constructor
        · intro full
          exact ⟨b, rest, rfl, allowed, full⟩
        · rintro ⟨_, _, same, -, full⟩
          cases same
          exact full
      · rw [continuation, if_neg allowed]
        constructor
        · intro full
          cases full
        · rintro ⟨_, _, same, within, -⟩
          cases same
          exact absurd within allowed

theorem continuation_append_drop (count : Nat) (low high : UInt8) (bytes : Bytes) :
    continuation count low high bytes ++
      bytes.drop (continuation count low high bytes).length = bytes := by
  induction bytes generalizing count low high with
  | nil => cases count <;> rfl
  | cons b rest ih =>
      cases count with
      | zero => rfl
      | succ count =>
          by_cases allowed : low ≤ b ∧ b ≤ high
          · simp [continuation, allowed, ih]
          · simp [continuation, allowed]

theorem Writes.pieces_append (written : Writes lead tail n) (rest : Bytes) :
    pieces (lead :: (tail ++ rest)) = some (Char.ofNat n) :: pieces rest := by
  cases written with
  | one most => simp [pieces, following?_one most, continuation, character]
  | two least most first =>
      have first := trails_iff.mp first
      simp [pieces, following?_two least most, continuation, first, character]
  | three least most first second notShort noSurrogate =>
      have first := (limits_iff 0xA0 0x9F (by decide) (by decide)).mpr
        ⟨first, notShort, noSurrogate⟩
      have second := trails_iff.mp second
      simp [pieces, following?_three least most, continuation, first, second, character]
  | four least most first second third notShort notBeyond =>
      have first := (limits_iff 0x90 0x8F (by decide) (by decide)).mpr
        ⟨first, notShort, notBeyond⟩
      have second := trails_iff.mp second
      have third := trails_iff.mp third
      simp [pieces, following?_four least most, continuation, first, second, third, character]

/-- A lead byte with a full count behind it has in front what the table allows it, and the
character is read from these bytes. -/
theorem writes_of_following? {count : Nat} {low high : UInt8}
    (behind : following? lead = some (count, low, high))
    (full : (continuation count low high bytes).length = count) :
    ∃ n, Writes lead (continuation count low high bytes) n ∧
      character lead (continuation count low high bytes) = Char.ofNat n := by
  by_cases one : lead.toNat < 0x80
  · cases behind.symm.trans (following?_one one)
    exact ⟨_, .one one, rfl⟩
  by_cases two : 0xC2 ≤ lead.toNat ∧ lead.toNat < 0xE0
  · cases behind.symm.trans (following?_two two.1 two.2)
    obtain ⟨a, rest, rfl, first, -⟩ := length_continuation_succ_iff.mp full
    rw [continuation, if_pos first]
    exact ⟨_, .two two.1 two.2 (trails_iff.mpr first), rfl⟩
  by_cases three : 0xE0 ≤ lead.toNat ∧ lead.toNat < 0xF0
  · cases behind.symm.trans (following?_three three.1 three.2)
    obtain ⟨a, _, rfl, first, full⟩ := length_continuation_succ_iff.mp full
    obtain ⟨b, rest, rfl, second, -⟩ := length_continuation_succ_iff.mp full
    rw [continuation, if_pos first, continuation, if_pos second]
    obtain ⟨first, notShort, noSurrogate⟩ :=
      (limits_iff 0xA0 0x9F (by decide) (by decide)).mp first
    exact ⟨_, .three three.1 three.2 first (trails_iff.mpr second) notShort noSurrogate, rfl⟩
  by_cases four : 0xF0 ≤ lead.toNat ∧ lead.toNat < 0xF5
  · cases behind.symm.trans (following?_four four.1 four.2)
    obtain ⟨a, _, rfl, first, full⟩ := length_continuation_succ_iff.mp full
    obtain ⟨b, _, rfl, second, full⟩ := length_continuation_succ_iff.mp full
    obtain ⟨c, rest, rfl, third, -⟩ := length_continuation_succ_iff.mp full
    rw [continuation, if_pos first, continuation, if_pos second, continuation, if_pos third]
    obtain ⟨first, notShort, notBeyond⟩ :=
      (limits_iff 0x90 0x8F (by decide) (by decide)).mp first
    exact ⟨_, .four four.1 four.2 first (trails_iff.mpr second) (trails_iff.mpr third) notShort
      notBeyond, rfl⟩
  · cases behind.symm.trans (following?_none (by omega))

/-! ### Whole texts -/

theorem pieces_encodeChar_append (c : Char) (rest : Bytes) :
    pieces (String.utf8EncodeChar c ++ rest) = some c :: pieces rest := by
  obtain ⟨lead, tail, encoded, written⟩ := exists_writes c
  rw [encoded, List.cons_append, written.pieces_append, Char.ofNat_toNat]

/-- A first piece that is a character is one that is written in front, in the bytes that the
writer makes of it. -/
theorem exists_of_pieces_eq_cons {c : Char} {others : List (Option Char)}
    (scanned : pieces bytes = some c :: others) :
    ∃ rest, bytes = String.utf8EncodeChar c ++ rest ∧ pieces rest = others := by
  cases bytes with
  | nil =>
      rw [pieces] at scanned
      cases scanned
  | cons lead bytes =>
      cases behind : following? lead with
      | none => simp [pieces, behind] at scanned
      | some limits =>
          obtain ⟨count, low, high⟩ := limits
          simp only [pieces, behind, List.cons.injEq, Option.ite_none_right_eq_some] at scanned
          obtain ⟨⟨full, isFirst⟩, areOthers⟩ := scanned
          obtain ⟨n, written, value⟩ := writes_of_following? behind full
          refine ⟨_, ?_, areOthers⟩
          rw [← Option.some.inj isFirst, value, written.encodeChar.2, List.cons_append,
            continuation_append_drop]

/-- **The bytes of a text come in pieces that are its characters**, one piece for each and no bad
one. -/
theorem pieces_encode (text : List Char) : pieces (encode text) = text.map some := by
  induction text with
  | nil => rw [encode, List.flatMap_nil, pieces, List.map_nil]
  | cons c text ih =>
      rw [encode, List.flatMap_cons, pieces_encodeChar_append, ← encode, ih, List.map_cons]

theorem eq_encode_of_pieces {text : List Char} (scanned : pieces bytes = text.map some) :
    bytes = encode text := by
  induction text generalizing bytes with
  | nil =>
      cases bytes with
      | nil => rfl
      | cons lead bytes =>
          rw [pieces] at scanned
          split at scanned <;> cases scanned
  | cons c text ih =>
      obtain ⟨rest, rfl, others⟩ := exists_of_pieces_eq_cons scanned
      rw [ih others, encode, encode, List.flatMap_cons]

theorem pieces_eq_iff {text : List Char} :
    pieces bytes = text.map some ↔ bytes = encode text := by
  constructor
  · exact eq_encode_of_pieces
  · rintro rfl
    exact pieces_encode text

/-- **Only the bytes of a text are read as that text.**  Each text has one form, and bytes that
are the form of none are refused. -/
theorem decode?_eq_some_iff {text : List Char} :
    decode? bytes = some text ↔ bytes = encode text := by
  rw [← pieces_eq_iff, decode?]
  generalize pieces bytes = scanned
  induction scanned generalizing text with
  | nil => cases text <;> simp
  | cons piece scanned ih =>
      rw [List.mapM_cons]
      cases piece with
      | none => cases text <;> simp
      | some c =>
          cases text with
          | nil => simp [Option.bind_eq_some_iff]
          | cons d text => simpa [Option.bind_eq_some_iff, ← ih] using and_comm

/-- **Only the bytes of a text without U+FFFD are seen as that text**, also by the reading
that puts U+FFFD in the place of what is no text. -/
theorem decodeLossy_eq_iff {text : List Char} (whole : '\uFFFD' ∉ text) :
    decodeLossy bytes = text ↔ bytes = encode text := by
  rw [← pieces_eq_iff, decodeLossy]
  generalize pieces bytes = scanned
  induction scanned generalizing text with
  | nil => cases text <;> simp
  | cons piece scanned ih =>
      cases text with
      | nil => simp
      | cons d text =>
          obtain ⟨first, others⟩ := not_or.mp (mt List.mem_cons.mpr whole)
          cases piece with
          | none => simp [first]
          | some c => simp [ih others]

/-- No character is written in less than a byte. -/
theorem length_le_length_encode (text : List Char) : text.length ≤ (encode text).length := by
  induction text with
  | nil => exact Nat.zero_le _
  | cons c text ih =>
      have nonempty := c.utf8Size_pos
      rw [encode, List.flatMap_cons, ← encode, List.length_append, String.length_utf8EncodeChar,
        List.length_cons]
      omega

end ConnectTokens.Utf8
