import ConnectTokens.Proofs.Numerals
import ConnectTokens.Text.Base64

/-!
# Base64 reads back

## Main Statements

* `Base64.decode?_encode`: the written form of a byte string reads back as it.
* `Base64.decode?_eq_some_iff`: no other text reads as that byte string.
-/

namespace ConnectTokens.Base64

theorem value?_digit {n : Nat} (fits : n < 64) : value? (digit n) = some n := by
  have all : ∀ n : Fin 64, value? (digit n) = some n.val := by decide +kernel
  exact all ⟨n, fits⟩

/-- No digit is the mark for a place that is left, so that a mark is never read as a value. -/
theorem digit_ne_mark {n : Nat} (fits : n < 64) : digit n ≠ '=' := by
  have all : ∀ n : Fin 64, digit n ≠ '=' := by decide +kernel
  exact all ⟨n, fits⟩

/-! ### Groups -/

/-- A group whose last place is not left is one of four digits.  It need not be the last group,
which is why the rest is read on. -/
theorem decode?_four {p q r s : Char} (rest : List Char) (full : s ≠ '=') :
    decode? (p :: q :: r :: s :: rest) = do
      let group := threeBytes (← value? p) (← value? q) (← value? r) (← value? s)
      return group ++ (← decode? rest) := by
  rw [decode?]
  · intro _ mark
    exact absurd mark full
  · intro mark
    exact absurd mark full

/-- A group of three digits and one mark stands at the end only, and gives two bytes. -/
theorem decode?_three {p q r : Char} (full : r ≠ '=') :
    decode? [p, q, r, '='] = (do twoBytes? (← value? p) (← value? q) (← value? r)) := by
  rw [decode?]
  exact full

/-- The four values of three bytes give these bytes back.  The arithmetic of the shifts is done
here, for each of the three sizes of a group. -/
theorem threeBytes_digits (a b c : UInt8) :
    threeBytes (a.toNat / 4) (a.toNat % 4 * 16 + b.toNat / 16) (b.toNat % 16 * 4 + c.toNat / 64)
      (c.toNat % 64) = [a, b, c] := by
  have := a.toNat_lt
  have := b.toNat_lt
  have := c.toNat_lt
  simp only [threeBytes, List.cons.injEq, and_true]
  exact ⟨ofNat_eq_of_mod (by omega), ofNat_eq_of_mod (by omega), ofNat_eq_of_mod (by omega)⟩

theorem twoBytes?_digits (a b : UInt8) :
    twoBytes? (a.toNat / 4) (a.toNat % 4 * 16 + b.toNat / 16) (b.toNat % 16 * 4) =
      some [a, b] := by
  have := a.toNat_lt
  have := b.toNat_lt
  rw [twoBytes?, if_pos (by omega)]
  simp only [Option.some.injEq, List.cons.injEq, and_true]
  exact ⟨ofNat_eq_of_mod (by omega), ofNat_eq_of_mod (by omega)⟩

theorem oneByte?_digits (a : UInt8) :
    oneByte? (a.toNat / 4) (a.toNat % 4 * 16) = some [a] := by
  have := a.toNat_lt
  rw [oneByte?, if_pos (by omega)]
  simp only [Option.some.injEq, List.cons.injEq, and_true]
  exact ofNat_eq_of_mod (by omega)

/-- **The written form of a byte string reads back as that byte string**, whatever its length
leaves of the last group. -/
@[simp] theorem decode?_encode (bytes : Bytes) : decode? (encode bytes) = some bytes := by
  -- On the groups of three bytes, as they are written.
  induction bytes using encode.induct with
  | case1 => rfl
  | case2 a =>
      have := a.toNat_lt
      have first : a.toNat / 4 < 64 := by omega
      have second : a.toNat % 4 * 16 < 64 := by omega
      rw [encode, decode?, value?_digit first, value?_digit second]
      exact oneByte?_digits a
  | case3 a b =>
      have := a.toNat_lt
      have := b.toNat_lt
      have first : a.toNat / 4 < 64 := by omega
      have second : a.toNat % 4 * 16 + b.toNat / 16 < 64 := by omega
      have third : b.toNat % 16 * 4 < 64 := by omega
      rw [encode, decode?_three (digit_ne_mark third), value?_digit first, value?_digit second,
        value?_digit third]
      exact twoBytes?_digits a b
  | case4 a b c rest ih =>
      have := a.toNat_lt
      have := b.toNat_lt
      have := c.toNat_lt
      have first : a.toNat / 4 < 64 := by omega
      have second : a.toNat % 4 * 16 + b.toNat / 16 < 64 := by omega
      have third : b.toNat % 16 * 4 + c.toNat / 64 < 64 := by omega
      have fourth : c.toNat % 64 < 64 := by omega
      rw [encode, decode?_four _ (digit_ne_mark fourth), value?_digit first, value?_digit second,
        value?_digit third, value?_digit fourth, ih]
      simp [threeBytes_digits]

/-! ### One written form -/

/-- A digit is told by its value, for no two digits have the same one. -/
theorem of_value?_eq_some {c : Char} {n : Nat} (read : value? c = some n) :
    n < 64 ∧ c = digit n := by
  obtain ⟨fits, here, -⟩ := List.idxOf?_eq_some_iff.mp read
  refine ⟨fits, ?_⟩
  rw [digit, List.getD, List.getElem?_eq_getElem fits, here]
  rfl

theorem encode_of_oneByte? {p q : Nat} {bytes : Bytes} (p_fits : p < 64) (q_fits : q < 64)
    (read : oneByte? p q = some bytes) : encode bytes = [digit p, digit q, '=', '='] := by
  rw [oneByte?, Option.ite_none_right_eq_some, Option.some.injEq] at read
  obtain ⟨unused, rfl⟩ := read
  have first : (p * 4 + q / 16) % 256 / 4 = p := by omega
  have second : (p * 4 + q / 16) % 256 % 4 * 16 = q := by omega
  rw [encode, UInt8.toNat_ofNat', first, second]

/-- Two bytes that were read from three digits are written with these digits.  The bits that are
left over have to be zero, as the reader checks. -/
theorem encode_of_twoBytes? {p q r : Nat} {bytes : Bytes} (p_fits : p < 64) (q_fits : q < 64)
    (r_fits : r < 64) (read : twoBytes? p q r = some bytes) :
    encode bytes = [digit p, digit q, digit r, '='] := by
  rw [twoBytes?, Option.ite_none_right_eq_some, Option.some.injEq] at read
  obtain ⟨unused, rfl⟩ := read
  have first : (p * 4 + q / 16) % 256 / 4 = p := by omega
  have second : (p * 4 + q / 16) % 256 % 4 * 16 + (q * 16 + r / 4) % 256 / 16 = q := by omega
  have third : (q * 16 + r / 4) % 256 % 16 * 4 = r := by omega
  rw [encode, UInt8.toNat_ofNat', UInt8.toNat_ofNat', first, second, third]

/-- Three bytes that were read from four digits are written with these digits, in front of
whatever follows. -/
theorem encode_threeBytes_append {p q r s : Nat} (p_fits : p < 64) (q_fits : q < 64)
    (r_fits : r < 64) (s_fits : s < 64) (rest : Bytes) :
    encode (threeBytes p q r s ++ rest) =
      digit p :: digit q :: digit r :: digit s :: encode rest := by
  have first : (p * 4 + q / 16) % 256 / 4 = p := by omega
  have second : (p * 4 + q / 16) % 256 % 4 * 16 + (q * 16 + r / 4) % 256 / 16 = q := by omega
  have third : (q * 16 + r / 4) % 256 % 16 * 4 + (r * 64 + s) % 256 / 64 = r := by omega
  have fourth : (r * 64 + s) % 256 % 64 = s := by omega
  simp only [threeBytes, List.cons_append, List.nil_append, encode]
  rw [UInt8.toNat_ofNat', UInt8.toNat_ofNat', UInt8.toNat_ofNat', first, second, third, fourth]

/-- What reads as a byte string is its written form: no second spelling is let through, not in the
last bits nor in the marks. -/
theorem eq_encode_of_decode? {text : List Char} {bytes : Bytes}
    (read : decode? text = some bytes) : text = encode bytes := by
  -- On the groups of four characters, as they are read.
  induction text using decode?.induct generalizing bytes with
  | case1 =>
      cases read
      rfl
  | case2 a b =>
      simp only [decode?, bind, Option.bind_eq_some_iff] at read
      obtain ⟨p, isFirst, q, isSecond, read⟩ := read
      obtain ⟨p_fits, rfl⟩ := of_value?_eq_some isFirst
      obtain ⟨q_fits, rfl⟩ := of_value?_eq_some isSecond
      exact (encode_of_oneByte? p_fits q_fits read).symm
  | case3 a b c full =>
      rw [decode?_three full] at read
      simp only [bind, Option.bind_eq_some_iff] at read
      obtain ⟨p, isFirst, q, isSecond, r, isThird, read⟩ := read
      obtain ⟨p_fits, rfl⟩ := of_value?_eq_some isFirst
      obtain ⟨q_fits, rfl⟩ := of_value?_eq_some isSecond
      obtain ⟨r_fits, rfl⟩ := of_value?_eq_some isThird
      exact (encode_of_twoBytes? p_fits q_fits r_fits read).symm
  | case4 a b c d rest notTwo notThree ih =>
      rw [decode?] at read
      · simp only [bind, pure, Option.bind_eq_some_iff, Option.some.injEq] at read
        obtain ⟨p, isFirst, q, isSecond, r, isThird, s, isFourth, others, behind, rfl⟩ := read
        obtain ⟨p_fits, rfl⟩ := of_value?_eq_some isFirst
        obtain ⟨q_fits, rfl⟩ := of_value?_eq_some isSecond
        obtain ⟨r_fits, rfl⟩ := of_value?_eq_some isThird
        obtain ⟨s_fits, rfl⟩ := of_value?_eq_some isFourth
        rw [encode_threeBytes_append p_fits q_fits r_fits s_fits, ih behind]
      · exact notTwo
      · exact notThree
  | case5 text notEmpty notOne notTwo notThree =>
      rw [decode?] at read
      · cases read
      · exact notEmpty
      · exact notOne
      · exact notTwo
      · exact notThree

/-- **Only the written form of a byte string reads as that byte string.**  Texts that can be read
and byte strings are therefore one to one. -/
theorem decode?_eq_some_iff {text : List Char} {bytes : Bytes} :
    decode? text = some bytes ↔ text = encode bytes := by
  constructor
  · exact eq_encode_of_decode?
  · rintro rfl
    exact decode?_encode bytes

/-! ### What a written form looks like -/

theorem digit_mem_alphabet (n : Nat) : digit n ∈ alphabet := by
  rw [digit, List.getD]
  cases found : alphabet[n]? with
  | none => decide
  | some c => exact List.mem_of_getElem? found

/-- No other character stands in a written form.  In a JSON text it needs no escapes. -/
theorem mem_encode {bytes : Bytes} {c : Char} (present : c ∈ encode bytes) :
    c ∈ alphabet ∨ c = '=' := by
  induction bytes using encode.induct with
  | case1 => cases present
  | case2 a =>
      simp only [encode, List.mem_cons, List.not_mem_nil, or_false] at present
      rcases present with rfl | rfl | rfl | rfl <;> simp [digit_mem_alphabet]
  | case3 a b =>
      simp only [encode, List.mem_cons, List.not_mem_nil, or_false] at present
      rcases present with rfl | rfl | rfl | rfl <;> simp [digit_mem_alphabet]
  | case4 a b d rest ih =>
      simp only [encode, List.mem_cons] at present
      rcases present with rfl | rfl | rfl | rfl | behind
      · exact .inl (digit_mem_alphabet _)
      · exact .inl (digit_mem_alphabet _)
      · exact .inl (digit_mem_alphabet _)
      · exact .inl (digit_mem_alphabet _)
      · exact ih behind

/-- Each group of three bytes, full or not, takes four characters, so that the length is told by
the one of the byte string. -/
theorem length_encode (bytes : Bytes) :
    (encode bytes).length = (bytes.length + 2) / 3 * 4 := by
  induction bytes using encode.induct with
  | case1 => rfl
  | case2 a => simp [encode]
  | case3 a b => simp [encode]
  | case4 a b c rest ih =>
      simp only [encode, List.length_cons, ih]
      omega

end ConnectTokens.Base64
