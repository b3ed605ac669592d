import ConnectTokens.Text.Decimal
import ConnectTokens.Text.Hex

/-!
# Numerals

Which texts write a number of 64 bits, and that printed numbers read back.

## Main Definitions

* `Decimal.Writes`: the texts that write a number of 64 bits.
* `Decimal.WritesInt`: the texts that write a number with a sign.

## Main Statements

* `Decimal.uint64?_eq_some_iff`: just these texts are read, as their value.
* `Decimal.int32?_eq_some_iff`, `Decimal.int64?_eq_some_iff`: so are numbers with a sign.
* `Hex.natural?_digits`: hexadecimal digits read back.
-/

namespace ConnectTokens

/-- The byte of a number is told by its rest, which is how the digits of a form with a fixed base
are. -/
theorem ofNat_eq_of_mod {n : Nat} {b : UInt8} (same : n % 256 = b.toNat) : UInt8.ofNat n = b := by
  rw [← UInt8.toNat_inj, UInt8.toNat_ofNat', same]

namespace Decimal

/-- A text writes a number of 64 bits: after an optional plus sign there are one or more
ASCII digits, maybe with zeros in front, whose value is the number. -/
def Writes (text : List Char) (n : UInt64) : Prop :=
  ∃ digits, (text = digits ∨ text = '+' :: digits) ∧ digits ≠ [] ∧
    (∀ c ∈ digits, c.isDigit = true) ∧ Nat.ofDigitChars 10 digits 0 = n.toNat

/-- A text reads as a natural number exactly if it is a text of digits, at least one of them, and
has the number as its value. -/
theorem natural?_eq_some_iff {text : List Char} {n : Nat} :
    natural? text = some n ↔
      text ≠ [] ∧ (∀ c ∈ text, c.isDigit = true) ∧ Nat.ofDigitChars 10 text 0 = n := by
  rw [natural?, Option.ite_none_right_eq_some, List.all_eq_true, Option.some.injEq, and_assoc]

/-- The sign is optional: a text of digits does not start with one, so that the two cases do not
meet. -/
theorem unsigned?_eq_some_iff {text : List Char} {n : Nat} :
    unsigned? text = some n ↔
      ∃ digits, (text = digits ∨ text = '+' :: digits) ∧ natural? digits = some n := by
  unfold unsigned?
  split
  · next digits =>
    constructor
    · intro read
      exact ⟨digits, .inr rfl, read⟩
    · rintro ⟨_, rfl | same, read⟩
      · have plus := (natural?_eq_some_iff.mp read).2.1 '+' List.mem_cons_self
        exact absurd plus (by decide)
      · rwa [(List.cons.inj same).2]
  · next unsigned =>
    constructor
    · intro read
      exact ⟨text, .inl rfl, read⟩
    · rintro ⟨digits, rfl | rfl, read⟩
      · exact read
      · exact absurd rfl (unsigned digits)

/-- **A text reads as a number of 64 bits exactly if it writes it.**  Leading zeros are allowed,
and so is a plus sign; blanks are not. -/
theorem uint64?_eq_some_iff {text : List Char} {n : UInt64} :
    uint64? text = some n ↔ Writes text n := by
  have fixed : uint64? text = some n ↔ unsigned? text = some n.toNat := by
    simp only [uint64?, Option.map_eq_some_iff, Option.filter_eq_some_iff, decide_eq_true_eq]
    constructor
    · rintro ⟨value, ⟨read, fits⟩, rfl⟩
      rwa [UInt64.toNat_ofNat_of_lt' fits]
    · intro read
      exact ⟨_, ⟨read, n.toNat_lt⟩, UInt64.ofNat_toNat⟩
  rw [fixed, unsigned?_eq_some_iff]
  simp only [natural?_eq_some_iff, Writes]

theorem uint64?_eq_none_iff {text : List Char} :
    uint64? text = none ↔ ¬ ∃ n, Writes text n := by
  simp only [← uint64?_eq_some_iff, ← Option.isSome_iff_exists, Option.not_isSome_iff_eq_none]

/-- A text writes a number with a sign: one or more ASCII digits, maybe with zeros in front,
behind an optional plus sign or a minus sign. -/
def WritesInt (text : List Char) (i : Int) : Prop :=
  ∃ digits, digits ≠ [] ∧ (∀ c ∈ digits, c.isDigit = true) ∧
    ((text = digits ∨ text = '+' :: digits) ∧ i = (Nat.ofDigitChars 10 digits 0 : Nat) ∨
      text = '-' :: digits ∧ i = -(Nat.ofDigitChars 10 digits 0 : Nat))

/-- Neither digits nor a plus sign start with a minus sign, which tells the negative numbers from
the others. -/
theorem signed?_eq_some_iff {text : List Char} {i : Int} :
    signed? text = some i ↔ WritesInt text i := by
  unfold signed?
  split
  · next rest =>
    simp only [bind, pure, Option.map_eq_some_iff, Option.bind_eq_some_iff, Option.some.injEq,
      natural?_eq_some_iff]
    constructor
    · rintro ⟨_, ⟨n, ⟨nonempty, areDigits, rfl⟩, rfl⟩, rfl⟩
      exact ⟨rest, nonempty, areDigits, .inr ⟨rfl, rfl⟩⟩
    · rintro ⟨digits, nonempty, areDigits, ⟨rfl | same, rfl⟩ | ⟨same, rfl⟩⟩
      · exact absurd (areDigits '-' List.mem_cons_self) (by decide)
      · exact absurd (List.cons.inj same).1 (by decide)
      · cases (List.cons.inj same).2
        exact ⟨_, ⟨_, ⟨nonempty, areDigits, rfl⟩, rfl⟩, rfl⟩
  · next notNegative =>
    simp only [bind, pure, Option.map_eq_some_iff, Option.bind_eq_some_iff, Option.some.injEq,
      unsigned?_eq_some_iff, natural?_eq_some_iff]
    constructor
    · rintro ⟨_, ⟨n, ⟨digits, sign, nonempty, areDigits, rfl⟩, rfl⟩, rfl⟩
      exact ⟨digits, nonempty, areDigits, .inl ⟨sign, rfl⟩⟩
    · rintro ⟨digits, nonempty, areDigits, ⟨sign, rfl⟩ | ⟨rfl, -⟩⟩
      · exact ⟨_, ⟨_, ⟨digits, sign, nonempty, areDigits, rfl⟩, rfl⟩, rfl⟩
      · exact absurd rfl (notNegative digits)

theorem int32?_eq_some_iff {text : List Char} {n : Int32} :
    int32? text = some n ↔ WritesInt text n.toInt := by
  rw [← signed?_eq_some_iff]
  simp only [int32?, Option.map_eq_some_iff, Option.filter_eq_some_iff, decide_eq_true_eq]
  constructor
  · rintro ⟨i, ⟨read, least, most⟩, rfl⟩
    rwa [Int32.toInt_ofInt_of_le least (Int.lt_of_le_of_lt most (by decide))]
  · intro read
    exact ⟨_, ⟨read, n.minValue_le_toInt, n.toInt_le⟩, Int32.ofInt_toInt n⟩

/-- A text reads as a signed number of 64 bits exactly if it writes its value; a greater value is
no number, and not its rest. -/
theorem int64?_eq_some_iff {text : List Char} {n : Int64} :
    int64? text = some n ↔ WritesInt text n.toInt := by
  rw [← signed?_eq_some_iff]
  simp only [int64?, Option.map_eq_some_iff, Option.filter_eq_some_iff, decide_eq_true_eq]
  constructor
  · rintro ⟨i, ⟨read, least, most⟩, rfl⟩
    rwa [Int64.toInt_ofInt_of_le least (Int.lt_of_le_of_lt most (by decide))]
  · intro read
    exact ⟨_, ⟨read, n.minValue_le_toInt, n.toInt_le⟩, Int64.ofInt_toInt n⟩

/-- What is no digit does not stand in a printed number, be it a sign, a separator or a bracket.
-/
theorem not_mem_toDigits {c : Char} (other : c.isDigit = false) (n : Nat) :
    c ∉ Nat.toDigits 10 n := by
  intro present
  rw [Nat.isDigit_of_mem_toDigits (by decide) (by decide) present] at other
  cases other

@[simp] theorem uint16?_toDigits (n : UInt16) : uint16? (Nat.toDigits 10 n.toNat) = some n := by
  have fits : n.toNat < UInt16.size := n.toNat_lt
  simp [uint16?, natural?_toDigits, Option.filter_some, fits]

@[simp] theorem uint32?_toDigits (n : UInt32) : uint32? (Nat.toDigits 10 n.toNat) = some n := by
  have fits : n.toNat < UInt32.size := n.toNat_lt
  simp [uint32?, natural?_toDigits, Option.filter_some, fits]

end Decimal

namespace Hex

/-- Digits read back up to the base of sixteen, which is the one of the groups of an address. -/
theorem digit?_digitChar {d : Nat} (fits : d < 16) : digit? (Nat.digitChar d) = some d := by
  have all : ∀ d : Fin 16, digit? (Nat.digitChar d) = some d.val := by decide
  exact all ⟨d, fits⟩

/-- The value of digits with one more digit behind them.  Printing puts the last digit last, and
this is the step of the induction over it. -/
theorem natural?_append_digitChar {text : List Char} {n d : Nat} (read : natural? text = some n)
    (fits : d < 16) : natural? (text ++ [Nat.digitChar d]) = some (16 * n + d) := by
  unfold natural? at read ⊢
  split at read
  · cases read
  · next nonempty =>
    obtain ⟨values, digits, rfl⟩ := Option.map_eq_some_iff.mp read
    simp [digits, digit?_digitChar fits]

/-- **The digits that a number is written with read back as that number.**  There is no bound on
the number here; the groups bring theirs. -/
@[simp] theorem natural?_digits (n : Nat) : natural? (digits n) = some n := by
  -- On the number, as its digits are made: all but the last one belong to a sixteenth of it.
  induction n using Nat.strongRecOn with
  | _ n ih =>
      by_cases small : n < 16
      · rw [digits, Nat.toDigits_of_lt_base small]
        simp [natural?, digit?_digitChar small]
      · have shorter : n / 16 < n := by omega
        have last : n % 16 < 16 := Nat.mod_lt _ (by omega)
        rw [digits, Nat.toDigits_of_base_le (by omega) (by omega), ← digits,
          natural?_append_digitChar (ih _ shorter) last, Nat.div_add_mod]

theorem digits_ne_nil (n : Nat) : digits n ≠ [] := Nat.toDigits_ne_nil

/-- A text that reads as a number has digits only, so a separator ends it. -/
theorem isSome_digit?_of_natural? {text : List Char} {n : Nat} (read : natural? text = some n) :
    ∀ c ∈ text, (digit? c).isSome = true := by
  have each : ∀ {text : List Char} {values : List Nat}, text.mapM digit? = some values →
      ∀ c ∈ text, (digit? c).isSome = true := by
    intro text
    induction text with
    | nil => exact fun _ => List.forall_mem_nil _
    | cons c rest ih =>
        intro values digits
        rw [List.mapM_cons] at digits
        obtain ⟨d, first, others⟩ := Option.bind_eq_some_iff.mp digits
        obtain ⟨ds, others, -⟩ := Option.bind_eq_some_iff.mp others
        exact List.forall_mem_cons.mpr ⟨Option.isSome_of_eq_some first, ih others⟩
  unfold natural? at read
  split at read
  · cases read
  · obtain ⟨values, digits, -⟩ := Option.map_eq_some_iff.mp read
    exact each digits

theorem isSome_digit?_of_mem_digits {n : Nat} : ∀ c ∈ digits n, (digit? c).isSome = true :=
  isSome_digit?_of_natural? (natural?_digits n)

/-- What is no digit does not stand in the digits of a number; a colon is the case of interest. -/
theorem not_mem_digits {c : Char} (other : digit? c = none) (n : Nat) : c ∉ digits n := by
  intro present
  have isDigit := isSome_digit?_of_mem_digits c present
  rw [other] at isDigit
  cases isDigit

end Hex

end ConnectTokens
