import ConnectTokens.Json.Value
import ConnectTokens.Proofs.Numerals

/-!
# Written JSON reads back

The pieces of JSON that are written here, strings, numbers and marks, are read as the
lexemes that they are, whatever comes behind them, and the machine builds their values.

## Main Definitions

* `Lexeme.Lexes`: a text has these lexemes.
* `Lexeme.part`: what a reader sees of a character in a string.

## Main Statements

* `Lexeme.stringParts?_flatMap_escape`, `Lexeme.join?_map_part`: strings.
* `Lexeme.Lexes.quote`, `Lexeme.Lexes.digits`, `Lexeme.Lexes.mark`: one lexeme in front of
  others.
* `Machine.run_items`: the array of some strings.

## Design Notes

The reader of lexemes has fuel.  `Lexes` asks for its answer with any fuel that is enough,
so that lexemes can be put in front without a word on how much fuel is left.
-/

namespace ConnectTokens.Json

namespace Lexeme

/-! ### Strings -/

/-- What a reader sees of a character in a string: a control character without a short
escape is told by its number. -/
def part (c : Char) : StringPart :=
  if c.toNat < 0x20 ∧ c ≠ '\x08' ∧ c ≠ '\t' ∧ c ≠ '\n' ∧ c ≠ '\x0c' ∧ c ≠ '\r' then .unit c.toNat
  else .char c

/-- An escape with four digits is read as the unit that it names, and what follows is read on. -/
theorem stringParts?_unit {code : Nat} (fits : code < 0x20) (rest : List Char) :
    stringParts? (['\\', 'u'] ++ (Hex.digits code).leftpad 4 '0' ++ rest) =
      (stringParts? rest).map fun (parts, rest) => (.unit code :: parts, rest) := by
  have four : ∀ n : Fin 0x20, (Hex.digits n.val).leftpad 4 '0' =
      ['0', '0', Nat.digitChar (n.val / 16), Nat.digitChar (n.val % 16)] := by decide
  have value : ∀ n : Fin 0x20, Hex.natural? ['0', '0', Nat.digitChar (n.val / 16),
      Nat.digitChar (n.val % 16)] = some n.val := by decide
  have read := value ⟨code, fits⟩
  dsimp only at read
  rw [four ⟨code, fits⟩]
  simp only [List.cons_append, List.nil_append, stringParts?, read]
  cases stringParts? rest <;> rfl

theorem stringParts?_short {e c : Char} (short : shortEscape? e = some c) (rest : List Char) :
    stringParts? ('\\' :: e :: rest) =
      (stringParts? rest).map fun (parts, rest) => (.char c :: parts, rest) := by
  rw [stringParts?, short]
  · cases stringParts? rest <;> rfl
  · rintro _ _ _ _ _ rfl -
    cases short

/-- A character that is neither a quote, a backslash nor a control character is read as itself. -/
theorem stringParts?_plain {c : Char} (shown : ¬ c.toNat < 0x20) (noQuote : c ≠ '"')
    (noEscape : c ≠ '\\') (rest : List Char) :
    stringParts? (c :: rest) =
      (stringParts? rest).map fun (parts, rest) => (.char c :: parts, rest) := by
  rw [stringParts?, if_neg shown]
  · exact noQuote
  · exact fun _ _ _ _ _ isEscape => absurd isEscape noEscape
  · exact fun _ _ isEscape => absurd isEscape noEscape

/-- A character is written so that it is seen as it is: by itself, by a letter or by the number of
its unit. -/
theorem stringParts?_escape (c : Char) (rest : List Char) :
    stringParts? (escape c ++ rest) =
      (stringParts? rest).map fun (parts, rest) => (part c :: parts, rest) := by
  unfold escape
  split
  case h_1 | h_2 | h_3 | h_4 | h_5 | h_6 | h_7 => exact stringParts?_short rfl rest
  case h_8 noQuote noEscape noBackspace noTab noLine noForm noReturn =>
    split
    · next control =>
      have isUnit : part c = .unit c.toNat :=
        if_pos ⟨control, noBackspace, noTab, noLine, noForm, noReturn⟩
      rw [isUnit]
      exact stringParts?_unit control rest
    · next shown =>
      have isChar : part c = .char c := if_neg fun control => shown control.1
      rw [isChar]
      exact stringParts?_plain shown noQuote noEscape rest

/-- **A string is seen up to its closing quote**, which is the first one that is not escaped,
whatever follows it. -/
theorem stringParts?_flatMap_escape (text rest : List Char) :
    stringParts? (text.flatMap escape ++ '"' :: rest) = some (text.map part, rest) := by
  induction text with
  | nil => rfl
  | cons c text ih =>
      rw [List.flatMap_cons, List.append_assoc, stringParts?_escape, ih]
      rfl

/-- A unit that is no surrogate is a character by itself.  Only control characters are written as
units, so no pairs come up. -/
theorem join?_unit {code : Nat} (below : code < 0xD800) (rest : List StringPart) :
    join? (.unit code :: rest) = (join? rest).map (Char.ofNat code :: ·) := by
  have noHigh : ¬ (0xD800 ≤ code ∧ code < 0xDC00) := by omega
  have noLow : ¬ (0xDC00 ≤ code ∧ code < 0xE000) := by omega
  have noSurrogate : ¬ (0xD800 ≤ code ∧ code < 0xE000) := by omega
  cases rest with
  | nil => simp [join?, noSurrogate]
  | cons next rest =>
      cases next with
      | char c => simp [join?, noSurrogate]
      | unit low => rw [join?, if_neg noHigh, if_neg noLow]

/-- **What is seen of a text joins to the text**, character by character, however each of them was
written. -/
theorem join?_map_part (text : List Char) : join? (text.map part) = some text := by
  induction text with
  | nil => rfl
  | cons c text ih =>
      rw [List.map_cons, part]
      split
      · next control =>
        rw [join?_unit (by omega), ih, Char.ofNat_toNat]
        rfl
      · rw [join?, ih]
        rfl

/-! ### Numbers -/

theorem toDigits_eq_zero_or (n : Nat) :
    Nat.toDigits 10 n = ['0'] ∨ ∃ c rest, c ≠ '0' ∧ Nat.toDigits 10 n = c :: rest := by
  -- The digits of a number start with those of a tenth of it.
  induction n using Nat.strongRecOn with
  | _ n ih =>
      by_cases small : n < 10
      · have single : ∀ d : Fin 10, d.val = 0 ∨ Nat.digitChar d.val ≠ '0' := by decide
        rw [Nat.toDigits_of_lt_base small]
        obtain zero | other := single ⟨n, small⟩
        · exact .inl (by rw [show n = 0 from zero]; rfl)
        · exact .inr ⟨_, [], other, rfl⟩
      · have shorter : n / 10 < n := by omega
        rw [Nat.toDigits_of_base_le (by omega) (by omega)]
        obtain zero | ⟨c, rest, other, starts⟩ := ih _ shorter
        · have value := Nat.ofDigitChars_ten_toDigits (n := n / 10)
          rw [zero] at value
          have : n / 10 = 0 := value.symm
          omega
        · exact .inr ⟨c, _, other, by rw [starts]; rfl⟩

/-- A text does not go on with a number. -/
def EndsNumber (rest : List Char) : Prop :=
  ∀ c ∈ rest.head?, c.isDigit = false ∧ c ≠ '.' ∧ c ≠ 'e' ∧ c ≠ 'E'

/-- Digits are read up to the first character that is none, and at least one of them has to be
there. -/
theorem digits?_append {digits rest : List Char} (nonempty : digits ≠ [])
    (areDigits : ∀ c ∈ digits, c.isDigit = true) (ends : EndsNumber rest) :
    digits? (digits ++ rest) = some (digits, rest) := by
  have none : rest.takeWhile Char.isDigit = [] ∧ rest.dropWhile Char.isDigit = rest := by
    cases rest with
    | nil => exact ⟨rfl, rfl⟩
    | cons c behind =>
        have other := (ends c rfl).1
        exact ⟨List.takeWhile_cons_of_neg (by simp [other]),
          List.dropWhile_cons_of_neg (by simp [other])⟩
  simp only [digits?, List.takeWhile_append_of_pos areDigits,
    List.dropWhile_append_of_pos areDigits, none, List.append_nil, if_neg nonempty]

theorem whole?_toDigits (n : Nat) {rest : List Char} (ends : EndsNumber rest) :
    whole? (Nat.toDigits 10 n ++ rest) = some (Nat.toDigits 10 n, rest) := by
  have read : digits? (Nat.toDigits 10 n ++ rest) = some (Nat.toDigits 10 n, rest) :=
    digits?_append Nat.toDigits_ne_nil
      (fun _ => Nat.isDigit_of_mem_toDigits (by decide) (by decide)) ends
  obtain zero | ⟨c, behind, other, starts⟩ := toDigits_eq_zero_or n
  · rw [zero]
    rfl
  · rw [starts] at read ⊢
    rw [List.cons_append, whole?]
    · exact read
    · exact fun _ isZero => absurd (List.cons.inj isZero).1 other

/-- **A printed number is read whole**, and nothing behind it: it has no leading zero, no fraction
and no exponent. -/
theorem unsigned?_toDigits (n : Nat) {rest : List Char} (ends : EndsNumber rest) :
    unsigned? (Nat.toDigits 10 n ++ rest) = some (Nat.toDigits 10 n, rest) := by
  have whole : whole? (Nat.toDigits 10 n ++ rest) = some (Nat.toDigits 10 n, rest) :=
    whole?_toDigits n ends
  have fraction : fraction? rest = some ([], rest) := by
    unfold fraction?
    split
    · next behind => exact absurd rfl (ends '.' rfl).2.1
    · rfl
  have exponent : exponent? rest = some ([], rest) := by
    unfold exponent?
    split
    · next e behind =>
      obtain ⟨-, -, small, great⟩ := ends e rfl
      rw [if_neg (not_or.mpr ⟨small, great⟩)]
    · rfl
  simp [unsigned?, whole, fraction, exponent]

theorem isSpace_of_isDigit {c : Char} (isDigit : c.isDigit = true) : isSpace c = false := by
  rw [← Bool.not_eq_true]
  intro space
  simp only [isSpace, Bool.or_eq_true, beq_iff_eq] at space
  obtain ((rfl | rfl) | rfl) | rfl := space <;> exact absurd isDigit (by decide)

/-- Digits are taken for nothing but a number, for no mark, text or word starts with one. -/
theorem next?_of_isDigit {c : Char} (isDigit : c.isDigit = true) (behind : List Char) :
    next? (c :: behind) =
      (unsigned? (c :: behind)).map fun (spelling, rest) => (.number spelling, rest) := by
  rw [next?]
  all_goals
    rintro _ ⟨⟩
    exact absurd isDigit (by decide)

/-! ### Texts as lexemes -/

/-- A text has these lexemes, as any fuel that is enough tells. -/
def Lexes (text : List Char) (lexemes : List Lexeme) : Prop :=
  ∀ fuel, text.length ≤ fuel → take? fuel text = some lexemes

namespace Lexes

/-- A text of which the lexemes are known is read as these, with as much fuel as it has
characters. -/
theorem ofText?_eq {text : List Char} {lexemes : List Lexeme} (lexes : Lexes text lexemes) :
    ofText? text = some lexemes := lexes text.length (Nat.le_refl _)

theorem nil : Lexes [] [] := fun fuel _ => by cases fuel <;> rfl

variable {rest : List Char} {lexemes : List Lexeme}

/-- A lexeme in front of others.  It takes a character at least, so that the fuel for the others
is there. -/
theorem cons {c : Char} {written : List Char} {lexeme : Lexeme} (noSpace : isSpace c = false)
    (reads : next? (c :: (written ++ rest)) = some (lexeme, rest)) (lexes : Lexes rest lexemes) :
    Lexes (c :: (written ++ rest)) (lexeme :: lexemes) := by
  intro fuel enough
  cases fuel with
  | zero => cases enough
  | succ fuel =>
      have enoughRest : rest.length ≤ fuel := by
        rw [List.length_cons, List.length_append] at enough
        omega
      simp [take?, noSpace, reads, lexes fuel enoughRest]

theorem mark (c : Char) (lexeme : Lexeme) (noSpace : isSpace c = false)
    (reads : next? (c :: rest) = some (lexeme, rest)) (lexes : Lexes rest lexemes) :
    Lexes (c :: rest) (lexeme :: lexemes) := by
  have front : Lexes (c :: ([] ++ rest)) (lexeme :: lexemes) := cons noSpace reads lexes
  exact front

theorem quote (text : List Char) (lexes : Lexes rest lexemes) :
    Lexes (Json.quote text ++ rest) (.string (some text) :: lexemes) := by
  have parts := stringParts?_flatMap_escape text rest
  have reads : next? ('"' :: (text.flatMap escape ++ ['"'] ++ rest)) =
      some (.string (some text), rest) := by
    rw [next?, List.append_assoc, List.singleton_append, parts, ← join?_map_part text]
    rfl
  exact cons rfl reads lexes

/-- A printed number is one lexeme, provided that what follows cannot go on with it. -/
theorem digits (n : Nat) (ends : EndsNumber rest) (lexes : Lexes rest lexemes) :
    Lexes (Nat.toDigits 10 n ++ rest) (.number (Nat.toDigits 10 n) :: lexemes) := by
  have read := unsigned?_toDigits n ends
  have areDigits : ∀ c ∈ Nat.toDigits 10 n, c.isDigit = true :=
    fun _ => Nat.isDigit_of_mem_toDigits (by decide) (by decide)
  obtain ⟨c, behind, starts⟩ := List.exists_cons_of_ne_nil (Nat.toDigits_ne_nil (n := n) (b := 10))
  have isDigit : c.isDigit = true := areDigits c (starts ▸ List.mem_cons_self)
  rw [starts] at read ⊢
  refine cons (isSpace_of_isDigit isDigit) ?_ lexes
  rw [next?_of_isDigit isDigit, ← List.cons_append, read]
  rfl

/-- Strings in a row, with commas between them, as the texts of the addresses are written. -/
theorem quotes (texts : List (List Char)) (lexes : Lexes rest lexemes) :
    Lexes (List.intercalate [','] (texts.map Json.quote) ++ rest)
      (List.intercalate [.comma] (texts.map fun text => [.string (some text)]) ++ lexemes) := by
  induction texts with
  | nil => exact lexes
  | cons text texts ih =>
      cases texts with
      | nil => simpa only [List.map_cons, List.map_nil, List.intercalate_singleton,
          List.singleton_append] using quote text lexes
      | cons next texts =>
          simp only [List.map_cons, List.intercalate_cons_cons, List.append_assoc,
            List.singleton_append] at ih ⊢
          exact quote text (mark ',' .comma rfl rfl ih)

end Lexes

end Lexeme

/-! ### Arrays of strings -/

namespace Machine

/-- Strings with commas between them are the next items of an array, behind those that are already
there. -/
theorem run_nextItems (text : List Char) (texts : List (List Char)) (items : List Value)
    (stack : List Frame) (rest : List Lexeme) :
    run .value (.array items :: stack)
        (List.intercalate [.comma] ((text :: texts).map fun text => [.string (some text)]) ++
          .closeArray :: rest) =
      run (.complete (.array (items ++ (text :: texts).map fun text => .string (some text))))
        stack rest := by
  induction texts generalizing text items with
  | nil => rfl
  | cons next texts ih =>
      have step := ih next (items ++ [.string (some text)])
      rw [List.append_assoc, List.singleton_append] at step
      rw [List.map_cons, List.map_cons, List.intercalate_cons_cons]
      exact step

/-- **The array of some strings**, from behind its bracket on.  It may be empty, which is the case
that the machine has a state for. -/
theorem run_items (texts : List (List Char)) (stack : List Frame) (rest : List Lexeme) :
    run .itemOrEnd (.array [] :: stack)
        (List.intercalate [.comma] (texts.map fun text => [.string (some text)]) ++
          .closeArray :: rest) =
      run (.complete (.array (texts.map fun text => .string (some text)))) stack rest := by
  cases texts with
  | nil => rfl
  | cons text texts =>
      have items := run_nextItems text texts [] stack rest
      rw [List.nil_append] at items
      rw [← items]
      cases texts <;> rfl

end Machine

end ConnectTokens.Json
