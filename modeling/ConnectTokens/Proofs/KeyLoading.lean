import Mathlib.Data.List.DropRight
import ConnectTokens.Proofs.Encoding
import ConnectTokens.Proofs.FilesRead
import ConnectTokens.Proofs.Utf8Text

/-!
# Which key is loaded

A private key is loaded from a variable that spells it in base64, or from a file that spells
it so or holds its bare bytes, and from nothing else.  White space around base64 does not
matter.  A content that spells a key is never as long as a key, so it is not taken for one.

## Main Definitions

* `Text.Wraps`: a text is another one with white space around it.
* `PrivateKey.Spells`, `PrivateKey.Holds`: texts and contents of files that give a key.
* `PrivateKey.Given`, `PrivateKey.Refused`: what variables and files give, and why nothing.

## Main Statements

* `Text.trim_eq_iff`: what is left of a text without the white space around it.
* `PrivateKey.ofText_eq_ok_iff`, `PrivateKey.ofContent_eq_ok_iff`: the keys of a text and of a
  content.
* `PrivateKey.ofEnvironment_loads`: the keys of variables and files.
-/

namespace ConnectTokens

/-! ### White space around a text -/

namespace Text

/-- A text has no white space at its ends. -/
structure Bare (text : List Char) : Prop where
  first : ∀ c ∈ text.head?, isBlank c = false
  last : ∀ c ∈ text.getLast?, isBlank c = false

/-- A text is another one with white space around it, which may be none. -/
def Wraps (core text : List Char) : Prop :=
  ∃ front back, (∀ c ∈ front, isBlank c = true) ∧ (∀ c ∈ back, isBlank c = true) ∧
    text = front ++ core ++ back

variable {core text : List Char}

theorem isBlank_of_head?_dropWhile {c : Char} (first : (text.dropWhile isBlank).head? = some c) :
    isBlank c = false := by
  have stops := List.head?_dropWhile_not isBlank text
  rwa [first] at stops

/-- What is left of a text has no white space at its ends, even if nothing is left. -/
theorem bare_trim (text : List Char) : Bare (trim text) where
  first := by
    intro c isFirst
    obtain ⟨back, whole⟩ := List.rdropWhile_prefix isBlank (text.dropWhile isBlank)
    have isFirst : (text.dropWhile isBlank).head? = some c := by
      rw [← whole, List.head?_append]
      exact Option.or_eq_some_iff.mpr (.inl isFirst)
    exact isBlank_of_head?_dropWhile isFirst
  last := by
    intro c isLast
    rw [trim, trimEnd, List.getLast?_reverse] at isLast
    exact isBlank_of_head?_dropWhile isLast

/-- A text is what is left of it with the white space around it that was dropped. -/
theorem wraps_trim (text : List Char) : Wraps (trim text) text := by
  refine ⟨text.takeWhile isBlank, (text.dropWhile isBlank).rtakeWhile isBlank,
    fun _ => List.mem_takeWhile_imp, fun _ => List.mem_rtakeWhile_imp, ?_⟩
  rw [List.append_assoc]
  show _ = _ ++ ((text.dropWhile isBlank).rdropWhile isBlank ++ _)
  rw [List.rdropWhile_append_rtakeWhile, List.takeWhile_append_dropWhile]

/-- White space in front of what does not start with any is dropped, and no more than that. -/
theorem dropWhile_blank_append {front : List Char} (blank : ∀ c ∈ front, isBlank c = true)
    (first : ∀ c ∈ text.head?, isBlank c = false) : (front ++ text).dropWhile isBlank = text := by
  rw [List.dropWhile_append_of_pos blank]
  cases text with
  | nil => rfl
  | cons c rest => rw [List.dropWhile_cons_of_neg (by simp [first c rfl])]

theorem trimEnd_append {back : List Char} (blank : ∀ c ∈ back, isBlank c = true)
    (last : ∀ c ∈ text.getLast?, isBlank c = false) : trimEnd (text ++ back) = text := by
  rw [trimEnd, List.reverse_append, dropWhile_blank_append, List.reverse_reverse]
  · simpa using blank
  · simpa using last

/-- A text without white space at its ends is what is left of it with white space around, however
much there is on either side. -/
theorem trim_of_wraps (bare : Bare core) (wraps : Wraps core text) : trim text = core := by
  obtain ⟨front, back, blankFront, blankBack, rfl⟩ := wraps
  cases core with
  | nil =>
      have blank : ∀ c ∈ front ++ [] ++ back, isBlank c = true := by
        simpa [or_imp, forall_and] using ⟨blankFront, blankBack⟩
      rw [trim, List.dropWhile_eq_nil_iff.mpr blank]
      rfl
  | cons c rest =>
      have behind : (front ++ (c :: rest ++ back)).dropWhile isBlank = c :: rest ++ back :=
        dropWhile_blank_append blankFront bare.first
      rw [trim, List.append_assoc, behind, trimEnd_append blankBack bare.last]

/-- **What is left of a text without the white space around it** is the one text that is bare at
its ends and wrapped by it. -/
theorem trim_eq_iff : trim text = core ↔ Bare core ∧ Wraps core text := by
  constructor
  · rintro rfl
    exact ⟨bare_trim text, wraps_trim text⟩
  · rintro ⟨bare, wraps⟩
    exact trim_of_wraps bare wraps

end Text

namespace PrivateKey

variable {key : PrivateKey} {source : Variable} {text : List Char} {content : Bytes}
  {e : SettingsError}

/-! ### Keys in base64 -/

/-- A key in base64. -/
def base64 (key : PrivateKey) : List Char := Base64.encode key.block.toList

theorem length_base64 (key : PrivateKey) : key.base64.length = 44 := by
  rw [base64, Base64.length_encode, key.block.length_toList]
  rfl

/-- Base64 has no white space in it, and not the character that stands for bad bytes.  So trimming
leaves it, and a bad byte shows. -/
theorem plain_of_mem_base64 {c : Char} (present : c ∈ key.base64) :
    Text.isBlank c = false ∧ c ≠ '\uFFFD' := by
  have plain : ('=' :: Base64.alphabet).all fun c => !Text.isBlank c && c != '\uFFFD' := by
    decide
  have mem : c ∈ '=' :: Base64.alphabet := by
    rcases Base64.mem_encode present with digit | rfl
    · exact List.mem_cons_of_mem _ digit
    · exact List.mem_cons_self
  simpa using List.all_eq_true.mp plain c mem

theorem bare_base64 (key : PrivateKey) : Text.Bare key.base64 where
  first _ isFirst := (plain_of_mem_base64 (List.mem_of_mem_head? isFirst)).1
  last _ isLast := (plain_of_mem_base64 (List.mem_of_mem_getLast? isLast)).1

/-- A text spells a key: it is the base64 of the key with white space around it. -/
def Spells (text : List Char) (key : PrivateKey) : Prop := Text.Wraps key.base64 text

/-- A text spells a key exactly if base64 of the key is what is left of it without the white space
around. -/
theorem spells_iff : Spells text key ↔ Text.trim text = key.base64 := by
  rw [Text.trim_eq_iff, Spells, and_iff_right key.bare_base64]

/-- A text that spells a key is longer than the key, which has 32 bytes. -/
theorem length_of_spells (spells : Spells text key) : 44 ≤ text.length := by
  obtain ⟨front, back, -, -, rfl⟩ := spells
  simp only [List.length_append, length_base64]
  omega

/-- No white space is the character that stands for bad bytes, so that no bad bytes stand in a
text that spells a key. -/
theorem whole_of_spells (spells : Spells text key) : '\uFFFD' ∉ text := by
  obtain ⟨front, back, blankFront, blankBack, rfl⟩ := spells
  have notBlank : Text.isBlank '\uFFFD' ≠ true := by decide
  simp only [List.mem_append, not_or]
  exact ⟨⟨fun present => notBlank (blankFront _ present),
    fun present => (plain_of_mem_base64 present).2 rfl⟩,
    fun present => notBlank (blankBack _ present)⟩

/-! ### Keys in texts and in contents of files -/

theorem ofBytes?_eq_some_iff : ofBytes? content = some key ↔ content = key.block.toList := by
  constructor
  · intro sized
    obtain ⟨block, isBlock, rfl⟩ := Option.map_eq_some_iff.mp sized
    rw [Block.ofList?] at isBlock
    split at isBlock
    · cases isBlock
      rfl
    · cases isBlock
  · rintro rfl
    rw [ofBytes?, Block.ofList?_toList]
    rfl

/-- A text gives the key that it spells, and no other text gives it; there is one spelling up to
white space. -/
theorem ofText_eq_ok_iff : ofText source text = .ok key ↔ Spells text key := by
  have read : (Base64.decode? (Text.trim text)).bind ofBytes? = some key ↔ Spells text key := by
    simp only [Option.bind_eq_some_iff, ofBytes?_eq_some_iff, exists_eq_right,
      Base64.decode?_eq_some_iff, spells_iff, base64]
  rw [← read, ofText]
  split
  · next given => simp [given]
  · next none => simp [none]

/-- A text is refused with the name of its source and without a word of what is in it. -/
theorem eq_of_ofText_eq_error (refused : ofText source text = .error e) :
    e = .invalidPrivateKey source := by
  rw [ofText] at refused
  split at refused
  · cases refused
  · cases refused
    rfl

/-- A content gives a key: it is the bare bytes of the key, or a text that spells it. -/
def Holds (content : Bytes) (key : PrivateKey) : Prop :=
  content = key.block.toList ∨ ∃ text, content = Utf8.encode text ∧ Spells text key

/-- A content that spells a key does not have the size of a key, so it is never taken for the bare
bytes of another one. -/
theorem length_encode_ne_of_spells (spells : Spells text key) :
    (Utf8.encode text).length ≠ Size.key := by
  have long := length_of_spells spells
  have longer := Utf8.length_le_length_encode text
  rw [Size.key]
  omega

/-- A content that is read as text gives a key if it is the bytes of a text that spells one.  Bad
bytes are not read over. -/
theorem ofText_decodeLossy_eq_ok_iff (source : Variable) :
    ofText source (Utf8.decodeLossy content) = .ok key ↔
      ∃ text, content = Utf8.encode text ∧ Spells text key := by
  rw [ofText_eq_ok_iff]
  constructor
  · intro spells
    exact ⟨_, (Utf8.decodeLossy_eq_iff (whole_of_spells spells)).mp rfl, spells⟩
  · rintro ⟨text, written, spells⟩
    rwa [(Utf8.decodeLossy_eq_iff (whole_of_spells spells)).mpr written]

/-- **The keys of a content** are those that it gives, whichever of the two forms it has: bare
bytes, or a text that spells them. -/
theorem ofContent_eq_ok_iff : ofContent content = .ok key ↔ Holds content key := by
  rw [ofContent, Holds, ← ofBytes?_eq_some_iff, ← ofText_decodeLossy_eq_ok_iff .privateKeyFile]
  cases sized : ofBytes? content with
  | none => simp
  | some other =>
      -- A content of the size of a key spells none.
      have noText : ofText .privateKeyFile (Utf8.decodeLossy content) ≠ .ok key := by
        intro spelled
        obtain ⟨text, rfl, spells⟩ := (ofText_decodeLossy_eq_ok_iff _).mp spelled
        apply length_encode_ne_of_spells spells
        rw [ofBytes?_eq_some_iff.mp sized, other.block.length_toList]
      simp [noText]

theorem eq_of_ofContent_eq_error (refused : ofContent content = .error e) :
    e = .invalidPrivateKey .privateKeyFile := by
  rw [ofContent] at refused
  split at refused
  · cases refused
  · exact eq_of_ofText_eq_error refused

/-- An outcome that has one possible error has it if nothing is accepted. -/
theorem eq_error_iff_of {α ε : Type} {outcome : Except ε α} {accepted : α → Prop} {cause e : ε}
    (isAccepted : ∀ a, outcome = .ok a ↔ accepted a)
    (only : ∀ e, outcome = .error e → e = cause) :
    outcome = .error e ↔ e = cause ∧ ∀ a, ¬ accepted a := by
  simp only [← isAccepted]
  cases outcome with
  | ok a => simp
  | error e' =>
      cases only e' rfl
      simp [eq_comm]

theorem ofText_eq_error_iff :
    ofText source text = .error e ↔ e = .invalidPrivateKey source ∧ ∀ key, ¬ Spells text key :=
  eq_error_iff_of (fun _ => ofText_eq_ok_iff) fun _ => eq_of_ofText_eq_error

theorem ofContent_eq_error_iff :
    ofContent content = .error e ↔
      e = .invalidPrivateKey .privateKeyFile ∧ ∀ key, ¬ Holds content key :=
  eq_error_iff_of (fun _ => ofContent_eq_ok_iff) fun _ => eq_of_ofContent_eq_error

/-! ### Keys of variables and files -/

/-- The keys that variables and files give. -/
inductive Given (env : Environment) (files : FileSystem) : PrivateKey → Prop where
  /-- A variable spells the key. -/
  | byVariable {text : String} {key : PrivateKey} (set : env .privateKey = some text)
      (spells : Spells text.toList key) : Given env files key
  /-- No variable is set to a key, and the file that is named holds the key. -/
  | byFile {name : String} {content : Bytes} {key : PrivateKey} (unset : env .privateKey = none)
      (named : env .privateKeyFile = some name) (read : files.read name = .ok content)
      (holds : Holds content key) : Given env files key

/-- Why variables and files give no key. -/
inductive Refused (env : Environment) (files : FileSystem) : SettingsError → Prop where
  /-- A variable is set to what spells no key. -/
  | byVariable {text : String} (set : env .privateKey = some text)
      (spellsNone : ∀ key, ¬ Spells text.toList key) :
      Refused env files (.invalidPrivateKey .privateKey)
  /-- The file that is named holds no key. -/
  | byFile {name : String} {content : Bytes} (unset : env .privateKey = none)
      (named : env .privateKeyFile = some name) (read : files.read name = .ok content)
      (holdsNone : ∀ key, ¬ Holds content key) :
      Refused env files (.invalidPrivateKey .privateKeyFile)
  /-- The file that is named is not read. -/
  | unread {name : String} {fault : FileFault} (unset : env .privateKey = none)
      (named : env .privateKeyFile = some name) (unread : files.read name = .error fault) :
      Refused env files (.file fault)
  /-- Nothing is set. -/
  | missing (unset : env .privateKey = none) (unnamed : env .privateKeyFile = none) :
      Refused env files .missingPrivateKey

variable {env : Environment} {files : FileSystem}

/-- A key is loaded exactly if it is given: by the variable, or by the file if the variable is not
set. -/
theorem ofEnvironment_eq_ok_iff : ofEnvironment env files = .ok key ↔ Given env files key := by
  constructor
  · intro loaded
    rw [ofEnvironment_eq] at loaded
    split at loaded
    · next set => exact .byVariable set (ofText_eq_ok_iff.mp loaded)
    · next unset =>
      split at loaded
      · cases loaded
      · next named =>
        split at loaded
        · cases loaded
        · next read => exact .byFile unset named read (ofContent_eq_ok_iff.mp loaded)
  · intro given
    cases given with
    | byVariable set spells =>
        simp only [ofEnvironment_eq, set]
        exact ofText_eq_ok_iff.mpr spells
    | byFile unset named read holds =>
        simp only [ofEnvironment_eq, unset, named, read]
        exact ofContent_eq_ok_iff.mpr holds

/-- No key is loaded for one of the causes in the list, and which one it is stands in the
variables and in the file. -/
theorem ofEnvironment_eq_error_iff :
    ofEnvironment env files = .error e ↔ Refused env files e := by
  constructor
  · intro refused
    rw [ofEnvironment_eq] at refused
    split at refused
    · next set =>
      obtain ⟨rfl, spellsNone⟩ := ofText_eq_error_iff.mp refused
      exact .byVariable set spellsNone
    · next unset =>
      split at refused
      · next unnamed =>
        cases refused
        exact .missing unset unnamed
      · next named =>
        split at refused
        · next unread =>
          cases refused
          exact .unread unset named unread
        · next read =>
          obtain ⟨rfl, holdsNone⟩ := ofContent_eq_error_iff.mp refused
          exact .byFile unset named read holdsNone
  · intro refused
    cases refused with
    | byVariable set spellsNone =>
        simp only [ofEnvironment_eq, set]
        exact ofText_eq_error_iff.mpr ⟨rfl, spellsNone⟩
    | byFile unset named read holdsNone =>
        simp only [ofEnvironment_eq, unset, named, read]
        exact ofContent_eq_error_iff.mpr ⟨rfl, holdsNone⟩
    | unread unset named unread => simp only [ofEnvironment_eq, unset, named, unread]
    | missing unset unnamed => simp only [ofEnvironment_eq, unset, unnamed]

/-- **A key is loaded just from what gives it**, and whatever gives none is refused for the
cause that stands there.  A content that spells a key is never one of the bare form, and no
file is read for a key while a variable is set to a text, even to one that spells none. -/
theorem ofEnvironment_loads (env : Environment) (files : FileSystem) :
    (∀ key, ofEnvironment env files = .ok key ↔ Given env files key) ∧
      (∀ e, ofEnvironment env files = .error e ↔ Refused env files e) ∧
      (∀ text key, Spells text key → ∀ other : PrivateKey,
        Utf8.encode text ≠ other.block.toList) ∧
      trace env files = (ofEnvironment env files,
        if env .privateKey = none then (env .privateKeyFile).toList else []) := by
  refine ⟨fun _ => ofEnvironment_eq_ok_iff, fun _ => ofEnvironment_eq_error_iff, ?_,
    trace_eq env files⟩
  intro text key spells other bare
  apply length_encode_ne_of_spells spells
  rw [bare, other.block.length_toList]

/-- The key of zeros, in base64 with a space in front and a line end behind. -/
def zerosSpelled : List Char := ' ' :: base64 ⟨Block.zero Size.key⟩ ++ ['\n']

/-- A file alone is named. -/
def namedFile : Environment := fun v => if v = .privateKeyFile then some "key" else none

/-- A file that spells the key of zeros, with white space around it, is read, is no bare key and
gives that key. -/
theorem ofEnvironment_loads_zeros :
    trace namedFile (fun _ => .ok (Utf8.encode zerosSpelled)) =
        (.ok ⟨Block.zero Size.key⟩, ["key"]) ∧
      ∀ other : PrivateKey, Utf8.encode zerosSpelled ≠ other.block.toList := by
  have spells : Spells zerosSpelled ⟨Block.zero Size.key⟩ :=
    ⟨[' '], ['\n'], by simp [Text.isBlank], by simp [Text.isBlank], rfl⟩
  have read : FileSystem.read (fun _ => .ok (Utf8.encode zerosSpelled)) "key" =
      .ok (Utf8.encode zerosSpelled) := if_neg (by decide)
  obtain ⟨loads, -, noBareKey, traced⟩ :=
    ofEnvironment_loads namedFile fun _ => .ok (Utf8.encode zerosSpelled)
  refine ⟨?_, noBareKey _ _ spells⟩
  rw [traced, (loads _).mpr (.byFile rfl rfl read (.inr ⟨_, rfl, spells⟩))]
  rfl

end PrivateKey

end ConnectTokens
