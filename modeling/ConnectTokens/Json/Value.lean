import ConnectTokens.Json.Lexeme

/-!
# JSON values

A JSON text as a value.  Numbers keep their spelling, and members of objects
their order and their repetitions, so that a reader of values can be strict
about both.

## Main Definitions

* `Value`: a value.
* `Value.ofText?`: the value of a text.
* `Machine`, `Machine.run`: a stack machine that builds values from lexemes.
* `quote`: a text as a string in JSON.

## Design Notes

The machine handles one lexeme at a time and keeps the open arrays and objects on
a stack, so that no depth is too great and the recursion is on the lexemes.
-/

namespace ConnectTokens.Json

/-- A JSON value. -/
inductive Value where
  | null
  | bool (value : Bool)
  | number (spelling : List Char)
  /-- A string with its text, if it has one. -/
  | string (text : Option (List Char))
  | array (items : List Value)
  | object (members : List (Option (List Char) × Value))

/-- An array or object that is still open, with what it has so far. -/
inductive Frame where
  | array (items : List Value)
  | object (members : List (Option (List Char) × Value)) (key : Option (List Char))

namespace Machine

/-- What the machine is about to handle. -/
inductive State where
  /-- A value has to follow. -/
  | value
  /-- A value has to follow, or the end of the array that was just opened. -/
  | itemOrEnd
  /-- A key has to follow. -/
  | key (members : List (Option (List Char) × Value))
  /-- A key has to follow, or the end of the object that was just opened. -/
  | keyOrEnd
  /-- The colon behind a key has to follow. -/
  | colon (members : List (Option (List Char) × Value)) (key : Option (List Char))
  /-- A value is complete. -/
  | complete (value : Value)

/-- The value of a lexeme that is one by itself. -/
def simple? : Lexeme → Option Value
  | .null => some .null
  | .bool value => some (.bool value)
  | .number spelling => some (.number spelling)
  | .string text => some (.string text)
  | _ => none

/-- The state and stack after the first lexeme of a value. -/
def begin? (stack : List Frame) : Lexeme → Option (State × List Frame)
  | .openArray => some (.itemOrEnd, .array [] :: stack)
  | .openObject => some (.keyOrEnd, stack)
  | lexeme => (simple? lexeme).map fun value => (.complete value, stack)

/-- The state and stack after a lexeme. -/
def step? (state : State) (stack : List Frame) (lexeme : Lexeme) :
    Option (State × List Frame) :=
  match state, stack, lexeme with
  | .itemOrEnd, .array items :: stack, .closeArray => some (.complete (.array items), stack)
  | .itemOrEnd, stack, lexeme => begin? stack lexeme
  | .value, stack, lexeme => begin? stack lexeme
  | .keyOrEnd, stack, .closeObject => some (.complete (.object []), stack)
  | .keyOrEnd, stack, .string key => some (.colon [] key, stack)
  | .key members, stack, .string key => some (.colon members key, stack)
  | .colon members key, stack, .colon => some (.value, .object members key :: stack)
  | .complete value, .array items :: stack, .comma =>
    some (.value, .array (items ++ [value]) :: stack)
  | .complete value, .array items :: stack, .closeArray =>
    some (.complete (.array (items ++ [value])), stack)
  | .complete value, .object members key :: stack, .comma =>
    some (.key (members ++ [(key, value)]), stack)
  | .complete value, .object members key :: stack, .closeObject =>
    some (.complete (.object (members ++ [(key, value)])), stack)
  | _, _, _ => none

/-- The value that lexemes build, when they build exactly one. -/
def run (state : State) (stack : List Frame) : List Lexeme → Option Value
  | [] =>
    match state, stack with
    | .complete value, [] => some value
    | _, _ => none
  | lexeme :: rest =>
    match step? state stack lexeme with
    | some (state, stack) => run state stack rest
    | none => none

end Machine

/-- The value of a text. -/
def Value.ofText? (text : List Char) : Option Value := do
  Machine.run .value [] (← Lexeme.ofText? text)

/-- How a character is written in a string. -/
def escape (c : Char) : List Char :=
  match c with
  | '"' => ['\\', '"']
  | '\\' => ['\\', '\\']
  | '\x08' => ['\\', 'b']
  | '\t' => ['\\', 't']
  | '\n' => ['\\', 'n']
  | '\x0c' => ['\\', 'f']
  | '\r' => ['\\', 'r']
  | c => if c.toNat < 0x20 then ['\\', 'u'] ++ (Hex.digits c.toNat).leftpad 4 '0' else [c]

/-- A text as a string in JSON. -/
def quote (text : List Char) : List Char := '"' :: text.flatMap escape ++ ['"']

end ConnectTokens.Json
