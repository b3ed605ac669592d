import ConnectTokens.Text.Hex

/-!
# Lexemes of JSON

The pieces that a JSON text consists of: marks, words, numbers and strings.

## Main Definitions

* `Lexeme`: a piece of a text.
* `Lexeme.ofText?`: all pieces of a text.
* `StringPart`, `Lexeme.join?`: what stands in a string, and the text that it is.

## Design Notes

An escape may name half of a surrogate pair, which is no character.  A string
with a lone half has no text; it is read all the same, since such a string does
no harm where its value is skipped.  Numbers keep their spelling.
-/

namespace ConnectTokens.Json

/-- What stands in a string at one place. -/
inductive StringPart where
  /-- A character, as it is or by a short escape. -/
  | char (c : Char)
  /-- A unit of UTF-16, by its number. -/
  | unit (code : Nat)
deriving DecidableEq, Repr

/-- A piece of a text. -/
inductive Lexeme where
  | openArray
  | closeArray
  | openObject
  | closeObject
  | colon
  | comma
  | null
  | bool (value : Bool)
  | number (spelling : List Char)
  /-- A string with its text, if it has one. -/
  | string (text : Option (List Char))
deriving DecidableEq, Repr

namespace Lexeme

/-- White space between the pieces. -/
def isSpace (c : Char) : Bool := c == ' ' || c == '\n' || c == '\t' || c == '\r'

/-- The character of a short escape. -/
def shortEscape? : Char → Option Char
  | '"' => some '"'
  | '\\' => some '\\'
  | '/' => some '/'
  | 'b' => some '\x08'
  | 'f' => some '\x0c'
  | 'n' => some '\n'
  | 'r' => some '\r'
  | 't' => some '\t'
  | _ => none

/-- What stands in a string up to its closing quote, and the text behind it. -/
def stringParts? : List Char → Option (List StringPart × List Char)
  | [] => none
  | '"' :: rest => some ([], rest)
  | '\\' :: 'u' :: a :: b :: c :: d :: rest => do
    let code ← Hex.natural? [a, b, c, d]
    let (parts, rest) ← stringParts? rest
    return (.unit code :: parts, rest)
  | '\\' :: e :: rest => do
    let c ← shortEscape? e
    let (parts, rest) ← stringParts? rest
    return (.char c :: parts, rest)
  | c :: rest =>
    if c.toNat < 0x20 then none
    else (stringParts? rest).map fun (parts, rest) => (.char c :: parts, rest)

/-- The text of a string, whose surrogates have to come in pairs. -/
def join? : List StringPart → Option (List Char)
  | [] => some []
  | .char c :: rest => (join? rest).map (c :: ·)
  | .unit high :: .unit low :: rest =>
    if 0xD800 ≤ high ∧ high < 0xDC00 then
      if 0xDC00 ≤ low ∧ low < 0xE000 then
        (join? rest).map (Char.ofNat (0x10000 + (high - 0xD800) * 0x400 + (low - 0xDC00)) :: ·)
      else none
    else if 0xDC00 ≤ high ∧ high < 0xE000 then none
    else (join? (.unit low :: rest)).map (Char.ofNat high :: ·)
  | .unit code :: rest =>
    if 0xD800 ≤ code ∧ code < 0xE000 then none
    else (join? rest).map (Char.ofNat code :: ·)

/-- One or more digits at the front, and what is behind them. -/
def digits? (text : List Char) : Option (List Char × List Char) :=
  let digits := text.takeWhile Char.isDigit
  if digits = [] then none else some (digits, text.dropWhile Char.isDigit)

/-- The whole part of a number, which has no zero in front of other digits. -/
def whole? (text : List Char) : Option (List Char × List Char) :=
  match text with
  | '0' :: rest => some (['0'], rest)
  | _ => digits? text

/-- The part of a number behind the point, if there is a point. -/
def fraction? (text : List Char) : Option (List Char × List Char) :=
  match text with
  | '.' :: rest => do
    let (digits, rest) ← digits? rest
    return ('.' :: digits, rest)
  | _ => some ([], text)

/-- The exponent of a number, if there is one. -/
def exponent? (text : List Char) : Option (List Char × List Char) :=
  match text with
  | e :: rest =>
    if e = 'e' ∨ e = 'E' then
      match rest with
      | sign :: behind =>
        if sign = '+' ∨ sign = '-' then do
          let (digits, rest) ← digits? behind
          return (e :: sign :: digits, rest)
        else do
          let (digits, rest) ← digits? rest
          return (e :: digits, rest)
      | [] => none
    else some ([], text)
  | [] => some ([], [])

/-- The number at the front without its sign, and what is behind it. -/
def unsigned? (text : List Char) : Option (List Char × List Char) := do
  let (whole, rest) ← whole? text
  let (fraction, rest) ← fraction? rest
  let (exponent, rest) ← exponent? rest
  return (whole ++ fraction ++ exponent, rest)

/-- The piece at the front of a text, and what is behind it. -/
def next? : List Char → Option (Lexeme × List Char)
  | '[' :: rest => some (openArray, rest)
  | ']' :: rest => some (closeArray, rest)
  | '\x7b' :: rest => some (openObject, rest)
  | '\x7d' :: rest => some (closeObject, rest)
  | ':' :: rest => some (colon, rest)
  | ',' :: rest => some (comma, rest)
  | '"' :: rest => (stringParts? rest).map fun (parts, rest) => (string (join? parts), rest)
  | 'n' :: 'u' :: 'l' :: 'l' :: rest => some (null, rest)
  | 't' :: 'r' :: 'u' :: 'e' :: rest => some (bool true, rest)
  | 'f' :: 'a' :: 'l' :: 's' :: 'e' :: rest => some (bool false, rest)
  | '-' :: rest => (unsigned? rest).map fun (spelling, rest) => (number ('-' :: spelling), rest)
  | text => (unsigned? text).map fun (spelling, rest) => (number spelling, rest)

/-- The pieces of a text of at most so many characters. -/
def take? : (fuel : Nat) → List Char → Option (List Lexeme)
  | _, [] => some []
  | 0, _ :: _ => none
  | fuel + 1, c :: rest =>
    if isSpace c then take? fuel rest
    else do
      let (lexeme, rest) ← next? (c :: rest)
      return lexeme :: (← take? fuel rest)

/-- All pieces of a text.  Each has at least one character, so there are no more
than characters. -/
def ofText? (text : List Char) : Option (List Lexeme) := take? text.length text

end Lexeme

end ConnectTokens.Json
