import ConnectTokens.Text.Hex
import ConnectTokens.Text.Shown

/-!
# Quoted text

A text between double quotes, with escapes for what would not show.

## Main Definitions

* `escape`: how one character is written.
* `quoted`: the whole text between quotes.
-/

namespace ConnectTokens.Text

/-- How a character is written between double quotes. -/
def escape (c : Char) : List Char :=
  match c with
  | '\x00' => ['\\', '0']
  | '\t' => ['\\', 't']
  | '\n' => ['\\', 'n']
  | '\r' => ['\\', 'r']
  | '"' => ['\\', '"']
  | '\\' => ['\\', '\\']
  | c => if isShown c then [c] else ['\\', 'u', '\x7b'] ++ Hex.digits c.toNat ++ ['\x7d']

/-- A text between double quotes. -/
def quoted (text : String) : String :=
  String.ofList ('"' :: text.toList.flatMap escape ++ ['"'])

end ConnectTokens.Text
