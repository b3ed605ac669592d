import ConnectTokens.Text.Percent

/-!
# Routes

Which requests a matchmaker answers.  Only the path of a URI counts, and it is
decoded in two rounds: the first keeps the escapes of `%`, `/` and `+`, so that a
path is split only where a slash was written as such; the second decodes what is
left inside a part.

## Main Definitions

* `pathOf`: the path of a URI.
* `Route`, `Route.of?`: the requests that are answered.
-/

namespace ConnectTokens

/-- What stands behind the authority of a URI. -/
def afterAuthority (text : List Char) : List Char :=
  match text.dropWhile (· ≠ '/') with
  | [] => ['/']
  | path => path

/-- What stands behind the first `://`, if it occurs. -/
def afterScheme? : List Char → Option (List Char)
  | ':' :: '/' :: '/' :: rest => some rest
  | _ :: rest => afterScheme? rest
  | [] => none

/-- The path of a URI, without scheme, authority, query and fragment. -/
def pathOf (uri : List Char) : List Char :=
  let text := uri.takeWhile fun c => c ≠ '?' ∧ c ≠ '#'
  if text.head? = some '/' then text
  else
    match afterScheme? text with
    | some rest => afterAuthority rest
    | none => text

/-- The first round of decoding. -/
def decodePath (path : List Char) : List Char :=
  Percent.decode (fun b => b = 0x25 ∨ b = 0x2F ∨ b = 0x2B) path

/-- The second round of decoding. -/
def decodePart (part : List Char) : String :=
  String.ofList (Percent.decode (fun _ => false) part)

/-- A request that is answered. -/
inductive Route where
  /-- A token for a client of a protocol. -/
  | token (protocol client : String)
  /-- A token together with its public fields. -/
  | details (protocol client : String)
deriving DecidableEq, Repr

namespace Route

/-- The route of the parts of a path. -/
def ofParts? : List (List Char) → Option Route
  | [[], first, protocol, client] =>
    if first = "match".toList ∧ protocol ≠ [] ∧ client ≠ [] then
      some (token (decodePart protocol) (decodePart client))
    else none
  | [[], first, protocol, client, last] =>
    if first = "match".toList ∧ protocol ≠ [] ∧ client ≠ [] ∧ last = "json".toList then
      some (details (decodePart protocol) (decodePart client))
    else none
  | _ => none

/-- The route of a method and a URI. -/
def of? (method uri : String) : Option Route :=
  if method = "GET" then ofParts? ((decodePath (pathOf uri.toList)).splitOn '/') else none

end Route

end ConnectTokens
