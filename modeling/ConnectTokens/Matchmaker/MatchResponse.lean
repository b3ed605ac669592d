import ConnectTokens.Json.Value
import ConnectTokens.SocketAddress.Grammar
import ConnectTokens.SocketAddress.Printer
import ConnectTokens.Text.Base64
import ConnectTokens.Text.Decimal
import ConnectTokens.Token

/-!
# Match responses

A token together with its public fields, for clients that do not read tokens.  It
travels as a JSON object with five members.

## Main Definitions

* `MatchResponse`, `MatchResponse.ofToken`: the response for a token.
* `MatchResponse.render`: its JSON text.
* `MatchResponse.ofText?`: the response of a JSON text.

## Design Notes

A reader takes the members in any order and skips unknown ones, but each of the
five has to be there once.  The five values in an array, in their order, are
taken as well.
-/

namespace ConnectTokens

/-- A token together with its public fields. -/
@[ext] structure MatchResponse where
  connectToken : List Char
  serverAddresses : List SocketAddress
  clientToServerKey : List Char
  serverToClientKey : List Char
  expireTimestamp : UInt64
deriving DecidableEq

namespace MatchResponse

/-- The response for a token in base64. -/
def ofToken (t : Token) (encoded : List Char) : MatchResponse where
  connectToken := encoded
  serverAddresses := t.servers.toList
  clientToServerKey := Base64.encode t.clientToServer.toList
  serverToClientKey := Base64.encode t.serverToClient.toList
  expireTimestamp := t.expireTime

/-- A member of an object. -/
def member (name : String) (value : List Char) : List Char :=
  Json.quote name.toList ++ [':'] ++ value

/-- Addresses as an array of strings. -/
def addressArray (addresses : List SocketAddress) : List Char :=
  ['['] ++ List.intercalate [','] (addresses.map fun a => Json.quote a.chars) ++ [']']

/-- The JSON text of a response. -/
def render (r : MatchResponse) : List Char :=
  ['\x7b'] ++
    member "connectToken" (Json.quote r.connectToken) ++ [','] ++
    member "serverAddresses" (addressArray r.serverAddresses) ++ [','] ++
    member "clientToServerKey" (Json.quote r.clientToServerKey) ++ [','] ++
    member "serverToClientKey" (Json.quote r.serverToClientKey) ++ [','] ++
    member "expireTimestamp" (Nat.toDigits 10 r.expireTimestamp.toNat) ++
    ['\x7d']

/-- A text. -/
def text? : Json.Value → Option (List Char)
  | .string text => text
  | _ => none

/-- A number that is written as digits and fits 64 bits. -/
def word? : Json.Value → Option UInt64
  | .number spelling =>
    ((Decimal.natural? spelling).filter (· < UInt64.size)).map UInt64.ofNat
  | _ => none

/-- The text of a socket address. -/
def address? (v : Json.Value) : Option SocketAddress := (text? v).bind SocketAddress.ofText?

/-- An array of texts of socket addresses. -/
def addresses? : Json.Value → Option (List SocketAddress)
  | .array items => items.mapM address?
  | _ => none

/-- The response of five values in their order. -/
def ofValues? (connectToken serverAddresses clientToServerKey serverToClientKey
    expireTimestamp : Json.Value) : Option MatchResponse := do
  return {
    connectToken := ← text? connectToken
    serverAddresses := ← addresses? serverAddresses
    clientToServerKey := ← text? clientToServerKey
    serverToClientKey := ← text? serverToClientKey
    expireTimestamp := ← word? expireTimestamp }

/-- The value of the one member with a name. -/
def only? (members : List (Option (List Char) × Json.Value)) (name : String) :
    Option Json.Value :=
  match members.filter (·.1 == some name.toList) with
  | [(_, value)] => some value
  | _ => none

/-- The response of a value. -/
def ofValue? : Json.Value → Option MatchResponse
  | .object members =>
    if members.all (·.1.isSome) then do
      ofValues? (← only? members "connectToken") (← only? members "serverAddresses")
        (← only? members "clientToServerKey") (← only? members "serverToClientKey")
        (← only? members "expireTimestamp")
    else none
  | .array [a, b, c, d, e] => ofValues? a b c d e
  | _ => none

/-- The response of a JSON text. -/
def ofText? (text : List Char) : Option MatchResponse := (Json.Value.ofText? text).bind ofValue?

end MatchResponse

end ConnectTokens
