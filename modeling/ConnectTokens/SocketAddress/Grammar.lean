import ConnectTokens.SocketAddress
import ConnectTokens.Text.Decimal
import ConnectTokens.Text.Hex

/-!
# Reading socket addresses

The written forms of a socket address: `a.b.c.d:n`, `[host]:n` and
`[host%scope]:n`, where an IPv6 host has eight groups of hexadecimal digits, one
run of zero groups may be left out as `::`, and the last two groups may be
written as an IPv4 host.

## Main Definitions

* `v4Octets?`, `v6Octets?`: the two kinds of host.
* `ofText?`: a whole address.
-/

namespace ConnectTokens.SocketAddress

/-- An octet of an IPv4 host: at most three digits, and no zero in front. -/
def octet? (text : List Char) : Option UInt8 :=
  if text.length ≤ 3 ∧ (text.head? = some '0' → text.length = 1) then
    ((Decimal.natural? text).filter (· < 256)).map UInt8.ofNat
  else none

/-- An IPv4 host: four octets with dots between them. -/
def v4Octets? (text : List Char) : Option (Block 4) := do
  Block.ofList? 4 (← (text.splitOn '.').mapM octet?)

/-- A group of an IPv6 host, as its two octets: at most four digits. -/
def group? (text : List Char) : Option Bytes :=
  if text.length ≤ 4 then
    (Hex.natural? text).map fun n => [UInt8.ofNat (n / 256), UInt8.ofNat n]
  else none

/-- Groups with colons between them, or none at all. -/
def groups? (text : List Char) : Option Bytes :=
  if text = [] then some []
  else ((text.splitOn ':').mapM group?).map List.flatten

/-- What may stand last: a group, or an IPv4 host in place of two groups. -/
def lastGroup? (text : List Char) : Option Bytes :=
  match group? text with
  | some octets => some octets
  | none => (v4Octets? text).map Block.toList

/-- Groups at the end of a host, where an IPv4 host may stand last. -/
def lastGroups? (text : List Char) : Option Bytes :=
  if text = [] then some []
  else
    let parts := text.splitOn ':'
    do return (← parts.dropLast.mapM group?).flatten ++ (← lastGroup? (parts.getLastD []))

/-- The texts around the first `::`. -/
def splitGap? : List Char → Option (List Char × List Char)
  | ':' :: ':' :: rest => some ([], rest)
  | c :: rest => (splitGap? rest).map fun (head, tail) => (c :: head, tail)
  | [] => none

/-- An IPv6 host.  A `::` stands for one or more groups of zeros. -/
def v6Octets? (text : List Char) : Option (Block 16) :=
  match splitGap? text with
  | none => do Block.ofList? 16 (← lastGroups? text)
  | some (head, tail) => do
    let head ← groups? head
    let tail ← lastGroups? tail
    if head.length + tail.length ≤ 14 then
      Block.ofList? 16 (head ++ List.replicate (16 - head.length - tail.length) 0 ++ tail)
    else none

/-- A host with an optional scope, which is what stands between brackets. -/
def bracketed? (text : List Char) (portNumber : UInt16) : Option SocketAddress :=
  match text.splitOn '%' with
  | [host] => do return v6 (← v6Octets? host) portNumber 0 0
  | [host, scope] => do return v6 (← v6Octets? host) portNumber 0 (← Decimal.uint32? scope)
  | _ => none

/-- The address that a text writes. -/
def ofText? (text : List Char) : Option SocketAddress :=
  match text with
  | '[' :: rest =>
    match rest.dropWhile (· ≠ ']') with
    | ']' :: ':' :: digits => do
      bracketed? (rest.takeWhile (· ≠ ']')) (← Decimal.uint16? digits)
    | _ => none
  | _ =>
    match text.splitOn ':' with
    | [host, digits] => do return v4 (← v4Octets? host) (← Decimal.uint16? digits)
    | _ => none

end ConnectTokens.SocketAddress
