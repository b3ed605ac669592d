import ConnectTokens.SocketAddress
import ConnectTokens.Text.Hex

/-!
# Writing socket addresses

The one written form of each socket address: groups in lower case without zeros
in front, the longest run of at least two zero groups as `::` (the first of
equals), an IPv4 host mapped into IPv6 as `::ffff:a.b.c.d`, and the scope only
where it is not zero.

## Main Definitions

* `longestGap`: the run of zero groups to leave out.
* `v4Host`, `v6Host`: the two kinds of host.
* `chars`, `text`: a whole address.
-/

namespace ConnectTokens.SocketAddress

/-- An IPv4 host: its octets with dots between them. -/
def v4Host (octets : Bytes) : List Char :=
  List.intercalate ['.'] (octets.map fun o => Nat.toDigits 10 o.toNat)

/-- The groups of an IPv6 host: its octets in pairs, the higher one first. -/
def groupsOf : Bytes → List Nat
  | high :: low :: rest => (high.toNat * 256 + low.toNat) :: groupsOf rest
  | _ => []

/-- How many zero groups stand at a place. -/
def gapAt (groups : List Nat) (start : Nat) : Nat :=
  ((groups.drop start).takeWhile (· = 0)).length

/-- The place and the length of the longest run of zero groups, the first of
equals. -/
def longestGap (groups : List Nat) : Nat × Nat :=
  (List.range groups.length).foldl
    (fun best start =>
      if best.2 < gapAt groups start then (start, gapAt groups start) else best)
    (0, 0)

/-- Groups with colons between them. -/
def colonGroups (groups : List Nat) : List Char :=
  List.intercalate [':'] (groups.map Hex.digits)

/-- The octets in front of an IPv4 host that is mapped into IPv6. -/
def mappedFront : Bytes := [0, 0, 0, 0, 0, 0, 0, 0, 0, 0, 0xFF, 0xFF]

/-- An IPv6 host. -/
def v6Host (octets : Bytes) : List Char :=
  if octets.take 12 = mappedFront then
    "::ffff:".toList ++ v4Host (octets.drop 12)
  else
    let groups := groupsOf octets
    let (start, size) := longestGap groups
    if 1 < size then
      colonGroups (groups.take start) ++ [':', ':'] ++ colonGroups (groups.drop (start + size))
    else colonGroups groups

/-- The characters of an address. -/
def chars : SocketAddress → List Char
  | v4 octets portNumber => v4Host octets.toList ++ [':'] ++ Nat.toDigits 10 portNumber.toNat
  | v6 octets portNumber _ scope =>
    ['['] ++ v6Host octets.toList ++
      (if scope = 0 then [] else '%' :: Nat.toDigits 10 scope.toNat) ++
      [']', ':'] ++ Nat.toDigits 10 portNumber.toNat

/-- The text of an address. -/
def text (a : SocketAddress) : String := String.ofList a.chars

end ConnectTokens.SocketAddress
