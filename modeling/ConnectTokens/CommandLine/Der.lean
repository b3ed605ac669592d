import ConnectTokens.Bytes

/-!
# Elements of DER

The pieces that certificates and keys are written in: a tag, the size of what
follows, and that many bytes.  A size is written with as few bytes as it can be,
and with at most two behind the first.

## Main Definitions

* `size?`: the size at the front.
* `element?`: the content of the element at the front, and what is behind it.
* `only?`: the content of an element that nothing is behind.
-/

namespace ConnectTokens.CommandLine.Der

/-- The size at the front of a byte string, and what is behind it. -/
def size? : Bytes → Option (Nat × Bytes)
  | 0x81 :: n :: rest => if n < 0x80 then none else some (n.toNat, rest)
  | 0x82 :: high :: low :: rest =>
    if high = 0 then none else some (high.toNat * 256 + low.toNat, rest)
  | n :: rest => if n < 0x80 then some (n.toNat, rest) else none
  | [] => none

/-- The content of the element with a tag at the front, and what is behind it. -/
def element? (tag : UInt8) (bytes : Bytes) : Option (Bytes × Bytes) :=
  if bytes.head? = some tag then do
    let (size, rest) ← size? bytes.tail
    if size ≤ rest.length then some (rest.take size, rest.drop size) else none
  else none

/-- The content of the element with a tag that all the bytes are. -/
def only? (tag : UInt8) (bytes : Bytes) : Option Bytes :=
  match element? tag bytes with
  | some (content, []) => some content
  | _ => none

end ConnectTokens.CommandLine.Der
