import ConnectTokens.CommandLine.Sha512

/-!
# Ed25519 keys

A private key is a seed of 32 bytes.  It stands for a multiple of the base point
of a twisted Edwards curve, which is its public key.

## Main Definitions

* `Point`, `Point.add`: the points of the curve.
* `times`: a multiple by doubling.
* `publicKey`: the public key of a seed.

## Design Notes

Points are kept in four coordinates, so that only the written form needs a
division.  The sum formula holds for all pairs of points, equal ones included.
-/

namespace ConnectTokens.CommandLine.Ed25519

/-- The order of the field, `2 ^ 255 - 19`. -/
def prime : Nat := 0x7fffffffffffffffffffffffffffffffffffffffffffffffffffffffffffffed

/-- An element of the field. -/
abbrev Coordinate := Fin prime

/-- The neutral element of addition. -/
def zero : Coordinate := ⟨0, by decide⟩

/-- The neutral element of multiplication. -/
def one : Coordinate := ⟨1, by decide⟩

/-- The constant of the curve `-x ^ 2 + y ^ 2 = 1 + curve * x ^ 2 * y ^ 2`. -/
def curve : Coordinate :=
  ⟨0x52036cee2b6ffe738cc740797779e89800700a4d4141d8ab75eb4dca135978a3, by decide⟩

/-- `count` copies of `x` combined by an associative operation, by doubling. -/
def times {α : Type} (combine : α → α → α) (unit x : α) (count : Nat) : α :=
  if count = 0 then unit
  else
    let rest := times combine unit (combine x x) (count / 2)
    if count % 2 = 1 then combine x rest else rest
termination_by count
decreasing_by omega

/-- The inverse of an element that is not zero: its power by `prime - 2`. -/
def inverse (a : Coordinate) : Coordinate := times (· * ·) one a (prime - 2)

/-- The point with `X = x / z`, `Y = y / z` and `X * Y = t / z`. -/
structure Point where
  x : Coordinate
  y : Coordinate
  z : Coordinate
  t : Coordinate
deriving DecidableEq

namespace Point

/-- The neutral point. -/
def neutral : Point := ⟨zero, one, one, zero⟩

/-- The base point. -/
def base : Point where
  x := ⟨0x216936d3cd6e53fec0a4e231fdd6dc5c692cc7609525a7b2c9562d608f25d51a, by decide⟩
  y := ⟨0x6666666666666666666666666666666666666666666666666666666666666658, by decide⟩
  z := one
  t := ⟨0x67875f0fd78b766566ea4e8e64abe37d20f09f80775152f56dde8ab3a5b7dda3, by decide⟩

/-- The sum of two points. -/
def add (p q : Point) : Point :=
  let a := (p.y - p.x) * (q.y - q.x)
  let b := (p.y + p.x) * (q.y + q.x)
  let c := p.t * (curve + curve) * q.t
  let d := (p.z + p.z) * q.z
  { x := (b - a) * (d - c), y := (d + c) * (b + a), z := (d - c) * (d + c), t := (b - a) * (b + a) }

/-- The highest bit of 32 bytes. -/
def highestBit : Nat :=
  0x8000000000000000000000000000000000000000000000000000000000000000

/-- The written form: `Y`, with the lowest bit of `X` as its highest bit. -/
def bytes (p : Point) : Block 32 where
  toList :=
    let back := inverse p.z
    Bytes.littleEndian 32 ((p.y * back).val + (p.x * back).val % 2 * highestBit)
  length_toList := by simp

end Point

/-- The bits of a hash that a scalar keeps: all but the lowest three and the
highest two. -/
def keptBits : Nat :=
  0x3ffffffffffffffffffffffffffffffffffffffffffffffffffffffffffffff8

/-- The highest bit of every scalar, the second highest of 32 bytes. -/
def scalarBit : Nat :=
  0x4000000000000000000000000000000000000000000000000000000000000000

/-- The number that a seed stands for, from the first half of its hash. -/
def scalar (seed : Block 32) : Nat :=
  let half := Bytes.ofLittleEndian ((Sha512.digest seed.toList).toList.take 32)
  (half &&& keptBits) + scalarBit

/-- The public key of a seed. -/
def publicKey (seed : Block 32) : Block 32 :=
  (times Point.add Point.neutral Point.base (scalar seed)).bytes

end ConnectTokens.CommandLine.Ed25519
