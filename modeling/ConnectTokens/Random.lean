import ConnectTokens.Bytes

/-!
# Random bytes

A source of random bytes is one endless byte stream that is read in order.  All
secrets of all tokens are segments of it.

## Main Definitions

* `RandomSource`: a stream and how far it is read.
* `RandomSource.draw`: the next segment.
* `RandomSource.seeded`: the stream of a seeded generator, for runs that are to
  be repeatable.
-/

namespace ConnectTokens

/-- An endless byte stream, read up to a position. -/
structure RandomSource where
  byteAt : Nat → UInt8
  position : Nat

namespace RandomSource

/-- The bytes of the stream from `start` on. -/
def segment (byteAt : Nat → UInt8) (start size : Nat) : Block size where
  toList := (List.range size).map fun i => byteAt (start + i)
  length_toList := by simp

/-- The next `size` bytes. -/
def draw (size : Nat) (s : RandomSource) : Block size × RandomSource :=
  (segment s.byteAt s.position size, { s with position := s.position + size })

/-- Scrambles the bits of a word. -/
def scramble (x : UInt64) : UInt64 :=
  let x := (x ^^^ (x >>> 30)) * 0xbf58476d1ce4e5b9
  let x := (x ^^^ (x >>> 27)) * 0x94d049bb133111eb
  x ^^^ (x >>> 31)

/-- The word at a place of the generator that starts at a seed: its state grows by
the same odd number from each place to the next. -/
def word (seed : UInt64) (place : Nat) : UInt64 :=
  scramble (seed + UInt64.ofNat (place + 1) * 0x9e3779b97f4a7c15)

/-- The stream of the words of a seeded generator, least significant byte first. -/
def seeded (seed : UInt64) : RandomSource where
  byteAt i := (word seed (i / 8) >>> UInt64.ofNat (8 * (i % 8))).toUInt8
  position := 0

end RandomSource

end ConnectTokens
