import ConnectTokens.Bytes

/-!
# The Poly1305 authenticator

A 16 byte tag of a message under a key that is used once: the message is a
polynomial over the integers modulo `2 ^ 130 - 5`, evaluated at a secret point.

## Main Definitions

* `absorb`: the value of the polynomial, sixteen bytes at a time.
* `tag`: the tag of a message.
-/

namespace ConnectTokens.Poly1305

/-- The modulus, `2 ^ 130 - 5`. -/
def prime : Nat := 0x3fffffffffffffffffffffffffffffffb

/-- The point at which the polynomial is evaluated, from the first half of the key. -/
def point (key : Block 32) : Nat :=
  Bytes.ofLittleEndian (key.toList.take 16) &&& 0x0ffffffc0ffffffc0ffffffc0fffffff

/-- What is added to the value, from the second half of the key. -/
def offset (key : Block 32) : Nat := Bytes.ofLittleEndian (key.toList.drop 16)

/-- The value of the polynomial whose coefficients are the sixteen byte pieces of
the message, each with a one behind it. -/
def absorb (r value : Nat) (message : Bytes) : Nat :=
  if message = [] then value
  else
    let coefficient := Bytes.ofLittleEndian (message.take 16 ++ [1])
    absorb r ((value + coefficient) * r % prime) (message.drop 16)
termination_by message.length
decreasing_by
  have := List.length_pos_iff.mpr ‹_›
  simp only [List.length_drop]
  omega

/-- The tag of a message. -/
def tag (key : Block 32) (message : Bytes) : Block 16 where
  toList := Bytes.littleEndian 16 (absorb (point key) 0 message + offset key)
  length_toList := by simp

end ConnectTokens.Poly1305
