import ConnectTokens.Reader
import ConnectTokens.SocketAddress

/-!
# Server address lists

The servers that a token admits to: one to eight addresses.  On the wire a list
is its length as a 32 bit word and then, for each address, a tag for its kind,
its octets in network order and the number of the service, least significant
byte first.

## Main Definitions

* `ServerAddresses`: a list of one to eight addresses.
* `ServerAddresses.encodeList`, `ServerAddresses.encode`: writing lists, with
  and without the check of the length.
* `ServerAddresses.read`, `ServerAddresses.decode`: reading a list off the front.
* `ServerAddresses.unscoped`: a list as it comes back from the wire.

## Design Notes

Reading has an early check that the entries, were they all of the short kind,
fit into what is left.  It decides which cause a list with several faults is
refused for: too few bytes go before an unknown tag.
-/

namespace ConnectTokens

namespace SocketAddress

/-- The tag of an IPv4 entry. -/
def v4Tag : UInt8 := 1

/-- The tag of an IPv6 entry. -/
def v6Tag : UInt8 := 2

/-- Bytes of an IPv4 entry. -/
def v4EntrySize : Nat := 1 + 4 + 2

/-- Bytes of an IPv6 entry. -/
def v6EntrySize : Nat := 1 + 16 + 2

/-- Bytes of the entry of an address. -/
def entrySize : SocketAddress → Nat
  | v4 .. => v4EntrySize
  | v6 .. => v6EntrySize

/-- The tag of the entry of an address. -/
def tag : SocketAddress → UInt8
  | v4 .. => v4Tag
  | v6 .. => v6Tag

/-- The entry of an address. -/
def entry (a : SocketAddress) : Bytes := a.tag :: a.octets ++ Bytes.ofUInt16 a.portNumber

/-- Reads the entry of an address. -/
def readEntry : Reader SocketAddress := do
  let tag ← Reader.uint8
  if tag = v4Tag then
    return v4 (← Reader.block 4) (← Reader.uint16)
  else if tag = v6Tag then
    return v6 (← Reader.block 16) (← Reader.uint16) 0 0
  else
    throw (.addressKind tag)

@[simp] theorem length_entry (a : SocketAddress) : a.entry.length = a.entrySize := by
  cases a <;> simp [entry, octets, entrySize, v4EntrySize, v6EntrySize, Bytes.ofUInt16]

end SocketAddress

/-- A list of one to eight server addresses. -/
@[ext] structure ServerAddresses where
  toList : List SocketAddress
  one_le_length : 1 ≤ toList.length
  length_le : toList.length ≤ Size.maxServers
deriving DecidableEq

namespace ServerAddresses

/-- A list as server addresses, when its length is right. -/
def ofList (addresses : List SocketAddress) : Except TokenError ServerAddresses :=
  if h : 1 ≤ addresses.length ∧ addresses.length ≤ Size.maxServers then
    .ok ⟨addresses, h.1, h.2⟩
  else
    .error (.addressCount addresses.length)

/-- How many addresses there are. -/
def count (s : ServerAddresses) : Nat := s.toList.length

/-- The address that a client tries first. -/
def first (s : ServerAddresses) : SocketAddress :=
  s.toList.head (List.length_pos_iff.mp s.one_le_length)

/-- The list without flow information and scopes. -/
def unscoped (s : ServerAddresses) : ServerAddresses where
  toList := s.toList.map SocketAddress.unscoped
  one_le_length := by simpa using s.one_le_length
  length_le := by simpa using s.length_le

/-- The most bytes that a list takes on the wire. -/
def maxEncodedSize : Nat := 4 + Size.maxServers * SocketAddress.v6EntrySize

/-- The written form of any list. -/
def written (addresses : List SocketAddress) : Bytes :=
  Bytes.ofUInt32 (UInt32.ofNat addresses.length) ++ addresses.flatMap SocketAddress.entry

/-- The written form of a list of addresses, when its length is right. -/
def encodeList (addresses : List SocketAddress) : Except TokenError Bytes := do
  return written (← ofList addresses).toList

/-- The written form of server addresses. -/
def encode (s : ServerAddresses) : Bytes := written s.toList

/-- How many bytes the entries of addresses have. -/
def entriesSize : List SocketAddress → Nat
  | [] => 0
  | a :: rest => a.entrySize + entriesSize rest

/-- How many bytes the written form has. -/
def encodedSize (s : ServerAddresses) : Nat := 4 + entriesSize s.toList

/-- Reads as many entries as told. -/
def readEntries : (count : Nat) → Reader { entries : List SocketAddress // entries.length = count }
  | 0 => return ⟨[], rfl⟩
  | count + 1 => do
    let entry ← SocketAddress.readEntry
    let ⟨entries, h⟩ ← readEntries count
    return ⟨entry :: entries, by simp [h]⟩

/-- Reads a list off the front. -/
def read : Reader ServerAddresses := do
  let count := (← Reader.uint32).toNat
  if h : 1 ≤ count ∧ count ≤ Size.maxServers then
    let rest ← get
    if rest.length < count * SocketAddress.v4EntrySize then
      throw .truncated
    else
      let ⟨entries, hcount⟩ ← readEntries count
      return ⟨entries, by omega, by omega⟩
  else
    throw (.addressCount count)

/-- The list at the front of a byte string, and how many bytes it takes. -/
def decode (bytes : Bytes) : Except TokenError (ServerAddresses × Nat) := do
  let (addresses, rest) ← read bytes
  return (addresses, bytes.length - rest.length)

theorem length_flatMap_entry (addresses : List SocketAddress) :
    (addresses.flatMap SocketAddress.entry).length = entriesSize addresses := by
  induction addresses with
  | nil => rfl
  | cons a rest ih => simp [entriesSize, ih]

@[simp] theorem length_encode (s : ServerAddresses) : s.encode.length = s.encodedSize := by
  simp only [encode, written, encodedSize, Bytes.ofUInt32, List.length_append,
    Bytes.length_littleEndian, length_flatMap_entry]

end ServerAddresses

end ConnectTokens
