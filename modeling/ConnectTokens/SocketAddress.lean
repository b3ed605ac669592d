import ConnectTokens.Bytes

/-!
# Socket addresses

The address of a server: an IPv4 or IPv6 host with the number of a service on
it.  IPv6 addresses also carry flow information and a scope, which take part in
equality but do not travel in tokens.

## Main Definitions

* `SocketAddress`: the two kinds of address.
* `SocketAddress.unscoped`: an address without what does not travel.

## Design Notes

Hosts are kept as octets in network order, which is how tokens carry them; the
groups of an IPv6 text are pairs of octets.  An IPv4 address mapped into IPv6
stays an IPv6 address.
-/

namespace ConnectTokens

/-- The address of a server. -/
inductive SocketAddress where
  /-- An IPv4 host. -/
  | v4 (octets : Block 4) (portNumber : UInt16)
  /-- An IPv6 host. -/
  | v6 (octets : Block 16) (portNumber : UInt16) (flow scope : UInt32)
deriving DecidableEq

namespace SocketAddress

/-- The number of the service on the host. -/
def portNumber : SocketAddress → UInt16
  | v4 _ portNumber | v6 _ portNumber _ _ => portNumber

/-- The host, as octets in network order. -/
def octets : SocketAddress → Bytes
  | v4 octets _ => octets.toList
  | v6 octets _ _ _ => octets.toList

/-- The address without flow information and scope. -/
def unscoped : SocketAddress → SocketAddress
  | v4 octets portNumber => v4 octets portNumber
  | v6 octets portNumber _ _ => v6 octets portNumber 0 0

@[simp] theorem unscoped_v4 (o : Block 4) (p : UInt16) : (v4 o p).unscoped = v4 o p := rfl

@[simp] theorem unscoped_v6 (o : Block 16) (p : UInt16) (f s : UInt32) :
    (v6 o p f s).unscoped = v6 o p 0 0 := rfl

@[simp] theorem unscoped_unscoped (a : SocketAddress) : a.unscoped.unscoped = a.unscoped := by
  cases a <;> rfl

end SocketAddress

end ConnectTokens
