/-
**Internet addresses and networks.**

An address is 32 or 128 bits. A network is an address, whose host bits may be anything, and the
number of leading bits that all its members share with it. Given with a mask instead, it is found by
comparing how many ones the mask begins with to how many it has.
-/

import X509.Octets

namespace X509

/-- An address of version 4 or 6. -/
inductive IpAddress where
  | v4 (bits : BitVec 32)
  | v6 (bits : BitVec 128)
deriving DecidableEq, Repr, Hashable

/-- The octets of an address. -/
def IpAddress.toOctets : IpAddress → Octets
  | .v4 bits => Octets.ofNatFixed 4 bits.toNat
  | .v6 bits => Octets.ofNatFixed 16 bits.toNat

/-- The addresses of `width` bits that share their first `ones` bits with one of them. -/
structure Network (width : Nat) where
  address : BitVec width
  ones : Nat
  ones_le : ones ≤ width
deriving DecidableEq, Repr

instance {width : Nat} : Hashable (Network width) where
  hash network := mixHash (hash network.address) (hash network.ones)

namespace Network

variable {width : Nat}

/-- The bits that the members share. -/
def maskOf (width ones : Nat) : BitVec width :=
  BitVec.allOnes width <<< (width - ones)

/-- The bits that the members of a network share. -/
def mask (network : Network width) : BitVec width :=
  maskOf width network.ones

/-- The lowest member. -/
def first (network : Network width) : BitVec width :=
  network.address &&& network.mask

/-- The highest member. -/
def last (network : Network width) : BitVec width :=
  network.address ||| ~~~network.mask

/-- The same network, its host bits cleared. -/
def truncate (network : Network width) : Network width :=
  { network with address := network.first }

/-- Whether an address is a member. -/
def contains (network : Network width) (address : BitVec width) : Bool :=
  network.first ≤ address && address ≤ network.last

/-- Whether all members of another network are members. -/
def containsNetwork (network other : Network width) : Bool :=
  network.first ≤ other.first && other.last ≤ network.last

/-- How many ones stand before the first zero. -/
def leadingOnes (bits : BitVec width) : Nat :=
  (~~~bits).clz.toNat

/-- How many ones there are. -/
def countOnes (bits : BitVec width) : Nat :=
  bits.cpop.toNat

/-- The number of ones of a mask with so many at its start and so many in all, if these are the same
and an octet holds the number. -/
def contiguous? (leading count : Nat) : Option Nat :=
  if leading = count ∧ count < 256 then some count else none

/-- The addresses that share this many bits with an address, if it has as many. -/
def ofOnes? (address : BitVec width) (ones : Nat) : Option (Network width) :=
  if bound : ones ≤ width then some { address, ones, ones_le := bound } else none

/-- The network with this mask, if the mask is ones followed by zeros. -/
def ofMask? (address mask : BitVec width) : Option (Network width) :=
  (contiguous? (leadingOnes mask) (countOnes mask)).bind (ofOnes? address)

end Network

/-- A network of version 4 or 6. -/
inductive IpNetwork where
  | v4 (network : Network 32)
  | v6 (network : Network 128)
deriving DecidableEq, Repr, Hashable

namespace IpNetwork

/-- The address that the network was given with. -/
def address : IpNetwork → IpAddress
  | .v4 network => .v4 network.address
  | .v6 network => .v6 network.address

/-- The mask as an address. -/
def mask : IpNetwork → IpAddress
  | .v4 network => .v4 network.mask
  | .v6 network => .v6 network.mask

/-- The number of leading bits that all members share. -/
def ones : IpNetwork → Nat
  | .v4 network => network.ones
  | .v6 network => network.ones

/-- The same network, its host bits cleared. -/
def truncate : IpNetwork → IpNetwork
  | .v4 network => .v4 network.truncate
  | .v6 network => .v6 network.truncate

/-- Whether an address is a member; one of the other version is not. -/
def contains : IpNetwork → IpAddress → Bool
  | .v4 network, .v4 address => network.contains address
  | .v6 network, .v6 address => network.contains address
  | _, _ => false

/-- Whether all members of another network are members. -/
def containsNetwork : IpNetwork → IpNetwork → Bool
  | .v4 network, .v4 other => network.containsNetwork other
  | .v6 network, .v6 other => network.containsNetwork other
  | _, _ => false

end IpNetwork

end X509
