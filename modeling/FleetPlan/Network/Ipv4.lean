import FleetPlan.Number.Numeral

/-!
IPv4 networks and the address blocks reserved for private use.

A network text is an address with an optional prefix length, netmask or host mask; a network is
private when it lies within one of the three private blocks.
-/
namespace FleetPlan

/-- The addresses that share the first `bits` bits of `base`. -/
structure Ipv4Network where
  base : Nat
  bits : Nat
  deriving DecidableEq, Repr

namespace Ipv4Network

def size (n : Ipv4Network) : Nat := Nat.pow 2 (32 - n.bits)

def of (address bits : Nat) : Ipv4Network :=
  ⟨address / Nat.pow 2 (32 - bits) * Nat.pow 2 (32 - bits), bits⟩

def Contains (n : Ipv4Network) (address : Nat) : Prop :=
  n.base ≤ address ∧ address < n.base + n.size

instance (n : Ipv4Network) (address : Nat) : Decidable (n.Contains address) :=
  inferInstanceAs (Decidable (_ ∧ _))

def isWithin (n m : Ipv4Network) : Bool :=
  m.base ≤ n.base && n.base + n.size ≤ m.base + m.size

def address (a b c d : Nat) : Nat := ((a * 256 + b) * 256 + c) * 256 + d

/-- `10.0.0.0/8`, `172.16.0.0/12` and `192.168.0.0/16`. -/
def privateBlocks : List Ipv4Network :=
  [of (address 10 0 0 0) 8, of (address 172 16 0 0) 12, of (address 192 168 0 0) 16]

def isPrivate (n : Ipv4Network) : Bool := privateBlocks.any n.isWithin

/-- The parts of a text between the occurrences of a separator. -/
def splitAt (sep : Char) : List Char → List (List Char)
  | [] => [[]]
  | c :: cs =>
    if c = sep then [] :: splitAt sep cs
    else
      match splitAt sep cs with
      | [] => [[c]]
      | p :: ps => (c :: p) :: ps

/-- One to three digits without a superfluous zero, at most 255. -/
def octet? (cs : List Char) : Option Nat :=
  if cs.isEmpty || 3 < cs.length || cs.any (!Numeral.isDigit ·) then none
  else if 1 < cs.length ∧ cs.head? = some '0' then none
  else if Numeral.natOf cs ≤ 255 then some (Numeral.natOf cs)
  else none

def address? (cs : List Char) : Option Nat :=
  match splitAt '.' cs with
  | [a, b, c, d] => do
    let a ← octet? a
    let b ← octet? b
    let c ← octet? c
    let d ← octet? d
    return address a b c d
  | _ => none

def netmask (bits : Nat) : Nat := Nat.pow 2 32 - Nat.pow 2 (32 - bits)

def bitsOfNetmask? (mask : Nat) : Option Nat :=
  (List.range 33).find? fun bits => netmask bits == mask

/-- The prefix length whose netmask has exactly the other bits. -/
def bitsOfHostMask? (mask : Nat) : Option Nat :=
  (List.range 33).find? fun bits => netmask bits + mask == Nat.pow 2 32 - 1

/-- A prefix length in digits, of which a numeral has not too many; failing that, a netmask, and
failing that, a host mask. -/
def bits? (cs : List Char) : Option Nat :=
  if !cs.isEmpty && cs.all Numeral.isDigit && cs.length ≤ Numeral.mostDigits &&
      Numeral.natOf cs ≤ 32 then
    some (Numeral.natOf cs)
  else
    match address? cs with
    | none => none
    | some mask =>
      match bitsOfNetmask? mask with
      | some bits => some bits
      | none => bitsOfHostMask? mask

/-- The network that a text denotes; an address alone is a network of one. -/
def parse? (cs : List Char) : Option Ipv4Network :=
  match splitAt '/' cs with
  | [a] => (address? a).map (of · 32)
  | [a, m] => do
    let a ← address? a
    let bits ← bits? m
    return of a bits
  | _ => none

end Ipv4Network

/-- A block of addresses is private when its text denotes a private IPv4 network. -/
def isPrivateCidr : Option String → Bool
  | none => false
  | some s => ((Ipv4Network.parse? s.toList).map (·.isPrivate)).getD false

end FleetPlan
