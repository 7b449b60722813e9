import FleetPlan.Network.Ipv4

/-!
What it means for a network to be private: every address of it is reserved for private use.

The three private blocks are apart from each other, so a network whose addresses are all in some block
lies in one block. Which networks texts denote is left to their reader.
-/
namespace FleetPlan

namespace Ipv4Network

/-- The addresses reserved for private use. -/
def IsReserved (a : Nat) : Prop :=
  address 10 0 0 0 ≤ a ∧ a ≤ address 10 255 255 255 ∨
    address 172 16 0 0 ≤ a ∧ a ≤ address 172 31 255 255 ∨
    address 192 168 0 0 ≤ a ∧ a ≤ address 192 168 255 255

theorem size_pos (n : Ipv4Network) : 0 < n.size := Nat.two_pow_pos _

theorem isPrivate_eq (n : Ipv4Network) :
    n.isPrivate = true ↔
      address 10 0 0 0 ≤ n.base ∧ n.base + n.size ≤ address 11 0 0 0 ∨
        address 172 16 0 0 ≤ n.base ∧ n.base + n.size ≤ address 172 32 0 0 ∨
        address 192 168 0 0 ≤ n.base ∧ n.base + n.size ≤ address 192 169 0 0 := by
  simp only [isPrivate, privateBlocks, isWithin, List.any_cons, List.any_nil, Bool.or_false,
    Bool.or_eq_true, Bool.and_eq_true, decide_eq_true_eq]
  rfl

theorem isPrivate_iff (n : Ipv4Network) :
    n.isPrivate = true ↔ ∀ a, n.Contains a → IsReserved a := by
  have nonempty := n.size_pos
  rw [isPrivate_eq]
  simp only [IsReserved, Contains, address]
  constructor
  · intro within a ha
    omega
  · intro reserved
    -- The ends of the network are in blocks; behind each block stands an address that is in none.
    have first := reserved n.base
    have last := reserved (n.base + n.size - 1)
    have behindTen := reserved (address 11 0 0 0)
    have behindTwelve := reserved (address 172 32 0 0)
    have behindSixteen := reserved (address 192 169 0 0)
    simp only [address] at behindTen behindTwelve behindSixteen
    omega

end Ipv4Network

/-- A text that denotes a network of IPv4 addresses which are all reserved. What denotes no such
network, a missing text included, does not. -/
def DenotesPrivate (block : Option String) : Prop :=
  ∃ s, block = some s ∧ ∃ n, Ipv4Network.parse? s.toList = some n ∧
    ∀ a, n.Contains a → Ipv4Network.IsReserved a

theorem isPrivateCidr_iff (block : Option String) :
    isPrivateCidr block = true ↔ DenotesPrivate block := by
  cases block with
  | none => exact iff_of_false Bool.false_ne_true fun ⟨s, hs, _⟩ => nomatch hs
  | some s =>
      cases hn : Ipv4Network.parse? s.toList with
      | none => simp [isPrivateCidr, DenotesPrivate, hn]
      | some n => simp [isPrivateCidr, DenotesPrivate, hn, Ipv4Network.isPrivate_iff]

instance (block : Option String) : Decidable (DenotesPrivate block) :=
  decidable_of_iff _ (isPrivateCidr_iff block)

end FleetPlan
