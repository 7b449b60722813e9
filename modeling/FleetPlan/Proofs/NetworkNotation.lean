import FleetPlan.Proofs.PrivateNetworks
import FleetPlan.Proofs.WrittenNumbers
import Mathlib.Algebra.Group.Nat.Defs

/-!
The notations of a network, and what the test for private ones says of each.

A network is written as an address, alone or with the number of bits that its addresses share; the
number stands in digits, as a netmask or as a host mask. Exactly these notations are read, and a
network is private if all addresses that share its bits are reserved. Addresses of the sixth version,
whose notations are not spelled out here, hold colons, and no text with a colon is private.
-/
namespace FleetPlan

open Numeral

namespace Ipv4Network

/-- The four parts of an address, the first one in front. -/
def octets (x : Nat) : List Nat :=
  [x / 16777216 % 256, x / 65536 % 256, x / 256 % 256, x % 256]

/-- An address as it is written. -/
def dotted (x : Nat) : List Char := ['.'].intercalate ((octets x).map (Nat.toDigits 10))

/-- All bits that the netmask does not have. -/
def hostMask (bits : Nat) : Nat := 2 ^ (32 - bits) - 1

/-- The notations for a number of shared bits. Zeros may stand in front of its digits. The mask
without bits and the one with all bits are netmasks, not host masks. -/
inductive WritesBits : List Char → Nat → Prop
  | digits {ds : List Char} (digits : ∀ c ∈ ds, isDigit c = true) (nonempty : ds ≠ [])
    (short : ds.length ≤ mostDigits) (small : natOf ds ≤ 32) : WritesBits ds (natOf ds)
  | netmask {bits : Nat} (small : bits ≤ 32) : WritesBits (dotted (netmask bits)) bits
  | hostMask {bits : Nat} (some : 0 < bits) (other : bits < 32) :
    WritesBits (dotted (hostMask bits)) bits

/-- The notations for an address and the number of bits that are shared; an address alone shares
all of its bits. The other bits of the address may be anything. -/
inductive Denotes : List Char → Nat → Nat → Prop
  | alone {x : Nat} (h : x < 2 ^ 32) : Denotes (dotted x) x 32
  | block {x bits : Nat} {cs : List Char} (h : x < 2 ^ 32) (length : WritesBits cs bits) :
    Denotes (dotted x ++ '/' :: cs) x bits

/-- The first bits of an address. -/
def lead (bits x : Nat) : Nat := x / 2 ^ (32 - bits)

/-- A test tells the networks that are reserved for private use from all others, and from what denotes
no network. -/
structure TellsPrivate (test : Option String → Bool) : Prop where
  denoted : ∀ {s : String} {x bits : Nat}, Denotes s.toList x bits →
    (test (some s) = true ↔ ∀ y, lead bits y = lead bits x → IsReserved y)
  same : ∀ {s t : String} {x y m n : Nat}, Denotes s.toList x m → Denotes t.toList y n →
    (∀ z, lead m z = lead m x ↔ lead n z = lead n y) → test (some s) = test (some t)
  within : ∀ {s t : String} {x y m n : Nat}, Denotes s.toList x m → Denotes t.toList y n →
    (∀ z, lead m z = lead m x → lead n z = lead n y) → test (some t) = true →
      test (some s) = true
  missing : test none = false
  empty : test (some "") = false
  colon : ∀ {s : String}, ':' ∈ s.toList → test (some s) = false
  other : ∀ {s : String}, (∀ x bits, ¬ Denotes s.toList x bits) → test (some s) = false

variable {cs : List Char} {x y n bits : Nat}

theorem splitAt_eq_splitOn (sep : Char) (cs : List Char) : splitAt sep cs = cs.splitOn sep := by
  induction cs with
  | nil => rw [List.splitOn_nil, splitAt]
  | cons c cs ih =>
      rw [List.splitOn_cons_eq_if_modifyHead, splitAt, ih]
      cases parts : cs.splitOn sep with
      | nil => exact absurd parts (List.splitOn_ne_nil sep cs)
      | cons p ps => simp

/-! An address is read from its own notation only. -/

theorem octet?_eq_some_iff : octet? cs = some n ↔ n ≤ 255 ∧ cs = Nat.toDigits 10 n := by
  constructor
  · intro h
    simp only [octet?, Bool.or_eq_true, List.isEmpty_iff, decide_eq_true_eq, List.any_eq_true,
      Bool.not_eq_true'] at h
    split at h
    case isTrue => cases h
    case isFalse form =>
      split at h
      case isTrue => cases h
      case isFalse zero =>
        have whole : IsWhole cs := by
          refine ⟨fun c hc => ?_, fun none => form (.inl (.inl none)), fun first => ?_⟩
          · cases hd : isDigit c with
            | true => rfl
            | false => exact absurd (.inr ⟨c, hc, hd⟩) form
          · match cs, first with
            | [_], rfl => rfl
            | _ :: _ :: _, first => exact absurd ⟨by simp, first⟩ zero
        split at h
        case isTrue small =>
          obtain rfl := Option.some.inj h
          exact ⟨small, (toDigits_natOf whole).symm⟩
        case isFalse => cases h
  · rintro ⟨small, rfl⟩
    have length : (Nat.toDigits 10 n).length ≤ 3 :=
      (Nat.length_toDigits_le_iff (by decide) (by decide)).mpr (by omega)
    have digits : ¬ ∃ c ∈ Nat.toDigits 10 n, isDigit c = false := fun ⟨c, hc, hd⟩ =>
      Bool.false_ne_true (hd.symm.trans (isDigit_of_mem_toDigits hc))
    have zero : ¬ (1 < (Nat.toDigits 10 n).length ∧ (Nat.toDigits 10 n).head? = some '0') :=
      fun ⟨long, first⟩ => by
        rw [(isWhole_toDigits n).noZero first] at long
        exact absurd long (by decide)
    simp [octet?, natOf_toDigits, small, zero, digits, length]

theorem not_mem_toDigits {c : Char} (h : isDigit c = false) (n : Nat) : c ∉ Nat.toDigits 10 n :=
  fun found => Bool.false_ne_true (h.symm.trans (isDigit_of_mem_toDigits found))

theorem splitOn_dotted (x : Nat) :
    (dotted x).splitOn '.' = (octets x).map (Nat.toDigits 10) := by
  refine List.splitOn_intercalate '.' ?_ (by simp [octets])
  exact List.forall_mem_map.mpr fun n _ => not_mem_toDigits rfl n

theorem not_mem_dotted {c : Char} (digit : isDigit c = false) (point : c ≠ '.') (x : Nat) :
    c ∉ dotted x := by
  simp [dotted, octets, List.intercalate_cons_cons, not_mem_toDigits digit, point]

theorem octets_address {a b c d : Nat} (ha : a ≤ 255) (hb : b ≤ 255) (hc : c ≤ 255)
    (hd : d ≤ 255) : octets (address a b c d) = [a, b, c, d] := by
  simp only [octets, address, List.cons.injEq, and_true]
  omega

theorem address?_eq_some_iff : address? cs = some x ↔ x < 2 ^ 32 ∧ cs = dotted x := by
  constructor
  · intro h
    have joined : ['.'].intercalate (cs.splitOn '.') = cs := List.intercalate_splitOn '.'
    rw [address?, splitAt_eq_splitOn] at h
    split at h
    case h_1 a b c d parts =>
      simp only [Option.bind_eq_bind, Option.bind_eq_some_iff, octet?_eq_some_iff,
        Option.pure_def, Option.some.injEq] at h
      obtain ⟨a, ⟨ha, rfl⟩, b, ⟨hb, rfl⟩, c, ⟨hc, rfl⟩, d, ⟨hd, rfl⟩, rfl⟩ := h
      refine ⟨by simp only [address]; omega, ?_⟩
      rw [dotted, octets_address ha hb hc hd, ← joined, parts]
      rfl
    case h_2 => cases h
  · rintro ⟨small, rfl⟩
    have read (k : Nat) : octet? (Nat.toDigits 10 (k % 256)) = some (k % 256) :=
      octet?_eq_some_iff.mpr ⟨by omega, rfl⟩
    have whole : address (x / 16777216 % 256) (x / 65536 % 256) (x / 256 % 256) (x % 256) = x := by
      simp only [address]
      omega
    rw [address?, splitAt_eq_splitOn, splitOn_dotted]
    simp only [octets, List.map_cons, List.map_nil, read, Option.bind_eq_bind, Option.bind_some,
      Option.pure_def, whole]

theorem address?_dotted (h : x < 2 ^ 32) : address? (dotted x) = some x :=
  address?_eq_some_iff.mpr ⟨h, rfl⟩

/-! A mask is read from its own notation only, and no mask is both a netmask and a host mask. -/

theorem netmask_add (bits : Nat) : netmask bits + 2 ^ (32 - bits) = 2 ^ 32 :=
  Nat.sub_add_cancel (Nat.pow_le_pow_right (by decide) (Nat.sub_le 32 bits))

theorem hostMask_add (bits : Nat) : hostMask bits + 1 = 2 ^ (32 - bits) :=
  Nat.sub_add_cancel Nat.one_le_two_pow

theorem netmask_lt (bits : Nat) : netmask bits < 2 ^ 32 := by
  have size := Nat.two_pow_pos (32 - bits)
  have sum := netmask_add bits
  omega

theorem hostMask_lt (bits : Nat) : hostMask bits < 2 ^ 32 := by
  have size : 2 ^ (32 - bits) ≤ 2 ^ 32 := Nat.pow_le_pow_right (by decide) (Nat.sub_le 32 bits)
  have sum := hostMask_add bits
  omega

theorem eq_of_two_pow_eq {m n : Nat} (hm : m ≤ 32) (hn : n ≤ 32)
    (h : 2 ^ (32 - m) = 2 ^ (32 - n)) : m = n := by
  have same := Nat.pow_right_injective (Nat.le_refl 2) h
  omega

theorem netmask_ne_hostMask {m n : Nat} (hm : m ≤ 32) (some : 0 < n) (other : n < 32) :
    netmask m ≠ hostMask n := by
  intro h
  have sum := netmask_add m
  have next := hostMask_add n
  have less : 2 ^ (32 - n) < 2 ^ 32 := Nat.pow_lt_pow_right (by decide) (by omega)
  have double {k : Nat} (hk : k < 32) : 2 ^ (32 - k) = 2 * 2 ^ (31 - k) := by
    rw [← Nat.pow_succ']
    congr 1
    omega
  have even := double other
  -- A host mask is odd; so is a netmask with all bits, and that one is too large.
  by_cases all : m = 32
  · subst all
    omega
  · have evenToo := double (Nat.lt_of_le_of_ne hm all)
    omega

theorem find?_range_eq_some_iff {p : Nat → Bool}
    (unique : ∀ m n, m ≤ 32 → n ≤ 32 → p m = true → p n = true → m = n) :
    (List.range 33).find? p = some bits ↔ bits ≤ 32 ∧ p bits = true := by
  rw [List.find?_range_eq_some, List.mem_range]
  constructor
  · exact fun ⟨found, small, _⟩ => ⟨by omega, found⟩
  · refine fun ⟨small, found⟩ => ⟨found, by omega, fun j hj => ?_⟩
    cases hp : p j with
    | false => rfl
    | true => exact absurd (unique j bits (by omega) small hp found) (by omega)

theorem bitsOfNetmask?_eq_some_iff {mask : Nat} :
    bitsOfNetmask? mask = some bits ↔ bits ≤ 32 ∧ mask = netmask bits := by
  rw [bitsOfNetmask?, find?_range_eq_some_iff, beq_iff_eq, eq_comm (a := mask)]
  intro m n hm hn h k
  have sums := (netmask_add m).trans (netmask_add n).symm
  rw [beq_iff_eq.mp h, beq_iff_eq.mp k] at sums
  exact eq_of_two_pow_eq hm hn (Nat.add_left_cancel sums)

theorem bitsOfHostMask?_eq_some_iff {mask : Nat} :
    bitsOfHostMask? mask = some bits ↔ bits ≤ 32 ∧ mask = hostMask bits := by
  have complement (k : Nat) :
      (netmask k + mask == Nat.pow 2 32 - 1) = true ↔ mask = hostMask k := by
    have sum := netmask_add k
    have next := hostMask_add k
    rw [beq_iff_eq, Nat.pow_eq]
    omega
  rw [bitsOfHostMask?, find?_range_eq_some_iff]
  · exact and_congr_right fun _ => complement bits
  · intro m n hm hn h k
    have same := ((complement m).mp h).symm.trans ((complement n).mp k)
    exact eq_of_two_pow_eq hm hn (by rw [← hostMask_add, ← hostMask_add, same])

theorem bits?_dotted (x : Nat) (h : x < 2 ^ 32) :
    bits? (dotted x) = (bitsOfNetmask? x).or (bitsOfHostMask? x) := by
  have point : (dotted x).all isDigit = false := by
    simp [dotted, octets, List.intercalate_cons_cons, show isDigit '.' = false from rfl]
  simp only [bits?, point, address?_dotted h, Bool.and_false, Bool.false_and,
    if_neg Bool.false_ne_true]
  cases bitsOfNetmask? x <;> rfl

theorem bits?_eq_some_iff : bits? cs = some bits ↔ WritesBits cs bits := by
  constructor
  · intro h
    rw [bits?] at h
    split at h
    case isTrue numeral =>
      simp only [Bool.and_eq_true, Bool.not_eq_true', List.isEmpty_eq_false_iff, List.all_eq_true,
        decide_eq_true_eq] at numeral
      obtain ⟨⟨⟨nonempty, digits⟩, short⟩, small⟩ := numeral
      obtain rfl := Option.some.inj h
      exact .digits digits nonempty short small
    case isFalse =>
      split at h
      case h_1 => cases h
      case h_2 mask read =>
        obtain ⟨_, rfl⟩ := address?_eq_some_iff.mp read
        split at h
        case h_1 netmask =>
          obtain rfl := Option.some.inj h
          obtain ⟨small, rfl⟩ := bitsOfNetmask?_eq_some_iff.mp netmask
          exact .netmask small
        case h_2 none =>
          obtain ⟨small, rfl⟩ := bitsOfHostMask?_eq_some_iff.mp h
          have other (k : Nat) (hk : k ≤ 32) : hostMask bits ≠ netmask k := fun same =>
            Option.some_ne_none k ((bitsOfNetmask?_eq_some_iff.mpr ⟨hk, same⟩).symm.trans none)
          refine .hostMask (Nat.pos_of_ne_zero fun zero => ?_) (Nat.lt_of_le_of_ne small fun all => ?_)
          · exact other 32 (by decide) (by rw [zero]; rfl)
          · exact other 0 (by decide) (by rw [all]; rfl)
  · intro h
    cases h with
    | digits digits nonempty short small =>
        rw [bits?, if_pos]
        simp [nonempty, short, small, List.all_eq_true.mpr digits]
    | netmask small =>
        rw [bits?_dotted _ (netmask_lt _), bitsOfNetmask?_eq_some_iff.mpr ⟨small, rfl⟩,
          Option.some_or]
    | hostMask some other =>
        have none : bitsOfNetmask? (hostMask bits) = none :=
          Option.eq_none_iff_forall_not_mem.mpr fun k found => by
            obtain ⟨small, same⟩ := bitsOfNetmask?_eq_some_iff.mp found
            exact netmask_ne_hostMask small some other same.symm
        rw [bits?_dotted _ (hostMask_lt bits), none, Option.none_or]
        exact bitsOfHostMask?_eq_some_iff.mpr ⟨Nat.le_of_lt other, rfl⟩

/-! A network is read from its own notations only. -/

theorem not_mem_of_writesBits {c : Char} (digit : isDigit c = false) (point : c ≠ '.')
    (h : WritesBits cs bits) : c ∉ cs := by
  cases h with
  | digits digits => exact fun found => Bool.false_ne_true (digit.symm.trans (digits c found))
  | netmask => exact not_mem_dotted digit point _
  | hostMask => exact not_mem_dotted digit point _

theorem parse?_of_denotes (h : Denotes cs x bits) : parse? cs = some (of x bits) := by
  have slash (y : Nat) : '/' ∉ dotted y := not_mem_dotted rfl (by decide) y
  rw [parse?, splitAt_eq_splitOn]
  cases h with
  | alone h => simp only [List.splitOn_eq_singleton (slash x), address?_dotted h, Option.map_some]
  | block h length =>
      rw [List.splitOn_append_cons_self_of_not_mem (slash x),
        List.splitOn_eq_singleton (not_mem_of_writesBits rfl (by decide) length)]
      simp only [address?_dotted h, bits?_eq_some_iff.mpr length, Option.bind_eq_bind,
        Option.bind_some, Option.pure_def]

theorem exists_denotes_of_parse? {n : Ipv4Network} (h : parse? cs = some n) :
    ∃ x bits, Denotes cs x bits := by
  have joined : ['/'].intercalate (cs.splitOn '/') = cs := List.intercalate_splitOn '/'
  rw [parse?, splitAt_eq_splitOn] at h
  split at h
  case h_1 a parts =>
    obtain ⟨x, read, _⟩ := Option.map_eq_some_iff.mp h
    obtain ⟨small, rfl⟩ := address?_eq_some_iff.mp read
    rw [parts, List.intercalate_singleton] at joined
    exact ⟨x, 32, joined ▸ .alone small⟩
  case h_2 a m parts =>
    simp only [Option.bind_eq_bind, Option.bind_eq_some_iff] at h
    obtain ⟨x, read, bits, length, _⟩ := h
    obtain ⟨small, rfl⟩ := address?_eq_some_iff.mp read
    rw [parts, List.intercalate_cons_cons, List.intercalate_singleton, List.append_assoc,
      List.singleton_append] at joined
    exact ⟨x, bits, joined ▸ .block small (bits?_eq_some_iff.mp length)⟩
  case h_3 => cases h

theorem not_mem_of_denotes {c : Char} (digit : isDigit c = false) (point : c ≠ '.')
    (slash : c ≠ '/') (h : Denotes cs x bits) : c ∉ cs := by
  cases h with
  | alone => exact not_mem_dotted digit point x
  | block _ length =>
      simp [not_mem_dotted digit point x, slash, not_mem_of_writesBits digit point length]

/-! What the test says is read off the addresses of the network. -/

theorem contains_of (x y bits : Nat) : (of x bits).Contains y ↔ lead bits y = lead bits x := by
  have size : 0 < 2 ^ (32 - bits) := Nat.two_pow_pos _
  rw [lead, lead, Nat.div_eq_iff size]
  show x / 2 ^ (32 - bits) * 2 ^ (32 - bits) ≤ y ∧
    y < x / 2 ^ (32 - bits) * 2 ^ (32 - bits) + 2 ^ (32 - bits) ↔ _
  omega

theorem isPrivateCidr_of_denotes {s : String} (h : Denotes s.toList x bits) :
    isPrivateCidr (some s) = true ↔ ∀ y, lead bits y = lead bits x → IsReserved y := by
  have test : isPrivateCidr (some s) = (of x bits).isPrivate := by
    rw [isPrivateCidr, parse?_of_denotes h, Option.map_some, Option.getD_some]
  simp only [test, isPrivate_iff, contains_of]

theorem isPrivateCidr_of_not_denotes {s : String} (h : ∀ x bits, ¬ Denotes s.toList x bits) :
    isPrivateCidr (some s) = false := by
  cases read : parse? s.toList with
  | none => rw [isPrivateCidr, read, Option.map_none, Option.getD_none]
  | some n =>
      obtain ⟨x, bits, denotes⟩ := exists_denotes_of_parse? read
      exact absurd denotes (h x bits)

/-- The test for private blocks is right about every notation of every network, and about what is
no such notation. -/
theorem tellsPrivate_isPrivateCidr : TellsPrivate isPrivateCidr where
  denoted := isPrivateCidr_of_denotes
  same hs ht h := by
    rw [Bool.eq_iff_iff, isPrivateCidr_of_denotes hs, isPrivateCidr_of_denotes ht]
    exact forall_congr' fun z => imp_congr_left (h z)
  within hs ht h := by
    rw [isPrivateCidr_of_denotes hs, isPrivateCidr_of_denotes ht]
    exact fun reserved z hz => reserved z (h z hz)
  missing := rfl
  empty := rfl
  colon h := isPrivateCidr_of_not_denotes fun _ _ denotes =>
    not_mem_of_denotes rfl (by decide) (by decide) denotes h
  other := isPrivateCidr_of_not_denotes

-- The second block is twelve bits long; with eleven of them its other half is not reserved.
example : isPrivateCidr (some "172.20.1.9/0.15.255.255") = true := by decide +kernel
example : isPrivateCidr (some "172.16.0.0/11") = false := by decide +kernel

end Ipv4Network

end FleetPlan
