import FleetPlan.Text.Base64

/-!
The round trip of base 64.

Every list of bytes is decoded from its encoding, and so is every text from that of its bytes. Which
other texts can be decoded is not said.
-/
namespace FleetPlan.Text.Base64

theorem value?_symbol {n : Nat} (h : n < 64) : value? (symbol n) = some n := by
  have all : ∀ k, k < 64 → value? (symbol k) = some k := by decide +kernel
  exact all n h

theorem symbol_ne_pad {n : Nat} (h : n < 64) : symbol n ≠ '=' := by
  intro pad
  have found := value?_symbol h
  rw [pad] at found
  cases found

theorem ofNat_eq {n : Nat} {a : UInt8} (h : n = a.toNat) : UInt8.ofNat n = a := by
  rw [h, UInt8.ofNat_toNat]

section Groups

variable {p q r s : Nat}

theorem decodeLast?_one (hp : p < 64) (hq : q < 64) (hzero : q % 16 = 0) :
    decodeLast? (symbol p) (symbol q) '=' '=' = some [UInt8.ofNat (p * 4 + q / 16)] := by
  simp only [decodeLast?, value?_symbol hp, value?_symbol hq, Option.bind_eq_bind,
    Option.bind_some, hzero, if_true]

theorem decodeLast?_two (hp : p < 64) (hq : q < 64) (hr : r < 64) (hzero : r % 4 = 0) :
    decodeLast? (symbol p) (symbol q) (symbol r) '=' =
      some [UInt8.ofNat (p * 4 + q / 16), UInt8.ofNat (q % 16 * 16 + r / 4)] := by
  rw [decodeLast?]
  · simp only [value?_symbol hp, value?_symbol hq, value?_symbol hr, Option.bind_eq_bind,
      Option.bind_some, hzero, if_true]
  · exact symbol_ne_pad hr

/-- A group without padding may end an encoding or not. -/
theorem decode?_group (hp : p < 64) (hq : q < 64) (hr : r < 64) (hs : s < 64) {rest : List Char}
    {bytes : List UInt8} (h : decode? rest = some bytes) :
    decode? (symbol p :: symbol q :: symbol r :: symbol s :: rest) =
      some (UInt8.ofNat (p * 4 + q / 16) :: UInt8.ofNat (q % 16 * 16 + r / 4) ::
        UInt8.ofNat (r % 4 * 64 + s) :: bytes) := by
  cases rest with
  | nil =>
      cases h
      rw [decode?, decodeLast?]
      · simp only [value?_symbol hp, value?_symbol hq, value?_symbol hr, value?_symbol hs,
          Option.bind_eq_bind, Option.bind_some]
      · exact symbol_ne_pad hs
      · exact fun _ => symbol_ne_pad hs
  | cons c cs =>
      rw [decode?, h]
      · simp only [value?_symbol hp, value?_symbol hq, value?_symbol hr, value?_symbol hs,
          Option.bind_eq_bind, Option.bind_some]
      · exact List.cons_ne_nil c cs

end Groups

theorem decode?_encode (bytes : List UInt8) : decode? (encode bytes) = some bytes := by
  induction bytes using encode.induct with
  | case1 => rfl
  | case2 a =>
      have ha := a.toNat_lt
      rw [encode, decode?, decodeLast?_one (by omega) (by omega) (by omega),
        ofNat_eq (a := a) (by omega)]
  | case3 a b =>
      have ha := a.toNat_lt
      have hb := b.toNat_lt
      rw [encode, decode?, decodeLast?_two (by omega) (by omega) (by omega) (by omega),
        ofNat_eq (a := a) (by omega), ofNat_eq (a := b) (by omega)]
  | case4 a b c rest ih =>
      have ha := a.toNat_lt
      have hb := b.toNat_lt
      have hc := c.toNat_lt
      rw [encode, decode?_group (by omega) (by omega) (by omega) (by omega) ih,
        ofNat_eq (a := a) (by omega), ofNat_eq (a := b) (by omega), ofNat_eq (a := c) (by omega)]

theorem decodeText?_encodeText (s : String) : decodeText? (encodeText s) = some s := by
  rw [decodeText?, encodeText, String.toList_ofList, decode?_encode]
  show String.fromUTF8? s.toByteArray = some s
  exact dif_pos s.isValidUTF8

end FleetPlan.Text.Base64
