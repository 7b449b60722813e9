import FleetPlan.Json.Printer
import FleetPlan.Json.Token

/-!
Texts that are written and read again.

Every character is written as one piece, or as two where it lies beyond the first plane; the scanner
finds these pieces again, and they denote the character. Written characters are printable.
-/
namespace FleetPlan

namespace Text

/-- The last digit comes off a padded number. -/
theorem hex_succ (width n : Nat) :
    hex (width + 2) n = hex (width + 1) (n / 16) ++ [Nat.digitChar (n % 16)] := by
  rcases Nat.lt_or_ge n 16 with hn | hn
  · have padded : List.replicate (width + 1) '0' = List.replicate width '0' ++ ['0'] :=
      List.replicate_succ'
    rw [hex, hex, Nat.toDigits_of_lt_base hn, Nat.div_eq_of_lt hn, Nat.mod_eq_of_lt hn,
      Nat.toDigits_zero]
    simp [padded]
  · rw [hex, hex, Nat.toDigits_of_base_le (by decide) hn]
    simp [List.append_assoc]

theorem hex_one {n : Nat} (h : n < 16) : hex 1 n = [Nat.digitChar n] := by
  rw [hex, Nat.toDigits_of_lt_base h]
  rfl

end Text

namespace Json

theorem hexValue_digitChar {k : Nat} (h : k < 16) : hexValue (Nat.digitChar k) = some k := by
  have all : ∀ k, k < 16 → hexValue (Nat.digitChar k) = some k := by decide
  exact all k h

theorem unitOf_digitChars {a b c d : Nat} (ha : a < 16) (hb : b < 16) (hc : c < 16) (hd : d < 16) :
    unitOf (Nat.digitChar a) (Nat.digitChar b) (Nat.digitChar c) (Nat.digitChar d) =
      some (((a * 16 + b) * 16 + c) * 16 + d) := by
  simp [unitOf, hexValue_digitChar, *]

/-- What is scanned behind pieces that stand in front. -/
def behind (front : List Piece) (scanned : Option (List Piece × List Char)) :
    Option (List Piece × List Char) :=
  scanned.map fun p => (front ++ p.1, p.2)

theorem behind_append (front back : List Piece) (scanned : Option (List Piece × List Char)) :
    behind (front ++ back) scanned = behind front (behind back scanned) := by
  cases scanned <;> simp [behind]

theorem scanPieces_unitEscape {n : Nat} (h : n < 0x10000) (cs : List Char) :
    scanPieces (unitEscape n ++ cs) = behind [.unit n] (scanPieces cs) := by
  have digits : unitOf (Nat.digitChar (n / 16 / 16 / 16)) (Nat.digitChar (n / 16 / 16 % 16))
      (Nat.digitChar (n / 16 % 16)) (Nat.digitChar (n % 16)) = some n := by
    rw [unitOf_digitChars] <;> grind
  rw [unitEscape, Text.hex_succ 2, Text.hex_succ 1, Text.hex_succ 0, Text.hex_one (by omega)]
  simp only [List.cons_append, List.nil_append]
  rw [scanPieces.eq_4 _ _ _ _ _ _ _ rfl rfl]
  simp only [Glyph.shown_char, digits]
  rfl

/-- The units of a character beyond the first plane. -/
def highUnit (n : Nat) : Nat := 0xD800 + (n - 0x10000) / 0x400

def lowUnit (n : Nat) : Nat := 0xDC00 + (n - 0x10000) % 0x400

/-- The pieces that a character is written as. -/
def piecesOf (c : Char) : List Piece :=
  if c ∈ ['"', '\\', '\n', '\r', '\t', '\x0c', '\x08'] ∨ 0x20 ≤ c.toNat ∧ c.toNat ≤ 0x7E then
    [.char c]
  else if c.toNat < 0x10000 then [.unit c.toNat]
  else [.unit (highUnit c.toNat), .unit (lowUnit c.toNat)]

theorem toNat_lt (c : Char) : c.toNat < 0xD800 ∨ 0xDFFF < c.toNat ∧ c.toNat < 0x110000 :=
  c.valid

/-- A backslash and one character more. -/
theorem scanPieces_shortEscape {e c : Char} (he : e ≠ 'u') (h : shortEscape e = some c)
    (cs : List Char) : scanPieces ('\\' :: e :: cs) = behind [.char c] (scanPieces cs) := by
  rw [scanPieces.eq_5 _ _ _ rfl (fun _ _ _ _ _ hu _ => he hu), Glyph.shown_char, h]
  rfl

theorem scanPieces_plain {c : Char} (h : 0x20 ≤ c.toNat) (hq : c ≠ '"') (hb : c ≠ '\\')
    (cs : List Char) : scanPieces (c :: cs) = behind [.char c] (scanPieces cs) := by
  rw [scanPieces.eq_6 _ _ hq (fun hc _ => hb hc) (fun _ _ hc _ => hb hc),
    Glyph.shown_char, if_neg (Nat.not_lt.2 h)]
  rfl

theorem scanPieces_escapeChar (c : Char) (cs : List Char) :
    scanPieces (escapeChar c ++ cs) = behind (piecesOf c) (scanPieces cs) := by
  have valid := toNat_lt c
  by_cases hs : c ∈ ['"', '\\', '\n', '\r', '\t', '\x0c', '\x08']
  · have pieces : piecesOf c = [.char c] := by simp [piecesOf, hs]
    rw [pieces]
    simp only [List.mem_cons, List.not_mem_nil, or_false] at hs
    rcases hs with rfl | rfl | rfl | rfl | rfl | rfl | rfl <;>
      exact scanPieces_shortEscape (by decide) rfl cs
  · have plain : escapeChar c = if 0x20 ≤ c.toNat ∧ c.toNat ≤ 0x7E then [c]
        else if c.toNat < 0x10000 then unitEscape c.toNat
        else unitEscape (highUnit c.toNat) ++ unitEscape (lowUnit c.toNat) := by
      simp only [List.mem_cons, List.not_mem_nil, or_false, not_or] at hs
      simp [escapeChar, highUnit, lowUnit, hs]
    simp only [piecesOf, hs, false_or, plain]
    split
    · refine scanPieces_plain (by omega) ?_ ?_ cs <;> rintro rfl <;> simp at hs
    · split
      · exact scanPieces_unitEscape (by omega) cs
      · rw [List.append_assoc, scanPieces_unitEscape (by unfold highUnit; omega),
          scanPieces_unitEscape (by unfold lowUnit; omega), ← behind_append]
        rfl

theorem isHighUnit_iff (n : Nat) : isHighUnit n = true ↔ 0xD800 ≤ n ∧ n < 0xDC00 := by
  simp [isHighUnit]

theorem isLowUnit_iff (n : Nat) : isLowUnit n = true ↔ 0xDC00 ≤ n ∧ n < 0xE000 := by
  simp [isLowUnit]

theorem points_unit {n : Nat} (h : ¬isHighUnit n = true) (ps : List Piece) :
    points (.unit n :: ps) = unitPoint n :: points ps := by
  match ps with
  | [] | .point _ :: _ => rfl
  | .unit m :: _ => rw [points, if_neg fun pair => h pair.1]

theorem points_pair {m n : Nat} (hm : isHighUnit m = true) (hn : isLowUnit n = true)
    (ps : List Piece) :
    points (.unit m :: .unit n :: ps) = pairPoint m n :: points ps := by
  rw [points, if_pos ⟨hm, hn⟩]

theorem unitPoint_toNat (c : Char) : unitPoint c.toNat = .ofChar c :=
  Fin.ext (Nat.mod_eq_of_lt (CodePoint.toNat_lt_size c))

theorem pairPoint_units {c : Char} (h : 0x10000 ≤ c.toNat) :
    pairPoint (highUnit c.toNat) (lowUnit c.toNat) = .ofChar c := by
  have joined : 0x10000 + (highUnit c.toNat - 0xD800) * 0x400 + (lowUnit c.toNat - 0xDC00) =
      c.toNat := by
    unfold highUnit lowUnit
    omega
  rw [pairPoint, joined]
  exact unitPoint_toNat c

/-- The pieces of a character denote it, whatever pieces follow. -/
theorem points_piecesOf (c : Char) (ps : List Piece) :
    points (piecesOf c ++ ps) = .ofChar c :: points ps := by
  have valid := toNat_lt c
  unfold piecesOf
  split
  · rfl
  · split
    · have notHigh := mt (isHighUnit_iff c.toNat).1 (by omega)
      rw [List.singleton_append, points_unit notHigh, unitPoint_toNat]
    · have high := (isHighUnit_iff (highUnit c.toNat)).2 (by unfold highUnit; omega)
      have low := (isLowUnit_iff (lowUnit c.toNat)).2 (by unfold lowUnit; omega)
      rw [List.cons_append, List.singleton_append, points_pair high low,
        pairPoint_units (by omega)]

theorem scanPieces_flatMap (cs rest : List Char) :
    scanPieces (cs.flatMap escapeChar ++ '"' :: rest) = some (cs.flatMap piecesOf, rest) := by
  induction cs with
  | nil => rfl
  | cons c cs ih =>
      rw [List.flatMap_cons, List.append_assoc, scanPieces_escapeChar, ih]
      rfl

theorem points_flatMap (cs : List Char) : points (cs.flatMap piecesOf) = cs.map .ofChar := by
  induction cs with
  | nil => rfl
  | cons c cs ih => rw [List.flatMap_cons, points_piecesOf, ih, List.map_cons]

/-- A written text is one token, whatever follows. -/
theorem scanToken_writeText (s : String) (rest : List Char) :
    scanToken (writeText s ++ rest) = some (.text s, rest) := by
  have pieces := scanPieces_flatMap s.toList rest
  have text : Texts.ofPoints? (s.toList.map .ofChar) = some s := Texts.ofPoints?_toList s
  simp [writeText, scanToken, scanText, pieces, points_flatMap, text]

end Json
end FleetPlan
