/-!
Code points, and the kinds of texts that are made of them.

Some code points are no characters: two of them stand for one character in a text that is cut into
units of sixteen bits. A text of characters holds none of them; a list of code points may.

What is read as data is a row of characters or a row of code points, and the texts in it are of
either kind.
-/
namespace FleetPlan

abbrev CodePoint := Fin 0x110000

/-- A text of any code points. -/
abbrev CodePoints := List CodePoint

/-- Texts stand in the order of the first code points in which they differ. -/
instance : LE CodePoints := List.instLE

instance : DecidableLE CodePoints := fun a b => List.decidableLE a b

namespace CodePoint

theorem toNat_lt_size (c : Char) : c.toNat < 0x110000 := by
  rcases c.valid with below | ⟨_, below⟩
  · exact Nat.lt_trans below (by decide)
  · exact below

def ofChar (c : Char) : CodePoint := ⟨c.toNat, toNat_lt_size c⟩

def char? (p : CodePoint) : Option Char :=
  if p.val.isValidChar then some (Char.ofNat p.val) else none

theorem char?_ofChar (c : Char) : (ofChar c).char? = some c := by
  have valid : c.toNat.isValidChar := c.valid
  rw [char?, ofChar, if_pos valid, Char.ofNat_toNat]

/-- Characters, if all of these code points are some. -/
def chars? (ps : CodePoints) : Option (List Char) := ps.mapM char?

theorem chars?_map_ofChar (cs : List Char) : chars? (cs.map ofChar) = some cs := by
  induction cs with
  | nil => rfl
  | cons c cs ih =>
      rw [chars?] at ih ⊢
      simp [List.mapM_cons, char?_ofChar, ih]

end CodePoint

/-- What a text to be read is a row of. -/
class Glyph (σ : Type) where
  /-- The character that a grammar sees. -/
  shown : σ → Char
  point : σ → CodePoint

instance : Glyph Char where
  shown c := c
  point := .ofChar

@[simp] theorem Glyph.shown_char (c : Char) : shown c = c := rfl

@[simp] theorem Glyph.map_shown (cs : List Char) : cs.map shown = cs := List.map_id cs

/-- Half of a character has no part in any grammar, as the character that replaces it has none. -/
instance : Glyph CodePoint where
  shown p := p.char?.getD '\ufffd'
  point p := p

/-- A kind of texts, with the ordinary texts among them, and the text that code points make if it can
hold them all. -/
class Texts (τ : Type) where
  ofString : String → τ
  ofPoints? : CodePoints → Option τ
  ofPoints?_toList (s : String) : ofPoints? (s.toList.map CodePoint.ofChar) = some (ofString s)

@[default_instance] instance : Texts String where
  ofString s := s
  ofPoints? ps := (CodePoint.chars? ps).map String.ofList
  ofPoints?_toList s := by rw [CodePoint.chars?_map_ofChar, Option.map_some, String.ofList_toList]

instance : Texts CodePoints where
  ofString s := s.toList.map CodePoint.ofChar
  ofPoints? := some
  ofPoints?_toList _ := rfl

@[simp] theorem Texts.ofString_string (s : String) : (ofString s : String) = s := rfl

end FleetPlan
