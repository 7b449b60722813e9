import FleetPlan.Proofs.JsonRoundTrip
import FleetPlan.Proofs.SpelledNumbers
import Mathlib.Data.List.Chain

/-!
Texts and the values that they spell.

A text is a row of lexemes with blanks around them, and it spells the value that its tokens spell.
Such texts are read, and no others are. A text that needs half of a character spells no value whose
texts are ordinary ones; over code points it does.
-/
namespace FleetPlan.Json

section Pieces

/-- The characters between two quotes, and the pieces that they stand for. -/
inductive SpellsPieces : List Char → List Piece → Prop
  | nil : SpellsPieces [] []
  | plain {c : Char} {cs : List Char} {ps : List Piece} (hc : 0x20 ≤ c.toNat) (hq : c ≠ '"')
    (hb : c ≠ '\\') (h : SpellsPieces cs ps) : SpellsPieces (c :: cs) (.char c :: ps)
  | short {e c : Char} {cs : List Char} {ps : List Piece} (he : shortEscape e = some c)
    (h : SpellsPieces cs ps) : SpellsPieces ('\\' :: e :: cs) (.char c :: ps)
  | unit {a b c d : Char} {n : Nat} {cs : List Char} {ps : List Piece}
    (hn : unitOf a b c d = some n) (h : SpellsPieces cs ps) :
    SpellsPieces ('\\' :: 'u' :: a :: b :: c :: d :: cs) (.unit n :: ps)

theorem exists_behind {p : Piece} {scanned : Option (List Piece × List Char)} {ps : List Piece}
    {rest : List Char} (h : (scanned.map fun q => (p :: q.1, q.2)) = some (ps, rest)) :
    ∃ qs, ps = p :: qs ∧ scanned = some (qs, rest) := by
  obtain ⟨⟨qs, _⟩, hqs, heq⟩ := Option.map_eq_some_iff.1 h
  cases heq
  exact ⟨qs, rfl, hqs⟩

theorem exists_pieces {cs rest : List Char} {ps : List Piece}
    (h : scanPieces cs = some (ps, rest)) :
    ∃ body, cs = body ++ '"' :: rest ∧ SpellsPieces body ps := by
  fun_induction scanPieces cs generalizing ps with
  | case1 => cases h
  | case2 c cs hc =>
      obtain rfl : c = '"' := hc
      cases h
      exact ⟨[], rfl, .nil⟩
  | case3 => cases h
  | case4 => cases h
  | case5 s e hs a b c d cs he n hn ih =>
      obtain rfl : s = '\\' := hs
      obtain rfl : e = 'u' := he
      obtain ⟨qs, rfl, hqs⟩ := exists_behind h
      obtain ⟨body, rfl, spelled⟩ := ih hqs
      exact ⟨_, rfl, .unit hn spelled⟩
  | case6 => cases h
  | case7 s e hs cs c _ he ih =>
      obtain rfl : s = '\\' := hs
      obtain ⟨qs, rfl, hqs⟩ := exists_behind h
      obtain ⟨body, rfl, spelled⟩ := ih hqs
      exact ⟨_, rfl, .short he spelled⟩
  | case8 => cases h
  | case9 c cs hq _ escape hc ih =>
      obtain ⟨qs, rfl, hqs⟩ := exists_behind h
      obtain ⟨body, rfl, spelled⟩ := ih hqs
      have more : body ++ '"' :: rest ≠ [] := by simp
      obtain ⟨e, es, following⟩ := List.exists_cons_of_ne_nil more
      have plain : c ≠ '\\' := fun hb => escape e es hb following
      exact ⟨_, rfl, .plain (Nat.not_lt.1 hc) hq plain spelled⟩

theorem scanPieces_spelled {body : List Char} {ps : List Piece} (h : SpellsPieces body ps)
    (rest : List Char) : scanPieces (body ++ '"' :: rest) = some (ps, rest) := by
  induction h with
  | nil => rfl
  | plain hc hq hb _ ih => rw [List.cons_append, scanPieces_plain hc hq hb, ih]; rfl
  | @short e c cs ps he _ ih =>
      have notUnit : e ≠ 'u' := by
        rintro rfl
        cases he
      rw [List.cons_append, List.cons_append, scanPieces_shortEscape notUnit he, ih]
      rfl
  | unit hn _ ih => simp [scanPieces, hn, ih]

end Pieces

section Tokens

variable {τ : Type}

/-- The tokens of one character. -/
def marks : List (Char × Token τ) :=
  [('[', .openList), (']', .closeList), ('{', .openMap), ('}', .closeMap), (',', .comma),
    (':', .colon)]

def Token.isNumber : Token τ → Bool
  | .number _ => true
  | _ => false

/-- The tokens that may follow a number in the spelling of a value. -/
def Token.endsNumber : Token τ → Bool
  | .comma | .closeList | .closeMap => true
  | _ => false

theorem eq_append_of_dropWord {w cs rest : List Char} (h : dropWord w cs = some rest) :
    cs = w ++ rest := by
  fun_induction dropWord w cs with
  | case1 =>
      cases h
      rfl
  | case2 => cases h
  | case3 _ c _ ih =>
      rw [List.cons_append, ← ih h]
      rfl
  | case4 => cases h

/-- What is left of a row behind a number is what the numeral leaves of its characters. -/
theorem exists_numeral {cs rest : List Char} {t : Token τ} (h : scanNumber cs = some (t, rest)) :
    ∃ w x, cs = w ++ rest ∧ t = .number x ∧ Numeral.SpellsNumber w x := by
  obtain ⟨⟨x, left⟩, scanned, heq⟩ := Option.map_eq_some_iff.1 h
  rw [Glyph.map_shown] at scanned
  obtain ⟨w, rfl, spelled⟩ := Numeral.exists_number scanned
  cases heq
  exact ⟨w, x, by simp, rfl, spelled⟩

variable [Texts τ]

/-- The characters that a token may be written with. -/
inductive SpellsToken : List Char → Token τ → Prop
  | mark {c : Char} {t : Token τ} (h : (c, t) ∈ marks) : SpellsToken [c] t
  | keyword {w : List Char} {t : Token τ} (h : (w, t) ∈ keywords) : SpellsToken w t
  | number {w : List Char} {x : Number} (h : Numeral.SpellsNumber w x) :
    SpellsToken w (.number x)
  | text {body : List Char} {ps : List Piece} {s : τ} (h : SpellsPieces body ps)
    (hs : Texts.ofPoints? (points ps) = some s) : SpellsToken ('"' :: (body ++ ['"'])) (.text s)

theorem exists_token {cs rest : List Char} {t : Token τ} (h : scanToken cs = some (t, rest)) :
    ∃ w, cs = w ++ rest ∧ SpellsToken w t := by
  cases cs with
  | nil => cases h
  | cons c cs =>
      rw [scanToken] at h
      split at h
      case h_1 hc | h_2 hc | h_3 hc | h_4 hc | h_5 hc | h_6 hc =>
          obtain rfl : c = _ := hc
          cases h
          exact ⟨_, rfl, .mark (by simp [marks])⟩
      case h_7 hc =>
          obtain rfl : c = '"' := hc
          unfold scanText at h
          split at h
          · cases h
          · obtain ⟨t, joined, heq⟩ := Option.map_eq_some_iff.1 h
            cases heq
            obtain ⟨body, rfl, spelled⟩ := exists_pieces ‹_›
            exact ⟨'"' :: (body ++ ['"']), by simp, .text spelled joined⟩
      case h_8 =>
          rcases Option.or_eq_some_iff.1 h with keyword | ⟨-, number⟩
          · obtain ⟨⟨w, t⟩, hmem, hdrop⟩ := List.exists_of_findSome?_eq_some keyword
            obtain ⟨rest, hrest, heq⟩ := Option.map_eq_some_iff.1 hdrop
            cases heq
            exact ⟨w, eq_append_of_dropWord hrest, .keyword hmem⟩
          · obtain ⟨w, x, row, rfl, spelled⟩ := exists_numeral number
            exact ⟨w, row, .number spelled⟩

theorem scanToken_spelled {w rest : List Char} {t : Token τ} (h : SpellsToken w t)
    (hrest : t.isNumber = true → Numeral.Stops rest) :
    scanToken (w ++ rest) = some (t, rest) := by
  cases h with
  | mark h =>
      have all : ∀ m ∈ (marks : List (Char × Token τ)),
          scanToken (m.1 :: rest) = some (m.2, rest) := by
        simp only [marks, List.forall_mem_cons]
        exact ⟨rfl, rfl, rfl, rfl, rfl, rfl, List.forall_mem_nil _⟩
      exact all _ h
  | keyword h =>
      have all : ∀ k ∈ (keywords : List (List Char × Token τ)),
          scanToken (k.1 ++ rest) = some (k.2, rest) := by
        simp only [keywords, List.forall_mem_cons]
        exact ⟨rfl, rfl, rfl, rfl, rfl, rfl, List.forall_mem_nil _⟩
      exact all _ h
  | number h =>
      obtain ⟨h⟩ := h
      exact scanToken_of_scanUnsigned (Numeral.scanUnsigned_spelled h (hrest rfl))
  | text h hs =>
      have pieces := scanPieces_spelled h rest
      simp [scanToken, scanText, pieces, hs]

theorem spelled_ne_nil {w : List Char} {t : Token τ} (h : SpellsToken w t) : w ≠ [] := by
  rintro rfl
  have scanned := scanToken_spelled h fun _ => Numeral.stops_nil
  cases scanned

end Tokens

section Apart

variable {τ : Type}

/-- No number is followed by anything but a comma or the end of what it stands in. -/
def Apart (ts : List (Token τ)) : Prop :=
  ts.IsChain fun t u => t.isNumber = true → u.endsNumber = true

theorem apart_cons {t : Token τ} {ts : List (Token τ)} (ht : t.isNumber = false) (h : Apart ts) :
    Apart (t :: ts) :=
  List.isChain_cons.2 ⟨fun _ _ number => absurd number (by simp [ht]), h⟩

theorem head?_elementPhrases (xs : List (Json τ)) (ts : List (Token τ)) :
    ∀ t ∈ (elementPhrases xs ++ .closeList :: ts).head?, t.endsNumber = true := by
  cases xs with
  | nil | cons _ _ =>
      rintro t ⟨⟩
      rfl

theorem head?_memberPhrases (es : Entries (Json τ) τ) (ts : List (Token τ)) :
    ∀ t ∈ (memberPhrases es ++ .closeMap :: ts).head?, t.endsNumber = true := by
  cases es with
  | nil | cons _ _ =>
      rintro t ⟨⟩
      rfl

mutual

theorem apart_phrase (v : Json τ) {ts : List (Token τ)}
    (hts : ∀ t ∈ ts.head?, t.endsNumber = true) (h : Apart ts) : Apart (phrase v ++ ts) := by
  match v with
  | .null | .bool _ | .text _ => exact apart_cons rfl h
  | .number x => exact List.isChain_cons.2 ⟨fun t ht _ => hts t ht, h⟩
  | .list [] | .map [] => exact apart_cons rfl (apart_cons rfl h)
  | .list (x :: xs) =>
      have elements := apart_elementPhrases xs h
      have first := apart_phrase x (head?_elementPhrases xs ts) elements
      simpa [phrase] using apart_cons (t := .openList) rfl first
  | .map ((k, v) :: es) =>
      have members := apart_memberPhrases es h
      have first := apart_phrase v (head?_memberPhrases es ts) members
      have key : Apart (.text k :: .colon :: _) := apart_cons rfl (apart_cons rfl first)
      simpa [phrase] using apart_cons (t := .openMap) rfl key

theorem apart_elementPhrases (xs : List (Json τ)) {ts : List (Token τ)} (h : Apart ts) :
    Apart (elementPhrases xs ++ .closeList :: ts) := by
  match xs with
  | [] => exact apart_cons rfl h
  | x :: xs =>
      have elements := apart_elementPhrases xs h
      have first := apart_phrase x (head?_elementPhrases xs ts) elements
      simpa [elementPhrases] using apart_cons (t := .comma) rfl first

theorem apart_memberPhrases (es : List (τ × Json τ)) {ts : List (Token τ)} (h : Apart ts) :
    Apart (memberPhrases es ++ .closeMap :: ts) := by
  match es with
  | [] => exact apart_cons rfl h
  | (k, v) :: es =>
      have members := apart_memberPhrases es h
      have first := apart_phrase v (head?_memberPhrases es ts) members
      have key : Apart (.text k :: .colon :: _) := apart_cons rfl (apart_cons rfl first)
      simpa [memberPhrases] using apart_cons (t := .comma) rfl key

end

end Apart

section Rows

variable {τ : Type} [Texts τ]

/-- A row of lexemes with blanks around them, and the tokens that they are. -/
inductive Lexes : List Char → List (Token τ) → Prop
  | nil : Lexes [] []
  | blank {c : Char} {cs : List Char} {ts : List (Token τ)} (hc : isSpace c = true)
    (h : Lexes cs ts) : Lexes (c :: cs) ts
  | token {w cs : List Char} {t : Token τ} {ts : List (Token τ)} (ht : SpellsToken w t)
    (h : Lexes cs ts) : Lexes (w ++ cs) (t :: ts)

theorem lexes_of_tokensWithin {fuel : Nat} {cs : List Char} {ts : List (Token τ)}
    (h : tokensWithin fuel cs = some ts) : Lexes cs ts := by
  fun_induction @tokensWithin Char τ _ _ fuel cs generalizing ts with
  | case1 =>
      cases h
      exact .nil
  | case2 => cases h
  | case3 fuel c cs hc ih => exact .blank hc (ih h)
  | case4 => cases h
  | case5 fuel c cs hc t rest scanned ih =>
      obtain ⟨us, hus, rfl⟩ := Option.map_eq_some_iff.1 h
      obtain ⟨w, hw, spelled⟩ := exists_token scanned
      rw [hw]
      exact .token spelled (ih hus)

theorem stops_of_lexes {cs : List Char} {ts : List (Token τ)} (h : Lexes cs ts)
    (hts : ∀ t ∈ ts.head?, t.endsNumber = true) : Numeral.Stops cs := by
  cases h with
  | nil => exact Numeral.stops_nil
  | @blank c cs ts hc h =>
      intro d hd
      obtain rfl : c = d := by simpa using hd
      rcases isSpace_cases hc with rfl | rfl | rfl | rfl <;> decide
  | @token w cs t ts ht h =>
      have ends := hts t rfl
      cases ht with
      | mark hmark =>
          have enders : ∀ m ∈ (marks : List (Char × Token τ)), m.2.endsNumber = true →
              m.1 = ',' ∨ m.1 = ']' ∨ m.1 = '}' ∨ m.1 = '\n' := by
            simp [marks, Token.endsNumber]
          exact stops_mark (enders _ hmark ends) cs
      | keyword hword =>
          have none : ∀ k ∈ (keywords : List (List Char × Token τ)),
              k.2.endsNumber = false := by
            simp [keywords, Token.endsNumber]
          exact absurd ends (by simp [none _ hword])
      | number _ | text _ _ => cases ends

theorem scans_of_lexes {cs : List Char} {ts : List (Token τ)} (h : Lexes cs ts)
    (apart : Apart ts) : Scans cs ts := by
  induction h with
  | nil => exact scans_nil
  | blank hc _ ih => exact (ih apart).blank hc
  | @token w cs t ts ht h ih =>
      obtain ⟨next, apart⟩ := List.isChain_cons.1 apart
      refine (ih apart).token (spelled_ne_nil ht) (scanToken_spelled ht fun number => ?_)
      exact stops_of_lexes h fun u hu => next u hu number

end Rows

variable {τ : Type} [DecidableEq τ] [Texts τ]

/-- The text spells the value, with as many blanks between its lexemes as it likes. -/
def Spells (text : String) (v : Json τ) : Prop := Lexes text.toList (phrase v)

/-- A text is read if it spells a value, and as that value with its maps settled. -/
theorem read?_eq_some_iff {text : String} {v : Json τ} :
    read? text = some v ↔ ∃ w, Spells text w ∧ v = settled w := by
  constructor
  · intro h
    obtain ⟨ts, scanned, accepted⟩ := Option.bind_eq_some_iff.1 h
    obtain ⟨w, rfl, rfl⟩ := ofTokens?_eq_some_iff.1 accepted
    exact ⟨w, lexes_of_tokensWithin scanned, rfl⟩
  · rintro ⟨w, spelled, rfl⟩
    have apart : Apart (phrase w ++ []) := apart_phrase w (by simp) List.isChain_nil
    rw [List.append_nil] at apart
    rw [read?, spelled?, (scans_of_lexes spelled apart).tokens_eq]
    exact ofTokens?_phrase w

end FleetPlan.Json
