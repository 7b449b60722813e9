import FleetPlan.Json.Value

/-!
Tokens of a JSON text.

Tokens are cut off the front of a row of glyphs one at a time, each shorter than what it is cut
from. The grammar sees the character of a glyph, and only a text keeps its code point. An escaped
character is one code unit of sixteen bits, and a high unit with a low one behind it makes a
character beyond the first plane. A unit of these that stands alone is a code point by itself, which
a text of the kind that is asked for may hold or not.
-/
namespace FleetPlan.Json

inductive Token (τ : Type := String) where
  | openList
  | closeList
  | openMap
  | closeMap
  | comma
  | colon
  | null
  | bool (b : Bool)
  | number (x : Number)
  | text (s : τ)
  deriving DecidableEq, Repr

def isSpace (c : Char) : Bool := c = ' ' || c = '\t' || c = '\n' || c = '\r'

/-- A part of a text as it is written: a code point, or a code unit of sixteen bits. -/
inductive Piece where
  | point (p : CodePoint)
  | unit (n : Nat)
  deriving DecidableEq, Repr

abbrev Piece.char (c : Char) : Piece := .point (.ofChar c)

def hexValue (c : Char) : Option Nat :=
  if '0' ≤ c ∧ c ≤ '9' then some (c.toNat - '0'.toNat)
  else if 'a' ≤ c ∧ c ≤ 'f' then some (c.toNat - 'a'.toNat + 10)
  else if 'A' ≤ c ∧ c ≤ 'F' then some (c.toNat - 'A'.toNat + 10)
  else none

def unitOf (a b c d : Char) : Option Nat := do
  let a ← hexValue a
  let b ← hexValue b
  let c ← hexValue c
  let d ← hexValue d
  return ((a * 16 + b) * 16 + c) * 16 + d

/-- The character behind a backslash that stands for one character. -/
def shortEscape : Char → Option Char
  | '"' => some '"'
  | '\\' => some '\\'
  | '/' => some '/'
  | 'b' => some '\x08'
  | 'f' => some '\x0c'
  | 'n' => some '\n'
  | 'r' => some '\r'
  | 't' => some '\t'
  | _ => none

section Pieces

open Glyph

variable {σ : Type} [Glyph σ]

/-- The pieces of a text up to its closing quote, and what follows the quote. -/
def scanPieces : List σ → Option (List Piece × List σ)
  | [] => none
  | s :: ss =>
    match shown s, ss with
    | '"', ss => some ([], ss)
    | '\\', [] => none
    | '\\', e :: ss =>
      match shown e, ss with
      | 'u', a :: b :: c :: d :: ss =>
        match unitOf (shown a) (shown b) (shown c) (shown d) with
        | none => none
        | some n => (scanPieces ss).map fun p => (.unit n :: p.1, p.2)
      | e, ss =>
        match shortEscape e with
        | none => none
        | some c => (scanPieces ss).map fun p => (.char c :: p.1, p.2)
    | c, ss =>
      if c.toNat < 0x20 then none
      else (scanPieces ss).map fun p => (.point (point s) :: p.1, p.2)

end Pieces

def isHighUnit (n : Nat) : Bool := 0xD800 ≤ n && n < 0xDC00

def isLowUnit (n : Nat) : Bool := 0xDC00 ≤ n && n < 0xE000

/-- The code point of two units, and of a unit by itself. -/
def pairPoint (high low : Nat) : CodePoint :=
  Fin.ofNat _ (0x10000 + (high - 0xD800) * 0x400 + (low - 0xDC00))

def unitPoint (n : Nat) : CodePoint := Fin.ofNat _ n

/-- The code points that pieces denote. -/
def points : List Piece → CodePoints
  | [] => []
  | .point p :: ps => p :: points ps
  | .unit m :: .unit n :: ps =>
    if isHighUnit m ∧ isLowUnit n then pairPoint m n :: points ps
    else unitPoint m :: points (.unit n :: ps)
  | .unit m :: ps => unitPoint m :: points ps

section Tokens

open Glyph

variable {σ τ : Type} [Glyph σ]

def keywords : List (List Char × Token τ) :=
  [("null".toList, .null), ("true".toList, .bool true), ("false".toList, .bool false),
    ("NaN".toList, .number (.float .nan)), ("Infinity".toList, .number (.float (.infinite false))),
    ("-Infinity".toList, .number (.float (.infinite true)))]

def dropWord : List Char → List σ → Option (List σ)
  | [], ss => some ss
  | _ :: _, [] => none
  | w :: ws, s :: ss => if w = shown s then dropWord ws ss else none

def scanKeyword (ss : List σ) : Option (Token τ × List σ) :=
  keywords.findSome? fun k => (dropWord k.1 ss).map (k.2, ·)

/-- A numeral is made of characters; what it leaves of them is left of the row. -/
def scanNumber (ss : List σ) : Option (Token τ × List σ) :=
  (Numeral.scan (ss.map shown)).map fun n => (.number n.1, ss.drop (ss.length - n.2.length))

variable [Texts τ]

def scanText (ss : List σ) : Option (Token τ × List σ) :=
  match scanPieces ss with
  | none => none
  | some (ps, rest) => (Texts.ofPoints? (points ps)).map fun t => (.text t, rest)

/-- The token at the front of a row that starts with no blank. -/
def scanToken : List σ → Option (Token τ × List σ)
  | [] => none
  | s :: ss =>
    match shown s with
    | '[' => some (.openList, ss)
    | ']' => some (.closeList, ss)
    | '{' => some (.openMap, ss)
    | '}' => some (.closeMap, ss)
    | ',' => some (.comma, ss)
    | ':' => some (.colon, ss)
    | '"' => scanText ss
    | _ => (scanKeyword (s :: ss)).or (scanNumber (s :: ss))

/-- The tokens of a row that takes at most `fuel` steps. -/
def tokensWithin : Nat → List σ → Option (List (Token τ))
  | _, [] => some []
  | 0, _ :: _ => none
  | fuel + 1, s :: ss =>
    if isSpace (shown s) then tokensWithin fuel ss
    else
      match scanToken (s :: ss) with
      | none => none
      | some (t, rest) => (tokensWithin fuel rest).map (t :: ·)

/-- The tokens of a row; each step takes at least one glyph. -/
def tokens (ss : List σ) : Option (List (Token τ)) := tokensWithin ss.length ss

end Tokens

end FleetPlan.Json
