/-!
Blank characters, and the words and the trimmed core of a text.

A word holds no blank, and every word is non-empty.
-/
namespace FleetPlan.Text

/-- The blanks of Unicode text, with the four separators below the space. -/
def isBlank (c : Char) : Bool :=
  let n := c.toNat
  (9 ≤ n && n ≤ 13) || (28 ≤ n && n ≤ 32) || n == 0x85 || n == 0xA0 || n == 0x1680 ||
    (0x2000 ≤ n && n ≤ 0x200A) || n == 0x2028 || n == 0x2029 || n == 0x202F || n == 0x205F ||
    n == 0x3000

/-- Adds a character to the front of the first word, or a word break where it is blank. -/
def wordStep (c : Char) : List (List Char) × List Char → List (List Char) × List Char
  | (ws, cur) =>
    if isBlank c then (if cur.isEmpty then ws else cur :: ws, []) else (ws, c :: cur)

def wordsOf (cs : List Char) : List (List Char) :=
  let (ws, cur) := cs.foldr wordStep ([], [])
  if cur.isEmpty then ws else cur :: ws

def words (s : String) : List String :=
  (wordsOf s.toList).map String.ofList

theorem wordStep_clean (c : Char) (p : List (List Char) × List Char)
    (hw : ∀ w ∈ p.1, w ≠ [] ∧ ∀ x ∈ w, isBlank x = false)
    (hc : ∀ x ∈ p.2, isBlank x = false) :
    (∀ w ∈ (wordStep c p).1, w ≠ [] ∧ ∀ x ∈ w, isBlank x = false) ∧
      ∀ x ∈ (wordStep c p).2, isBlank x = false := by
  obtain ⟨ws, cur⟩ := p
  cases hb : isBlank c with
  | false => exact ⟨by simpa [wordStep, hb] using hw, by simpa [wordStep, hb] using hc⟩
  | true =>
      cases cur with
      | nil => simpa [wordStep, hb] using hw
      | cons y ys => simpa [wordStep, hb] using ⟨by simpa using hc, hw⟩

theorem foldr_wordStep_clean (cs : List Char) :
    (∀ w ∈ (cs.foldr wordStep ([], [])).1, w ≠ [] ∧ ∀ x ∈ w, isBlank x = false) ∧
      ∀ x ∈ (cs.foldr wordStep ([], [])).2, isBlank x = false := by
  induction cs with
  | nil => simp
  | cons c cs ih => exact wordStep_clean c _ ih.1 ih.2

theorem clean_of_mem_wordsOf {cs w : List Char} (h : w ∈ wordsOf cs) :
    w ≠ [] ∧ ∀ x ∈ w, isBlank x = false := by
  have clean := foldr_wordStep_clean cs
  unfold wordsOf at h
  generalize cs.foldr wordStep ([], []) = p at clean h
  obtain ⟨ws, cur⟩ := p
  cases cur with
  | nil => exact clean.1 w (by simpa using h)
  | cons y ys =>
      rcases List.mem_cons.1 (by simpa using h) with rfl | hw
      · exact ⟨by simp, clean.2⟩
      · exact clean.1 w hw

/-- Blanks of number texts: those of Unicode, without the four separators below the space. -/
def isPadding (c : Char) : Bool :=
  isBlank c && !(28 ≤ c.toNat && c.toNat ≤ 31)

def trim (cs : List Char) : List Char :=
  ((cs.dropWhile isPadding).reverse.dropWhile isPadding).reverse

end FleetPlan.Text
