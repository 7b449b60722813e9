import FleetPlan.Proofs.JsonPhrases
import FleetPlan.Proofs.WrittenNumbers
import FleetPlan.Proofs.WrittenTexts

/-!
JSON texts that are written and read again.

A written value is cut into the tokens that spell it, whatever follows it, and the machine that reads
tokens takes them from there. What is read is the value itself but for two things: a double is the one
that its digits name, and of a repeated key the last value is kept.
-/
namespace FleetPlan.Json

variable {τ : Type} [Texts τ]

/-- Any sufficient number of steps cuts a text into these tokens. -/
def Scans (cs : List Char) (ts : List (Token τ)) : Prop :=
  ∀ fuel, cs.length ≤ fuel → tokensWithin fuel cs = some ts

theorem Scans.tokens_eq {cs : List Char} {ts : List (Token τ)} (h : Scans cs ts) :
    tokens cs = some ts := h cs.length (Nat.le_refl _)

theorem scans_nil : Scans [] ([] : List (Token τ)) := fun fuel _ => by cases fuel <;> rfl

theorem Scans.blank {cs : List Char} {ts : List (Token τ)} (h : Scans cs ts) {c : Char}
    (hc : isSpace c = true) : Scans (c :: cs) ts := by
  intro fuel hfuel
  cases fuel with
  | zero => simp at hfuel
  | succ fuel => simpa [tokensWithin, hc] using h fuel (by simpa using hfuel)

theorem Scans.blanks {cs : List Char} {ts : List (Token τ)} (h : Scans cs ts) {blanks : List Char}
    (hb : ∀ c ∈ blanks, isSpace c = true) : Scans (blanks ++ cs) ts := by
  induction blanks with
  | nil => exact h
  | cons b blanks ih =>
      exact (ih fun c hc => hb c (List.mem_cons_of_mem b hc)).blank (hb b List.mem_cons_self)

theorem isSpace_cases {c : Char} (h : isSpace c = true) :
    c = ' ' ∨ c = '\t' ∨ c = '\n' ∨ c = '\r' := by
  simpa [isSpace, or_assoc] using h

theorem scanToken_space {c : Char} (hc : isSpace c = true) (cs : List Char) :
    scanToken (c :: cs) = (none : Option (Token τ × List Char)) := by
  rcases isSpace_cases hc with rfl | rfl | rfl | rfl <;> rfl

/-- A token takes the characters in front of the rest. -/
theorem Scans.token {w rest : List Char} {t : Token τ} {ts : List (Token τ)} (h : Scans rest ts)
    (hw : w ≠ []) (ht : scanToken (w ++ rest) = some (t, rest)) : Scans (w ++ rest) (t :: ts) := by
  obtain ⟨c, w, rfl⟩ := List.exists_cons_of_ne_nil hw
  rw [List.cons_append] at ht ⊢
  have nonblank : isSpace c = false := by
    by_contra hc
    rw [scanToken_space (by simpa using hc)] at ht
    exact absurd ht (by simp)
  intro fuel hfuel
  cases fuel with
  | zero => simp at hfuel
  | succ fuel =>
      have steps : rest.length ≤ fuel := by
        simp only [List.length_cons, List.length_append] at hfuel
        omega
      simp [tokensWithin, nonblank, ht, h fuel steps]

theorem Scans.mark {rest : List Char} {ts : List (Token τ)} (h : Scans rest ts) {c : Char}
    {t : Token τ} (ht : scanToken (c :: rest) = some (t, rest)) : Scans (c :: rest) (t :: ts) :=
  h.token (w := [c]) (by simp) ht

theorem Scans.text {rest : List Char} {ts : List Token} (h : Scans rest ts) (s : String) :
    Scans (writeText s ++ rest) (.text s :: ts) :=
  h.token (by simp [writeText]) (scanToken_writeText s rest)

mutual

/-- A value with its numbers as their texts are read. -/
def renumbered : Json → Json
  | .number x => .number (rereadNumber x)
  | .list xs => .list (renumberedElements xs)
  | .map es => .map (renumberedMembers es)
  | v => v

def renumberedElements : List Json → List Json
  | [] => []
  | x :: xs => renumbered x :: renumberedElements xs

def renumberedMembers : List (String × Json) → List (String × Json)
  | [] => []
  | (k, v) :: es => (k, renumbered v) :: renumberedMembers es

end

/-- Nothing but blanks stands between the elements of a text. -/
def Layout.IsBlank (l : Layout) : Prop := ∀ c ∈ l.gap, isSpace c = true

theorem isBlank_indented : Layout.indented.IsBlank := by simp [Layout.IsBlank, Layout.indented]

theorem isBlank_inline : Layout.inline.IsBlank := by simp [Layout.IsBlank, Layout.inline, isSpace]

theorem isSpace_lineBreak (l : Layout) (level : Nat) :
    ∀ c ∈ l.lineBreak level, isSpace c = true := by
  intro c hc
  unfold Layout.lineBreak at hc
  split at hc
  · rcases List.mem_cons.1 hc with rfl | hc
    · rfl
    · exact (List.eq_of_mem_replicate hc) ▸ rfl
  · exact absurd hc (by simp)

section Stops

open Numeral

theorem stops_mark {c : Char} (h : c = ',' ∨ c = ']' ∨ c = '}' ∨ c = '\n') (cs : List Char) :
    Stops (c :: cs) := by
  intro d hd
  rw [List.head?_cons, Option.some.injEq] at hd
  subst hd
  rcases h with rfl | rfl | rfl | rfl <;> decide

theorem stops_lineBreak (l : Layout) (level : Nat) {cs : List Char} (h : Stops cs) :
    Stops (l.lineBreak level ++ cs) := by
  unfold Layout.lineBreak
  split
  · exact stops_mark (by simp) _
  · exact h

theorem stops_writeElements (l : Layout) (level : Nat) (xs : List Json) {cs : List Char}
    (h : Stops cs) : Stops (writeElements l level xs ++ cs) := by
  cases xs with
  | nil => exact h
  | cons x xs => exact stops_mark (by simp) _

theorem stops_writeMembers (l : Layout) (level : Nat) (es : List (String × Json))
    {cs : List Char} (h : Stops cs) : Stops (writeMembers l level es ++ cs) := by
  cases es with
  | nil => exact h
  | cons e es =>
      obtain ⟨k, v⟩ := e
      exact stops_mark (by simp) _

mutual

theorem scans_write {l : Layout} (hl : l.IsBlank) (level : Nat) (v : Json) {rest : List Char}
    {ts : List Token} (hstops : Stops rest) (h : Scans rest ts) :
    Scans (write l level v ++ rest) (phrase (renumbered v) ++ ts) := by
  match v with
  | .null => exact h.token (by simp [write]) rfl
  | .bool true => exact h.token (by simp [write]) rfl
  | .bool false => exact h.token (by simp [write]) rfl
  | .number x => exact h.token (writeNumber_ne_nil x) (scanToken_writeNumber x hstops)
  | .text s => exact h.text s
  | .list [] =>
      have close : Scans (']' :: rest) (.closeList :: ts) := h.mark rfl
      exact close.mark rfl
  | .list (x :: xs) =>
      have close : Scans (']' :: rest) (.closeList :: ts) := h.mark rfl
      have stops := stops_lineBreak l level (stops_mark (c := ']') (by simp) rest)
      have elements := scans_writeElements hl (level + 1) xs stops
        (close.blanks (isSpace_lineBreak l level))
      have first := scans_write hl (level + 1) x (stops_writeElements l (level + 1) xs stops)
        elements
      have all : Scans ('[' :: _) (.openList :: _) :=
        (first.blanks (isSpace_lineBreak l (level + 1))).mark rfl
      simpa [write, renumbered, renumberedElements, renumberedMembers, phrase] using all
  | .map [] =>
      have close : Scans ('}' :: rest) (.closeMap :: ts) := h.mark rfl
      exact close.mark rfl
  | .map ((k, v) :: es) =>
      have close : Scans ('}' :: rest) (.closeMap :: ts) := h.mark rfl
      have stops := stops_lineBreak l level (stops_mark (c := '}') (by simp) rest)
      have members := scans_writeMembers hl (level + 1) es stops
        (close.blanks (isSpace_lineBreak l level))
      have value := scans_write hl (level + 1) v (stops_writeMembers l (level + 1) es stops)
        members
      have colon : Scans (':' :: ' ' :: _) (.colon :: _) := (value.blank (c := ' ') rfl).mark rfl
      have all : Scans ('{' :: _) (.openMap :: _) :=
        ((colon.text k).blanks (isSpace_lineBreak l (level + 1))).mark rfl
      simpa [write, renumbered, renumberedElements, renumberedMembers, phrase] using all

theorem scans_writeElements {l : Layout} (hl : l.IsBlank) (level : Nat) (xs : List Json)
    {rest : List Char} {ts : List Token} (hstops : Stops rest) (h : Scans rest ts) :
    Scans (writeElements l level xs ++ rest) (elementPhrases (renumberedElements xs) ++ ts) := by
  match xs with
  | [] => exact h
  | x :: xs =>
      have elements := scans_writeElements hl level xs hstops h
      have first := scans_write hl level x (stops_writeElements l level xs hstops) elements
      have all : Scans (',' :: _) (.comma :: _) :=
        ((first.blanks (isSpace_lineBreak l level)).blanks hl).mark rfl
      simpa [writeElements, renumberedElements, elementPhrases] using all

theorem scans_writeMembers {l : Layout} (hl : l.IsBlank) (level : Nat)
    (es : List (String × Json)) {rest : List Char} {ts : List Token} (hstops : Stops rest)
    (h : Scans rest ts) :
    Scans (writeMembers l level es ++ rest) (memberPhrases (renumberedMembers es) ++ ts) := by
  match es with
  | [] => exact h
  | (k, v) :: es =>
      have members := scans_writeMembers hl level es hstops h
      have value := scans_write hl level v (stops_writeMembers l level es hstops) members
      have colon : Scans (':' :: ' ' :: _) (.colon :: _) := (value.blank (c := ' ') rfl).mark rfl
      have all : Scans (',' :: _) (.comma :: _) :=
        (((colon.text k).blanks (isSpace_lineBreak l level)).blanks hl).mark rfl
      simpa [writeMembers, renumberedMembers, memberPhrases] using all

end

end Stops

mutual

/-- A value as its text is read: doubles are what their digits name, and a repeated key keeps its
first place and its last value. -/
def reread : Json → Json
  | .number x => .number (rereadNumber x)
  | .list xs => .list (rereadElements xs)
  | .map es => .map (Entries.ofPairs (rereadMembers es))
  | v => v

def rereadElements : List Json → List Json
  | [] => []
  | x :: xs => reread x :: rereadElements xs

def rereadMembers : List (String × Json) → List (String × Json)
  | [] => []
  | (k, v) :: es => (k, reread v) :: rereadMembers es

end

theorem rereadElements_eq_map (xs : List Json) : rereadElements xs = xs.map reread := by
  induction xs with
  | nil => rfl
  | cons x xs ih => rw [rereadElements, ih, List.map_cons]

theorem rereadMembers_eq_mapValues (es : Entries Json) :
    rereadMembers es = Entries.mapValues reread es := by
  induction es with
  | nil => rfl
  | cons e es ih => rw [rereadMembers, ih]; rfl

theorem reread_text (s : String) : reread (.text s) = .text s := by simp [reread]

theorem reread_int (n : Int) : reread (.int n) = .int n := by rw [reread, rereadNumber_int]

theorem reread_list (xs : List Json) : reread (.list xs) = .list (xs.map reread) := by
  rw [reread, rereadElements_eq_map]

theorem reread_map {es : Entries Json} (h : (Entries.keys es).Nodup) :
    reread (.map es) = .map (Entries.mapValues reread es) := by
  rw [reread, rereadMembers_eq_mapValues, Entries.ofPairs_of_nodup]
  rwa [Entries.keys_mapValues]

mutual

theorem reread_eq_settled (v : Json) : reread v = settled (renumbered v) := by
  match v with
  | .null | .bool _ | .number _ | .text _ => rfl
  | .list xs => rw [reread, renumbered, settled, rereadElements_eq_settled xs]
  | .map es => rw [reread, renumbered, settled, rereadMembers_eq_settled es]

theorem rereadElements_eq_settled (xs : List Json) :
    rereadElements xs = settledElements (renumberedElements xs) := by
  match xs with
  | [] => rfl
  | x :: xs =>
      rw [rereadElements, renumberedElements, settledElements, reread_eq_settled x,
        rereadElements_eq_settled xs]

theorem rereadMembers_eq_settled (es : List (String × Json)) :
    rereadMembers es = settledMembers (renumberedMembers es) := by
  match es with
  | [] => rfl
  | (k, v) :: es =>
      rw [rereadMembers, renumberedMembers, settledMembers, reread_eq_settled v,
        rereadMembers_eq_settled es]

end

/-- What is printed is read again, in every layout. -/
theorem read?_print {l : Layout} (hl : l.IsBlank) (v : Json) :
    read? (print l v) = some (reread v) := by
  have scans := scans_write hl 0 v Numeral.stops_nil scans_nil
  rw [List.append_nil, List.append_nil] at scans
  simp [read?, spelled?, print, scans.tokens_eq, ofTokens?_phrase, reread_eq_settled]

end FleetPlan.Json
