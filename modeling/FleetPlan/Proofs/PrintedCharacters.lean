import FleetPlan.Proofs.JsonRoundTrip

/-!
The characters of written JSON texts.

Nothing but printable characters of ASCII and newlines stands in a text, whatever characters the
texts inside the value have.
-/
namespace FleetPlan

/-- All characters are newlines or printable characters of ASCII. -/
def Printed (cs : List Char) : Prop := ∀ c ∈ cs, c = '\n' ∨ 0x20 ≤ c.toNat ∧ c.toNat ≤ 0x7E

instance (cs : List Char) : Decidable (Printed cs) := List.decidableBAll _ cs

@[simp] theorem printed_append (cs ds : List Char) :
    Printed (cs ++ ds) ↔ Printed cs ∧ Printed ds := List.forall_mem_append

@[simp] theorem printed_cons (c : Char) (cs : List Char) :
    Printed (c :: cs) ↔ (c = '\n' ∨ 0x20 ≤ c.toNat ∧ c.toNat ≤ 0x7E) ∧ Printed cs :=
  List.forall_mem_cons

@[simp] theorem printed_nil : Printed [] := by simp [Printed]

theorem printed_replicate {c : Char} (h : Printed [c]) (n : Nat) :
    Printed (List.replicate n c) :=
  fun _ hd => List.eq_of_mem_replicate hd ▸ h c List.mem_cons_self

theorem printed_toDigits {base : Nat} (hb : 1 < base) (h16 : base ≤ 16) (n : Nat) :
    Printed (Nat.toDigits base n) := by
  have digit : ∀ k, k < 16 → Printed [Nat.digitChar k] := by decide
  induction n using Nat.strongRecOn with
  | _ n ih =>
      rw [Nat.toDigits_eq_if hb]
      split
      · exact digit n (by omega)
      · have last := Nat.mod_lt n (Nat.lt_trans Nat.one_pos hb)
        exact (printed_append _ _).2
          ⟨ih (n / base) (Nat.div_lt_self (by omega) hb), digit _ (by omega)⟩

theorem printed_of_isDigit {cs : List Char} (h : ∀ c ∈ cs, Numeral.isDigit c = true) :
    Printed cs := by
  intro c hc
  have digit := h c hc
  simp only [Numeral.isDigit_eq, Char.isDigit, Bool.and_eq_true, decide_eq_true_eq,
    ge_iff_le, UInt32.le_iff_toNat_le] at digit
  have low : 48 ≤ c.toNat := digit.1
  have high : c.toNat ≤ 57 := digit.2
  omega

theorem Printed.subset {cs ds : List Char} (h : Printed ds) (hs : cs ⊆ ds) : Printed cs :=
  fun c hc => h c (hs hc)

namespace Double

theorem printed_layOut (style : DecimalStyle) {ds : List Char} (h : Printed ds) (lead : Int) :
    Printed (layOut style ds lead) := by
  have taken (n : Nat) := h.subset (List.take_subset n ds)
  have dropped (n : Nat) := h.subset (List.drop_subset n ds)
  have zeros := printed_replicate (show Printed ['0'] by decide)
  have digits := printed_toDigits (show 1 < 10 by decide) (by decide) lead.natAbs
  simp only [layOut, padLeft]
  split
  · split
    · split <;> simp [taken, dropped, zeros]
    · simp [h, zeros]
  · have tail := h.subset (List.tail_sublist ds).subset
    split <;> split <;> simp [taken, tail, zeros, digits]

end Double

namespace Json

theorem printed_writeNumber (x : Number) : Printed (writeNumber x) := by
  match x with
  | .int n =>
      have digits := printed_toDigits (show 1 < 10 by decide) (by decide) n.natAbs
      rw [writeNumber, writeInt]
      split <;> simp [digits]
  | .float .nan => decide
  | .float (.infinite true) => decide
  | .float (.infinite false) => decide
  | .float (.finite negative m e) =>
      obtain ⟨ds, lead, layable, text⟩ := Double.toList_render_finite doubleStyle negative m e
      have body := Double.printed_layOut doubleStyle (printed_of_isDigit layable.digits) lead
      rw [writeNumber, text]
      split <;> simp [body]

theorem printed_unitEscape (n : Nat) : Printed (unitEscape n) := by
  have zeros := printed_replicate (show Printed ['0'] by decide)
  have digits := printed_toDigits (show 1 < 16 by decide) (by decide) n
  simp [unitEscape, Text.hex, zeros, digits]

theorem printed_escapeChar (c : Char) : Printed (escapeChar c) := by
  unfold escapeChar
  repeat' split
  all_goals simp [printed_unitEscape, *]

theorem printed_writeText (s : String) : Printed (writeText s) := by
  have chars : Printed (s.toList.flatMap escapeChar) := by
    intro d hd
    obtain ⟨c, -, hd⟩ := List.mem_flatMap.1 hd
    exact printed_escapeChar c d hd
  simp [writeText, chars]

theorem printed_lineBreak (l : Layout) (level : Nat) : Printed (l.lineBreak level) := by
  have blanks := printed_replicate (show Printed [' '] by decide)
  unfold Layout.lineBreak
  split <;> simp [blanks]

mutual

theorem printed_write {l : Layout} (hl : Printed l.gap) (level : Nat) (v : Json) :
    Printed (write l level v) := by
  match v with
  | .null | .bool true | .bool false | .list [] | .map [] => simp [write]
  | .number x => exact printed_writeNumber x
  | .text s => exact printed_writeText s
  | .list (x :: xs) =>
      have first := printed_write hl (level + 1) x
      have others := printed_writeElements hl (level + 1) xs
      simp [write, printed_lineBreak, first, others]
  | .map ((k, v) :: es) =>
      have first := printed_write hl (level + 1) v
      have others := printed_writeMembers hl (level + 1) es
      simp [write, printed_lineBreak, printed_writeText, first, others]

theorem printed_writeElements {l : Layout} (hl : Printed l.gap) (level : Nat) (xs : List Json) :
    Printed (writeElements l level xs) := by
  match xs with
  | [] => exact printed_nil
  | x :: xs =>
      have first := printed_write hl level x
      have others := printed_writeElements hl level xs
      simp [writeElements, printed_lineBreak, hl, first, others]

theorem printed_writeMembers {l : Layout} (hl : Printed l.gap) (level : Nat)
    (es : List (String × Json)) : Printed (writeMembers l level es) := by
  match es with
  | [] => exact printed_nil
  | (k, v) :: es =>
      have first := printed_write hl level v
      have others := printed_writeMembers hl level es
      simp [writeMembers, printed_lineBreak, printed_writeText, hl, first, others]

end

end Json
end FleetPlan
