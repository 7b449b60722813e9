import FleetPlan.Proofs.WrittenNumbers

/-!
Numbers as they may be spelled.

A strict numeral is a sign, a whole part, a fraction and an exponent, of which only the whole part has
to be there. The scanner takes such numerals and no others, and takes all of one where what follows
does not prolong it.
-/
namespace FleetPlan.Numeral

/-- Some digits, at least one. -/
structure IsDigits (ds : List Char) : Prop where
  digits : ∀ c ∈ ds, isDigit c = true
  nonempty : ds ≠ []

inductive SpellsFraction : List Char → Option (List Char) → Prop
  | absent : SpellsFraction [] none
  | present {ds : List Char} (h : IsDigits ds) : SpellsFraction ('.' :: ds) (some ds)

inductive SpellsSign : List Char → Bool → Prop
  | absent : SpellsSign [] false
  | plus : SpellsSign ['+'] false
  | minus : SpellsSign ['-'] true

inductive SpellsExponent : List Char → Option Int → Prop
  | absent : SpellsExponent [] none
  | present {c : Char} {sign ds : List Char} {negative : Bool} (hc : c = 'e' ∨ c = 'E')
    (hs : SpellsSign sign negative) (h : IsDigits ds) :
    SpellsExponent (c :: (sign ++ ds)) (some (signed negative (natOf ds)))

/-- The number of a numeral: an integer if there is neither a fraction nor an exponent. -/
def numberOf (negative : Bool) (whole : List Char) (frac : Option (List Char))
    (power : Option Int) : Number :=
  if frac.isNone ∧ power.isNone then .int (signed negative (natOf whole))
  else .float (float negative whole (frac.getD []) (power.getD 0))

/-- A numeral without its sign, for a number with this sign. -/
inductive SpellsUnsigned (negative : Bool) : List Char → Number → Prop
  | intro {whole f e : List Char} {frac : Option (List Char)} {power : Option Int}
    (hw : IsWhole whole) (hf : SpellsFraction f frac) (he : SpellsExponent e power) :
    SpellsUnsigned negative (whole ++ (f ++ e)) (numberOf negative whole frac power)

/-- A strict numeral. -/
inductive SpellsNumber : List Char → Number → Prop
  | intro {negative : Bool} {body : List Char} {x : Number}
    (h : SpellsUnsigned negative body x) :
    SpellsNumber ((if negative then ['-'] else []) ++ body) x

/-! What is scanned is a numeral. -/

theorem eq_append_of_digitRun {cs ds rest : List Char} (h : digitRun cs = (ds, rest)) :
    cs = ds ++ rest ∧ ∀ c ∈ ds, isDigit c = true := by
  have parts := digitRun_append cs
  have digits : ∀ c ∈ (digitRun cs).1, isDigit c = true := fun _ => isDigit_of_mem_digitRun
  rw [h] at parts digits
  exact ⟨parts.symm, digits⟩

theorem isWhole_of_scanWhole {cs ds rest : List Char} (h : scanWhole cs = some (ds, rest)) :
    cs = ds ++ rest ∧ IsWhole ds := by
  by_cases hz : cs.head? = some '0'
  · obtain ⟨cs, rfl⟩ := List.head?_eq_some_iff.1 hz
    cases h
    exact ⟨rfl, isWhole_zero⟩
  · rw [scanWhole.eq_2 _ fun _ hcs => hz (by rw [hcs]; rfl)] at h
    rcases run : digitRun cs with ⟨_ | ⟨d, ds'⟩, rest'⟩
    · simp [run] at h
    · obtain ⟨rfl, rfl⟩ : d :: ds' = ds ∧ rest' = rest := by simpa [run] using h
      obtain ⟨rfl, digits⟩ := eq_append_of_digitRun run
      exact ⟨rfl, digits, List.cons_ne_nil d ds', fun zero => absurd zero hz⟩

theorem exists_fraction (cs : List Char) :
    ∃ f, cs = f ++ (scanFraction cs).2 ∧ SpellsFraction f (scanFraction cs).1 := by
  by_cases hp : cs.head? = some '.'
  · obtain ⟨cs, rfl⟩ := List.head?_eq_some_iff.1 hp
    rcases run : digitRun cs with ⟨_ | ⟨d, ds⟩, rest⟩
    · simp only [scanFraction, run]
      exact ⟨[], rfl, .absent⟩
    · obtain ⟨rfl, digits⟩ := eq_append_of_digitRun run
      simp only [scanFraction, run]
      exact ⟨_, rfl, .present ⟨digits, List.cons_ne_nil d ds⟩⟩
  · rw [scanFraction.eq_2 _ fun _ hcs => hp (by rw [hcs]; rfl)]
    exact ⟨[], rfl, .absent⟩

theorem exists_sign (cs : List Char) :
    ∃ sign, cs = sign ++ (scanSign cs).2 ∧ SpellsSign sign (scanSign cs).1 := by
  unfold scanSign
  split
  · exact ⟨_, rfl, .minus⟩
  · exact ⟨_, rfl, .plus⟩
  · exact ⟨[], rfl, .absent⟩

theorem exists_exponent (cs : List Char) :
    ∃ e, cs = e ++ (scanExponent cs).2 ∧ SpellsExponent e (scanExponent cs).1 := by
  cases cs with
  | nil => exact ⟨[], rfl, .absent⟩
  | cons c cs =>
      by_cases hc : c = 'e' ∨ c = 'E'
      · obtain ⟨sign, parts, hsign⟩ := exists_sign cs
        rcases run : digitRun (scanSign cs).2 with ⟨_ | ⟨d, ds⟩, rest⟩
        · simp only [scanExponent, if_pos hc, run]
          exact ⟨[], rfl, .absent⟩
        · obtain ⟨tail, digits⟩ := eq_append_of_digitRun run
          simp only [scanExponent, if_pos hc, run]
          refine ⟨_, ?_, .present hc hsign ⟨digits, List.cons_ne_nil d ds⟩⟩
          rw [List.cons_append, List.append_assoc, ← tail, ← parts]
      · rw [scanExponent, if_neg hc]
        exact ⟨[], rfl, .absent⟩

theorem exists_unsigned {negative : Bool} {cs rest : List Char} {x : Number}
    (h : scanUnsigned negative cs = some (x, rest)) :
    ∃ body, cs = body ++ rest ∧ SpellsUnsigned negative body x := by
  rcases scanned : scanWhole cs with _ | ⟨whole, tail⟩
  · simp [scanUnsigned, scanned] at h
  · obtain ⟨rfl, hw⟩ := isWhole_of_scanWhole scanned
    obtain ⟨f, hparts, hf⟩ := exists_fraction tail
    obtain ⟨e, eparts, he⟩ := exists_exponent (scanFraction tail).2
    have ends : numberOf negative whole (scanFraction tail).1
          (scanExponent (scanFraction tail).2).1 = x ∧
        (scanExponent (scanFraction tail).2).2 = rest := by
      simp only [scanUnsigned, scanned] at h
      rw [numberOf]
      split at h
      case isTrue none =>
        rw [if_pos none]
        cases h
        exact ⟨rfl, rfl⟩
      case isFalse some =>
        rw [if_neg some]
        cases h
        exact ⟨rfl, rfl⟩
    obtain ⟨rfl, rfl⟩ := ends
    refine ⟨whole ++ (f ++ e), ?_, .intro hw hf he⟩
    rw [List.append_assoc, List.append_assoc, ← eparts, ← hparts]

theorem exists_number {cs rest : List Char} {x : Number} (h : scan cs = some (x, rest)) :
    ∃ w, cs = w ++ rest ∧ SpellsNumber w x := by
  unfold scan at h
  split at h
  · obtain ⟨body, rfl, spelled⟩ := exists_unsigned h
    exact ⟨_, rfl, .intro spelled⟩
  · obtain ⟨body, rfl, spelled⟩ := exists_unsigned h
    exact ⟨_, rfl, .intro spelled⟩

/-! A numeral is scanned as a whole. -/

theorem scanSign_append {sign ds : List Char} {negative : Bool} (h : SpellsSign sign negative)
    (hds : IsDigits ds) (rest : List Char) :
    scanSign (sign ++ (ds ++ rest)) = (negative, ds ++ rest) := by
  cases h with
  | plus | minus => rfl
  | absent =>
      obtain ⟨d, ds, rfl⟩ := List.exists_cons_of_ne_nil hds.nonempty
      have digit : isDigit d = true := hds.digits d (.head _)
      refine scanSign.eq_3 _ ?_ ?_ <;>
        · rintro _ hd
          cases hd
          exact absurd digit (by decide)

theorem scanExponent_spelled {e rest : List Char} {power : Option Int}
    (h : SpellsExponent e power) (hrest : Stops rest) : scanExponent (e ++ rest) = (power, rest) := by
  cases h with
  | absent => exact scanExponent_of_stops hrest
  | @present c sign ds negative hc hs hds =>
      have run := digitRun_of_stops hds.digits hrest.noDigitFirst
      have signed := scanSign_append hs hds rest
      obtain ⟨d, ds, rfl⟩ := List.exists_cons_of_ne_nil hds.nonempty
      rw [List.cons_append, List.append_assoc]
      simp only [scanExponent, if_pos hc, signed, run]

/-- An exponent does not prolong what stands in front of it. -/
theorem ends_of_exponent {e rest : List Char} {power : Option Int} (h : SpellsExponent e power)
    (hrest : Stops rest) : NoDigitFirst (e ++ rest) ∧ (e ++ rest).head? ≠ some '.' := by
  cases h with
  | absent => exact ⟨hrest.noDigitFirst, fun point => (hrest _ point).2.1 rfl⟩
  | present hc _ _ =>
      rcases hc with rfl | rfl <;> exact ⟨noDigitFirst_cons (by decide) _, by simp⟩

theorem scanFraction_spelled {f tail : List Char} {frac : Option (List Char)}
    (h : SpellsFraction f frac) (hdigit : NoDigitFirst tail) (hpoint : tail.head? ≠ some '.') :
    scanFraction (f ++ tail) = (frac, tail) := by
  cases h with
  | absent =>
      rw [List.nil_append]
      exact scanFraction.eq_2 _ fun _ htail => hpoint (by rw [htail]; rfl)
  | present hds => exact scanFraction_append hds.digits hds.nonempty hdigit

theorem noDigitFirst_fraction {f tail : List Char} {frac : Option (List Char)}
    (h : SpellsFraction f frac) (htail : NoDigitFirst tail) : NoDigitFirst (f ++ tail) := by
  cases h with
  | absent => exact htail
  | present _ => exact noDigitFirst_cons (by decide) _

theorem scanUnsigned_spelled {negative : Bool} {body rest : List Char} {x : Number}
    (h : SpellsUnsigned negative body x) (hrest : Stops rest) :
    scanUnsigned negative (body ++ rest) = some (x, rest) := by
  obtain @⟨whole, f, e, frac, power, hw, hf, he⟩ := h
  obtain ⟨hdigit, hpoint⟩ := ends_of_exponent he hrest
  have whole := scanWhole_append hw (noDigitFirst_fraction hf hdigit)
  have fraction := scanFraction_spelled hf hdigit hpoint
  have exponent := scanExponent_spelled he hrest
  rw [List.append_assoc, List.append_assoc]
  simp only [scanUnsigned, whole, fraction, exponent, numberOf]
  split <;> rfl

end FleetPlan.Numeral
