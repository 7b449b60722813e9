import FleetPlan.Json.Printer
import FleetPlan.Json.Token
import Mathlib.Data.List.DropRight

/-!
Numbers that are written and read again.

The scanner takes a written number off the front of a text whenever what follows does not prolong
it. An integer is read as the same integer; a double is read as the double that its digits name,
which is not shown here to be the one that was written.
-/
namespace FleetPlan

namespace Numeral

theorem isDigit_eq (c : Char) : isDigit c = c.isDigit := rfl

/-- The first character of a text, if it has one, prolongs no numeral. -/
def Stops (rest : List Char) : Prop :=
  ∀ c, rest.head? = some c → isDigit c = false ∧ c ≠ '.' ∧ c ≠ 'e' ∧ c ≠ 'E'

theorem stops_nil : Stops [] := by simp [Stops]

/-- No digit comes first. -/
def NoDigitFirst (rest : List Char) : Prop := ∀ c, rest.head? = some c → isDigit c = false

theorem Stops.noDigitFirst {rest : List Char} (h : Stops rest) : NoDigitFirst rest :=
  fun c hc => (h c hc).1

theorem noDigitFirst_cons {c : Char} (h : isDigit c = false) (cs : List Char) :
    NoDigitFirst (c :: cs) := by
  intro d hd
  rw [List.head?_cons, Option.some.injEq] at hd
  exact hd ▸ h

theorem digitRun_of_stops {ds rest : List Char} (hds : ∀ c ∈ ds, isDigit c = true)
    (hrest : NoDigitFirst rest) : digitRun (ds ++ rest) = (ds, rest) := by
  have stop : rest.takeWhile isDigit = [] ∧ rest.dropWhile isDigit = rest := by
    cases rest with
    | nil => simp
    | cons c cs => simp [hrest c rfl]
  simp [digitRun, List.takeWhile_append_of_pos hds, List.dropWhile_append_of_pos hds, stop]

/-- Digits that a strict numeral may start with: at least one, and a zero in front only alone. -/
structure IsWhole (ds : List Char) : Prop where
  digits : ∀ c ∈ ds, isDigit c = true
  nonempty : ds ≠ []
  noZero : ds.head? = some '0' → ds = ['0']

theorem scanWhole_append {ds rest : List Char} (h : IsWhole ds) (hrest : NoDigitFirst rest) :
    scanWhole (ds ++ rest) = some (ds, rest) := by
  have run := digitRun_of_stops h.digits hrest
  obtain ⟨hdigits, hne, hzero⟩ := h
  cases ds with
  | nil => exact absurd rfl hne
  | cons d ds =>
      by_cases hd : d = '0'
      · obtain rfl : ds = [] := by simpa [hd] using hzero
        subst hd
        rfl
      · rw [List.cons_append] at run ⊢
        rw [scanWhole.eq_2 _ (by simpa using hd), run]

theorem scanFraction_of_stops {rest : List Char} (h : Stops rest) :
    scanFraction rest = (none, rest) := by
  cases rest with
  | nil => rfl
  | cons c cs => exact scanFraction.eq_2 _ (by simpa using (h c rfl).2.1)

theorem scanFraction_append {ds rest : List Char} (hds : ∀ c ∈ ds, isDigit c = true)
    (hne : ds ≠ []) (hrest : NoDigitFirst rest) :
    scanFraction ('.' :: (ds ++ rest)) = (some ds, rest) := by
  obtain ⟨d, ds, rfl⟩ := List.exists_cons_of_ne_nil hne
  rw [scanFraction, digitRun_of_stops hds hrest]

theorem scanExponent_of_stops {rest : List Char} (h : Stops rest) :
    scanExponent rest = (none, rest) := by
  cases rest with
  | nil => rfl
  | cons c cs => simp [scanExponent, (h c rfl).2.2.1, (h c rfl).2.2.2]

/-- The sign of an exponent. -/
def signChar (negative : Bool) : Char := if negative then '-' else '+'

theorem scanSign_signChar (negative : Bool) (cs : List Char) :
    scanSign (signChar negative :: cs) = (negative, cs) := by
  cases negative <;> rfl

theorem scanExponent_append {ds rest : List Char} (negative : Bool)
    (hds : ∀ c ∈ ds, isDigit c = true) (hne : ds ≠ []) (hrest : NoDigitFirst rest) :
    scanExponent ('e' :: signChar negative :: (ds ++ rest)) =
      (some (signed negative (natOf ds)), rest) := by
  have run := digitRun_of_stops hds hrest
  obtain ⟨d, ds, rfl⟩ := List.exists_cons_of_ne_nil hne
  rw [List.cons_append] at run
  simp [scanExponent, scanSign_signChar, run]

theorem scanUnsigned_whole {ds rest : List Char} (negative : Bool) (h : IsWhole ds)
    (hrest : Stops rest) :
    scanUnsigned negative (ds ++ rest) = some (.int (signed negative (natOf ds)), rest) := by
  simp [scanUnsigned, scanWhole_append h hrest.noDigitFirst, scanFraction_of_stops hrest,
    scanExponent_of_stops hrest]

/-- A text without a sign that reads as one double before whatever does not prolong it. -/
def IsDecimal (cs : List Char) : Prop :=
  ∀ negative, ∃ x, ∀ rest, Stops rest →
    scanUnsigned negative (cs ++ rest) = some (.float x, rest)

theorem isDecimal_point {whole frac : List Char} (hw : IsWhole whole)
    (hf : ∀ c ∈ frac, isDigit c = true) (hne : frac ≠ []) : IsDecimal (whole ++ '.' :: frac) := by
  refine fun negative => ⟨float negative whole frac 0, fun rest hrest => ?_⟩
  have scanned : scanWhole (whole ++ '.' :: (frac ++ rest)) = some (whole, '.' :: (frac ++ rest)) :=
    scanWhole_append hw (noDigitFirst_cons (by decide) _)
  simp [scanUnsigned, scanned, scanFraction_append hf hne hrest.noDigitFirst,
    scanExponent_of_stops hrest]

theorem isDecimal_exponent {whole frac power : List Char} (lower : Bool) (hw : IsWhole whole)
    (hf : ∀ c ∈ frac, isDigit c = true) (hp : ∀ c ∈ power, isDigit c = true) (hne : power ≠ []) :
    IsDecimal (whole ++ (if frac.isEmpty then [] else '.' :: frac) ++
      'e' :: signChar lower :: power) := by
  intro negative
  refine ⟨float negative whole frac (signed lower (natOf power)), fun rest hrest => ?_⟩
  have exponent := scanExponent_append lower hp hne hrest.noDigitFirst
  cases frac with
  | nil =>
      have scanned := scanWhole_append hw (noDigitFirst_cons (c := 'e') (by decide)
        (signChar lower :: (power ++ rest)))
      have none : scanFraction ('e' :: signChar lower :: (power ++ rest)) = (none, _) :=
        scanFraction.eq_2 _ (by simp)
      simp [scanUnsigned, scanned, none, exponent]
  | cons d frac =>
      have scanned := scanWhole_append hw (noDigitFirst_cons (c := '.') (by decide)
        (d :: frac ++ 'e' :: signChar lower :: (power ++ rest)))
      have fraction := scanFraction_append hf (by simp)
        (noDigitFirst_cons (c := 'e') (by decide) (signChar lower :: (power ++ rest)))
      rw [List.cons_append] at scanned fraction
      simp [scanUnsigned, scanned, fraction, exponent]

theorem isDigit_of_mem_toDigits {n : Nat} {c : Char} (h : c ∈ Nat.toDigits 10 n) :
    isDigit c = true :=
  Nat.isDigit_of_mem_toDigits (by decide) (by decide) h

theorem head?_toDigits_ne_zero {n : Nat} (h : 0 < n) : (Nat.toDigits 10 n).head? ≠ some '0' := by
  induction n using Nat.strongRecOn with
  | _ n ih =>
      by_cases hn : n < 10
      · rw [Nat.toDigits_of_lt_base hn]
        have digit : ∀ k, k < 10 → 0 < k → ¬Nat.digitChar k = '0' := by decide
        simpa using digit n hn h
      · rw [Nat.toDigits_of_base_le (by decide) (by omega),
          List.head?_append_of_ne_nil _ Nat.toDigits_ne_nil]
        exact ih (n / 10) (by omega) (by omega)

theorem isWhole_toDigits (n : Nat) : IsWhole (Nat.toDigits 10 n) where
  digits _ := isDigit_of_mem_toDigits
  nonempty := Nat.toDigits_ne_nil
  noZero h := by
    by_cases hn : 0 < n
    · exact absurd h (head?_toDigits_ne_zero hn)
    · obtain rfl : n = 0 := by omega
      rfl

theorem isDigit_zeros : ∀ c ∈ ['0'], isDigit c = true := List.forall_mem_singleton.2 rfl

theorem isWhole_zero : IsWhole ['0'] := ⟨isDigit_zeros, List.cons_ne_nil _ _, fun _ => rfl⟩

theorem natOf_toDigits (n : Nat) : natOf (Nat.toDigits 10 n) = n :=
  Nat.ofDigitChars_ten_toDigits

theorem digitChar_of_isDigit {c : Char} (h : isDigit c = true) :
    c.toNat - 48 < 10 ∧ Nat.digitChar (c.toNat - 48) = c := by
  have range : 48 ≤ c.toNat ∧ c.toNat ≤ 57 := by
    rw [isDigit, Bool.and_eq_true, decide_eq_true_eq, decide_eq_true_eq] at h
    exact h
  refine ⟨by omega, Char.toNat_inj.mp ?_⟩
  rw [Nat.toNat_digitChar_of_lt_ten (by omega)]
  omega

theorem natOf_concat (ds : List Char) (c : Char) :
    natOf (ds ++ [c]) = 10 * natOf ds + (c.toNat - 48) := by
  rw [natOf, Nat.ofDigitChars_append, Nat.ofDigitChars_cons, Nat.ofDigitChars_nil]
  rfl

/-- Digits without a superfluous zero are those of the number that they denote. -/
theorem toDigits_natOf {ds : List Char} (h : IsWhole ds) : Nat.toDigits 10 (natOf ds) = ds := by
  induction ds using List.reverseRecOn with
  | nil => exact absurd rfl h.nonempty
  | append_singleton ds c ih =>
      obtain ⟨small, digit⟩ := digitChar_of_isDigit (h.digits c (by simp))
      rw [natOf_concat]
      by_cases hne : ds = []
      · subst hne
        rw [natOf, Nat.ofDigitChars_nil, Nat.mul_zero, Nat.zero_add,
          Nat.toDigits_of_lt_base small, digit, List.nil_append]
      · have notZero : ds.head? ≠ some '0' := fun zero => by
          have alone := h.noZero (by rw [List.head?_append_of_ne_nil _ hne, zero])
          exact hne (by simpa using congrArg List.dropLast alone)
        have whole := ih ⟨fun d hd => h.digits d (by simp [hd]), hne, fun zero => absurd zero notZero⟩
        have positive : 0 < natOf ds := Nat.pos_of_ne_zero fun zero => by
          rw [zero, Nat.toDigits_zero] at whole
          exact notZero (by rw [← whole]; rfl)
        rw [← Nat.toDigits_append_toDigits (by decide) positive small, whole,
          Nat.toDigits_of_lt_base small, digit]

theorem signed_natAbs (n : Int) : signed (decide (n < 0)) n.natAbs = n := by
  by_cases h : n < 0
  · rw [signed, decide_eq_true h, if_pos rfl]
    omega
  · rw [signed, decide_eq_false h, if_neg Bool.false_ne_true]
    omega

/-- A strict numeral starts with a digit. -/
theorem exists_digit_of_scanUnsigned {negative : Bool} {cs : List Char} {r : Number × List Char}
    (h : scanUnsigned negative cs = some r) : ∃ d ds, cs = d :: ds ∧ isDigit d = true := by
  cases cs with
  | nil => simp [scanUnsigned, scanWhole, digitRun] at h
  | cons d ds =>
      refine ⟨d, ds, rfl, ?_⟩
      by_contra hd
      have zero : d ≠ '0' := by
        rintro rfl
        exact hd rfl
      have none : scanWhole (d :: ds) = none := by
        rw [scanWhole.eq_2 _ (by simpa using zero)]
        simp [digitRun, hd]
      simp [scanUnsigned, none] at h

/-- A sign changes nothing but the sign that the rest is scanned with. -/
theorem scan_of_scanUnsigned {negative : Bool} {cs : List Char} {r : Number × List Char}
    (h : scanUnsigned negative cs = some r) :
    scan ((if negative then ['-'] else []) ++ cs) = some r := by
  obtain ⟨d, ds, rfl, hd⟩ := exists_digit_of_scanUnsigned h
  cases negative with
  | true => exact h
  | false =>
      have sign : d ≠ '-' := by
        rintro rfl
        exact absurd hd (by decide)
      exact (scan.eq_2 _ (by simpa using sign)).trans h

theorem scanUnsigned_writeInt (n : Int) {rest : List Char} (h : Stops rest) :
    scanUnsigned (decide (n < 0)) (Nat.toDigits 10 n.natAbs ++ rest) = some (.int n, rest) := by
  rw [scanUnsigned_whole _ (isWhole_toDigits _) h, natOf_toDigits, signed_natAbs]

end Numeral

namespace Double

theorem digits_trimmedDigits (n : Nat) : ∀ c ∈ trimmedDigits n, Numeral.isDigit c = true :=
  fun _ hc => Numeral.isDigit_of_mem_toDigits ((List.rdropWhile_prefix _ _).subset hc)

theorem trimmedDigits_ne_nil {n : Nat} (h : 0 < n) : trimmedDigits n ≠ [] := by
  intro hnil
  have zeros := List.rdropWhile_eq_nil_iff.1 hnil
  obtain ⟨d, ds, hds⟩ := List.exists_cons_of_ne_nil (Nat.toDigits_ne_nil (n := n) (b := 10))
  have hd := zeros d (by simp [hds])
  exact Numeral.head?_toDigits_ne_zero h (by simpa [hds] using hd)

theorem head?_trimmedDigits_ne_zero {n : Nat} (h : 0 < n) :
    (trimmedDigits n).head? ≠ some '0' := by
  obtain ⟨rest, happ⟩ := List.rdropWhile_prefix (· == '0') (Nat.toDigits 10 n)
  have head : (trimmedDigits n ++ rest).head? ≠ some '0' := by
    rw [show trimmedDigits n ++ rest = Nat.toDigits 10 n from happ]
    exact Numeral.head?_toDigits_ne_zero h
  rwa [List.head?_append_of_ne_nil _ (trimmedDigits_ne_nil h)] at head

/-- Digits that are laid out: those of a positive number, or a lone zero at the point. -/
inductive Layable : List Char → Int → Prop where
  | zero : Layable ['0'] 0
  | positive {ds : List Char} (lead : Int) (hds : ∀ c ∈ ds, Numeral.isDigit c = true)
      (hne : ds ≠ []) (hzero : ds.head? ≠ some '0') : Layable ds lead

theorem Layable.digits {ds : List Char} {lead : Int} (h : Layable ds lead) :
    ∀ c ∈ ds, Numeral.isDigit c = true := by
  cases h with
  | zero => exact Numeral.isDigit_zeros
  | positive _ hds _ _ => exact hds

theorem Layable.nonempty {ds : List Char} {lead : Int} (h : Layable ds lead) : ds ≠ [] := by
  cases h with
  | zero => decide
  | positive _ _ hne _ => exact hne

/-- The first digits, padded with zeros up to the point, make the whole part. -/
theorem Layable.isWhole_take {ds : List Char} {lead : Int} (h : Layable ds lead) {n : Nat}
    (hn : 0 < n) (hlead : lead = 0 → n = 1) :
    Numeral.IsWhole (ds.take n ++ List.replicate (n - ds.length) '0') := by
  cases h with
  | zero =>
      rw [hlead rfl]
      exact Numeral.isWhole_zero
  | positive _ hds hne hzero =>
      have head : (ds.take n ++ List.replicate (n - ds.length) '0').head? = ds.head? := by
        obtain ⟨d, ds, rfl⟩ := List.exists_cons_of_ne_nil hne
        obtain ⟨m, rfl⟩ : ∃ m, n = m + 1 := ⟨n - 1, by omega⟩
        rfl
      refine ⟨fun c hc => ?_, fun hnil => ?_, fun h0 => absurd (head ▸ h0) hzero⟩
      · rcases List.mem_append.1 hc with hc | hc
        · exact hds c (List.mem_of_mem_take hc)
        · exact (List.eq_of_mem_replicate hc) ▸ by decide
      · rw [hnil] at head
        exact hne (List.head?_eq_none_iff.1 head.symm)

theorem digits_padLeft (width n : Nat) :
    ∀ c ∈ padLeft width (Nat.toDigits 10 n), Numeral.isDigit c = true := by
  intro c hc
  rcases List.mem_append.1 hc with hc | hc
  · exact (List.eq_of_mem_replicate hc) ▸ by decide
  · exact Numeral.isDigit_of_mem_toDigits hc

theorem padLeft_ne_nil (width n : Nat) : padLeft width (Nat.toDigits 10 n) ≠ [] :=
  List.append_ne_nil_of_right_ne_nil _ Nat.toDigits_ne_nil

theorem isDecimal_layOut (style : DecimalStyle) {ds : List Char} {lead : Int}
    (h : Layable ds lead) : Numeral.IsDecimal (layOut style ds lead) := by
  have drops (n : Nat) : ∀ c ∈ ds.drop n, Numeral.isDigit c = true :=
    fun c hc => h.digits c (List.mem_of_mem_drop hc)
  unfold layOut
  split
  · split
    · apply Numeral.isDecimal_point (h.isWhole_take (by omega) (by omega))
      · split
        · exact Numeral.isDigit_zeros
        · exact drops _
      · split
        · decide
        · exact fun hnil => absurd (List.isEmpty_iff.2 hnil) ‹_›
    · refine Numeral.isDecimal_point Numeral.isWhole_zero ?_ ?_
      · intro c hc
        rcases List.mem_append.1 hc with hc | hc
        · exact (List.eq_of_mem_replicate hc) ▸ by decide
        · exact h.digits c hc
      · simp [h.nonempty]
  · have whole := h.isWhole_take Nat.one_pos fun _ => rfl
    have noPadding : 1 - ds.length = 0 := by
      have := List.length_pos_iff.2 h.nonempty
      omega
    have decimal := Numeral.isDecimal_exponent (decide (lead < 0)) whole (drops 1)
      (digits_padLeft style.exponentWidth lead.natAbs)
      (padLeft_ne_nil style.exponentWidth lead.natAbs)
    simpa [Numeral.signChar, noPadding] using decimal

theorem gridNeighbour_pos {i : Interval} {power : Int} {k : Nat}
    (h : gridNeighbour i power = some k) : 0 < k := by
  unfold gridNeighbour at h
  grind

theorem digits_searchGrids_pos (i : Interval) (place : Int) (fuel n : Nat) :
    0 < (searchGrids i place fuel n).digits := by
  induction fuel generalizing n with
  | zero =>
      rw [searchGrids]
      exact Nat.le_max_left 1 (i.value / i.den)
  | succ fuel ih =>
      rw [searchGrids]
      split
      · exact gridNeighbour_pos ‹_›
      · exact ih (n + 1)

theorem digits_shortest_pos (m : Nat) (e : Int) : 0 < (shortest m e).digits :=
  digits_searchGrids_pos _ _ 20 1

/-- The text of a finite double is a sign and digits that are laid out. -/
theorem toList_render_finite (style : DecimalStyle) (negative : Bool) (m : Nat) (e : Int) :
    ∃ ds lead, Layable ds lead ∧
      ((finite negative m e).render style).toList =
        (if negative then ['-'] else []) ++ layOut style ds lead := by
  by_cases hm : m = 0
  · refine ⟨['0'], 0, .zero, ?_⟩
    cases negative <;> simp [render, hm]
  · have pos := digits_shortest_pos m e
    refine ⟨trimmedDigits (shortest m e).digits,
      (shortest m e).power + (Nat.toDigits 10 (shortest m e).digits).length - 1,
      .positive _ (digits_trimmedDigits _) (trimmedDigits_ne_nil pos)
        (head?_trimmedDigits_ne_zero pos), ?_⟩
    cases negative <;> simp [render, hm]

end Double

namespace Json

open Numeral

/-- A number as its text is read: itself, or for a double what its digits name. -/
def rereadNumber (x : Number) : Number := ((scan (writeNumber x)).map (·.1)).getD x

variable {τ : Type}

/-- No keyword starts with a digit, or with a digit behind a minus sign. -/
theorem scanKeyword_digit {d : Char} (hd : isDigit d = true) (negative : Bool) (cs : List Char) :
    scanKeyword ((if negative then ['-'] else []) ++ d :: cs) =
      (none : Option (Token τ × List Char)) := by
  have ne (c : Char) (hc : isDigit c = false) : ¬c = d := by
    rintro rfl
    exact absurd hd (by simp [hc])
  have hn := ne 'n' rfl
  have ht := ne 't' rfl
  have hf := ne 'f' rfl
  have hN := ne 'N' rfl
  have hI := ne 'I' rfl
  have hm := ne '-' rfl
  cases negative <;> simp [scanKeyword, keywords, dropWord, *]

theorem scanNumber_of_scan {w rest : List Char} {x : Number}
    (h : scan (w ++ rest) = some (x, rest)) :
    scanNumber (w ++ rest) = some ((.number x : Token τ), rest) := by
  have left : (w ++ rest).length - rest.length = w.length := by simp
  rw [scanNumber, Glyph.map_shown, h, Option.map_some, left, List.drop_left]

variable [Texts τ]

theorem scanToken_of_plain {c : Char} (hc : c ∉ ['[', ']', '{', '}', ',', ':', '"'])
    (cs : List Char) :
    scanToken (c :: cs) =
      (scanKeyword (c :: cs)).or (scanNumber (c :: cs) : Option (Token τ × List Char)) := by
  rw [scanToken]
  split
  case h_1 | h_2 | h_3 | h_4 | h_5 | h_6 | h_7 => simp_all
  case h_8 => rfl

theorem scanToken_of_scanUnsigned {negative : Bool} {w rest : List Char} {x : Number}
    (h : scanUnsigned negative (w ++ rest) = some (x, rest)) :
    scanToken ((if negative then ['-'] else []) ++ w ++ rest) =
      some ((.number x : Token τ), rest) := by
  obtain ⟨d, ds, front, hd⟩ := exists_digit_of_scanUnsigned h
  have keyword : scanKeyword _ = (none : Option (Token τ × List Char)) :=
    scanKeyword_digit hd negative ds
  have scanned := scan_of_scanUnsigned h
  rw [← List.append_assoc] at scanned
  have number : scanNumber _ = some ((.number x : Token τ), rest) := scanNumber_of_scan scanned
  have plain (c : Char) (hc : c ∈ '-' :: [d]) : c ∉ ['[', ']', '{', '}', ',', ':', '"'] := by
    rintro hmem
    have marks : ∀ m ∈ ['[', ']', '{', '}', ',', ':', '"'], m ≠ '-' ∧ isDigit m = false := by
      simp [isDigit_eq]
    rcases List.mem_cons.1 hc with rfl | hc
    · exact (marks _ hmem).1 rfl
    · rw [List.mem_singleton.1 hc] at hmem
      exact absurd hd (by simp [(marks d hmem).2])
  rw [List.append_assoc, front] at number ⊢
  cases negative with
  | true =>
      rw [if_pos rfl, List.singleton_append] at keyword number ⊢
      rw [scanToken_of_plain (plain '-' (by simp)), keyword, number, Option.none_or]
  | false =>
      rw [if_neg (by decide), List.nil_append] at keyword number ⊢
      rw [scanToken_of_plain (plain d (by simp)), keyword, number, Option.none_or]

theorem scan_writeInt (n : Int) : scan (writeInt n) = some (.int n, []) := by
  simpa [writeInt] using scan_of_scanUnsigned (scanUnsigned_writeInt n stops_nil)

theorem rereadNumber_int (n : Int) : rereadNumber (.int n) = .int n := by
  rw [rereadNumber, writeNumber, scan_writeInt]
  rfl

/-- The decimal digits of an integer and their sign tell it. -/
theorem toString_int (n : Int) : toString n = String.ofList (writeInt n) := by
  cases n with
  | ofNat n => exact Nat.repr_eq_ofList_toDigits
  | negSucc n =>
      have digits : toString (Int.negSucc n) = "-" ++ (n + 1).repr := rfl
      rw [digits, Nat.repr_eq_ofList_toDigits, ← String.toList_inj]
      simp [writeInt, Int.negSucc_lt_zero]

theorem toString_int_inj {m n : Int} (h : toString m = toString n) : m = n := by
  rw [toString_int, toString_int, String.ofList_inj] at h
  simpa [h, scan_writeInt] using (scan_writeInt m).symm

/-- A written number is one token before whatever does not prolong it. -/
theorem scanToken_writeNumber (x : Number) {rest : List Char} (h : Stops rest) :
    scanToken (writeNumber x ++ rest) = some ((.number (rereadNumber x) : Token τ), rest) := by
  match x with
  | .int n =>
      rw [rereadNumber_int, writeNumber, writeInt]
      simpa using scanToken_of_scanUnsigned (scanUnsigned_writeInt n h)
  | .float .nan => rfl
  | .float (.infinite true) => rfl
  | .float (.infinite false) => rfl
  | .float (.finite negative m e) =>
      obtain ⟨ds, lead, layable, text⟩ := Double.toList_render_finite doubleStyle negative m e
      obtain ⟨y, read⟩ := Double.isDecimal_layOut doubleStyle layable negative
      have whole := scan_of_scanUnsigned (read [] stops_nil)
      rw [List.append_nil, ← text] at whole
      have same : rereadNumber (.float (.finite negative m e)) = .float y := by
        rw [rereadNumber, writeNumber, whole]
        rfl
      rw [same, writeNumber, text]
      exact scanToken_of_scanUnsigned (read rest h)

theorem writeNumber_ne_nil (x : Number) : writeNumber x ≠ [] := by
  intro hnil
  have read : scanToken ([] : List Char) = some ((.number (rereadNumber x) : Token), []) := by
    simpa [hnil] using scanToken_writeNumber x stops_nil
  exact Option.some_ne_none _ (read.symm.trans rfl)

end Json
end FleetPlan
