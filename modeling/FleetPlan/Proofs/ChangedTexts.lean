import FleetPlan.Proofs.FleetInputs

/-!
Drafts that differ in one text.

A single value is taken anywhere and can always be sent. So drafts of which one has another text
under some key, or none, are refused alike, or else registered with the same inputs under all other
keys, behind any two pasts in which the same was tried.
-/
namespace FleetPlan

/-- Results agree: the same failure, or values that are related. -/
inductive ResultsAgree {ε α β : Type} (R : α → β → Prop) : Except ε α → Except ε β → Prop
  | error (e : ε) : ResultsAgree R (.error e) (.error e)
  | ok {a : α} {b : β} : R a b → ResultsAgree R (.ok a) (.ok b)

namespace ResultsAgree

variable {ε α β α' β' : Type} {R : α → β → Prop} {S : α' → β' → Prop}

theorem bind {x : Except ε α} {y : Except ε β} (h : ResultsAgree R x y) {f : α → Except ε α'}
    {g : β → Except ε β'} (hf : ∀ a b, R a b → ResultsAgree S (f a) (g b)) :
    ResultsAgree S (x >>= f) (y >>= g) := by
  cases h with
  | error e => exact .error e
  | ok hab => exact hf _ _ hab

/-- What agrees is related by whatever follows from the relation and from where the values come. -/
theorem imp {R' : α → β → Prop} {x : Except ε α} {y : Except ε β} (h : ResultsAgree R x y)
    (himp : ∀ a b, x = .ok a → y = .ok b → R a b → R' a b) : ResultsAgree R' x y := by
  cases h with
  | error e => exact .error e
  | ok h => exact .ok (himp _ _ rfl rfl h)

theorem exists_of {x : Except ε α} {y : Except ε β} (h : ResultsAgree R x y) :
    (∃ e, x = .error e ∧ y = .error e) ∨ ∃ a b, x = .ok a ∧ y = .ok b ∧ R a b := by
  cases h with
  | error e => exact .inl ⟨e, rfl, rfl⟩
  | ok h => exact .inr ⟨_, _, rfl, rfl, h⟩

/-- Two computations that start alike agree if the rest of them does. -/
theorem bind_same {x : Except ε α} {f : α → Except ε α'} {g : α → Except ε β'}
    (hf : ∀ a, x = .ok a → ResultsAgree S (f a) (g a)) : ResultsAgree S (x >>= f) (x >>= g) := by
  cases x with
  | error e => exact .error e
  | ok a => exact hf a rfl

end ResultsAgree

/-! Pasts in which the same was tried. -/

namespace History

variable {past past' : History}

structure InStep (past past' : History) : Prop where
  attempts : past'.attempts = past.attempts
  length : past'.length = past.length

theorem InStep.find (h : past.InStep past') : past'.find = past.find := by
  funext ref
  rw [History.find, History.find, h.attempts]

theorem InStep.standIns (h : past.InStep past') (fuel : Nat) :
    past'.standIns fuel = past.standIns fuel := by
  induction fuel with
  | zero => rfl
  | succ fuel ih =>
      funext a
      rw [History.standIns, History.standIns, ih, children, children, h.attempts]

theorem InStep.expand (h : past.InStep past') : past'.expand = past.expand := by
  funext waited
  rw [History.expand, History.expand, h.length, h.standIns]

end History

/-! Properties that differ in one text. -/

theorem settleProperties_append (ps qs : Entries (Deferred Json)) :
    settleProperties (ps ++ qs) = do
      let a ← settleProperties ps
      let b ← settleProperties qs
      return a ++ b := by
  induction ps with
  | nil =>
      show settleProperties qs = settleProperties qs >>= _
      cases settleProperties qs <;> rfl
  | cons p ps ih =>
      obtain ⟨k, d⟩ := p
      rw [List.cons_append, settleProperties, settleProperties, ih]
      cases d.outcome with
      | error e => rfl
      | ok v =>
          cases settleProperties ps with
          | error e => rfl
          | ok a =>
              cases settleProperties qs with
              | error e => rfl
              | ok b =>
                  show Except.ok _ = Except.ok _
                  cases v.isNull <;> rfl

/-- A property that is known to be a text from these resources, or to be null and from none. -/
inductive Deferred.IsTextFrom (refs : List ResourceRef) (x : Deferred Json) : Prop where
  | null : x.outcome = .ok .null → refs = [] → IsTextFrom refs x
  | text (t : String) : x.outcome = .ok (.text t) → x.sources = refs → IsTextFrom refs x

/-- Two properties that fail alike, or that are texts, or null, from the same resources. -/
inductive Deferred.AreTexts (x y : Deferred Json) : Prop where
  | failed (e : Failure) : x.outcome = .error e → y.outcome = .error e → AreTexts x y
  | known {refs : List ResourceRef} : x.IsTextFrom refs → y.IsTextFrom refs → AreTexts x y

/-- Settled properties with at most a text from these resources under a key. -/
inductive IsSettledText (key : String) (refs : List ResourceRef) :
    Entries (Json × List ResourceRef) → Prop where
  | none : refs = [] → IsSettledText key refs []
  | text (t : String) : IsSettledText key refs [(key, .text t, refs)]

theorem Deferred.IsTextFrom.settle {refs : List ResourceRef} {x : Deferred Json}
    (h : x.IsTextFrom refs) (key : String) :
    ∃ qs, settleProperties [(key, x)] = .ok qs ∧ IsSettledText key refs qs := by
  cases h with
  | null hx hrefs =>
      refine ⟨[], ?_, .none hrefs⟩
      rw [settleProperties, hx]
      rfl
  | text t hx hrefs =>
      refine ⟨[(key, .text t, refs)], ?_, .text t⟩
      rw [settleProperties, hx, hrefs]
      rfl

/-- Settled properties that differ in what is a text under one key. -/
inductive SettledBut (key : String) :
    Entries (Json × List ResourceRef) → Entries (Json × List ResourceRef) → Prop where
  | mk {refs : List ResourceRef} (before after : Entries (Json × List ResourceRef))
      {one one' : Entries (Json × List ResourceRef)} :
      IsSettledText key refs one → IsSettledText key refs one' →
        SettledBut key (before ++ (one ++ after)) (before ++ (one' ++ after))

theorem SettledBut.prepend {key : String} {ps qs : Entries (Json × List ResourceRef)}
    (h : SettledBut key ps qs) (front : Entries (Json × List ResourceRef)) :
    SettledBut key (front ++ ps) (front ++ qs) := by
  obtain ⟨before, after, text, text'⟩ := h
  rw [← List.append_assoc, ← List.append_assoc front before]
  exact .mk _ after text text'

theorem settleProperties_agree {key : String} {x y : Deferred Json} (h : x.AreTexts y)
    (before after : Entries (Deferred Json)) :
    ResultsAgree (SettledBut key) (settleProperties (before ++ ([(key, x)] ++ after)))
      (settleProperties (before ++ ([(key, y)] ++ after))) := by
  have one : ResultsAgree (fun one one' => ∃ refs, IsSettledText key refs one ∧
      IsSettledText key refs one') (settleProperties [(key, x)]) (settleProperties [(key, y)]) := by
    cases h with
    | failed e hx hy =>
        simp only [settleProperties, hx, hy]
        exact .error e
    | @known refs hx hy =>
        obtain ⟨qs, hqs, text⟩ := hx.settle key
        obtain ⟨qs', hqs', text'⟩ := hy.settle key
        rw [hqs, hqs']
        exact .ok ⟨refs, text, text'⟩
  simp only [settleProperties_append]
  refine .bind_same fun front _ => ?_
  have rest : ResultsAgree (SettledBut key)
      (settleProperties [(key, x)] >>= fun ps => do return ps ++ (← settleProperties after))
      (settleProperties [(key, y)] >>= fun qs => do return qs ++ (← settleProperties after)) := by
    refine one.bind fun ps qs settled => ?_
    obtain ⟨refs, text, text'⟩ := settled
    exact .bind_same fun as _ => .ok (.mk [] as text text')
  exact rest.bind fun ps qs h => .ok (h.prepend front)

namespace Shape

theorem spellMembers_append (es fs : Entries Json) (fields : List (String × Shape)) :
    spellMembers (es ++ fs) fields = spellMembers es fields ++ spellMembers fs fields := by
  induction es with
  | nil => rfl
  | cons e es ih => rw [List.cons_append, spellMembers, spellMembers, ih, List.cons_append]

theorem takes_text (fields : List (String × Shape)) (key t : String) :
    takes fields key (.text t) = true := by
  unfold takes
  split
  case h_1 s _ => rw [spell_text, fits_text]
  case h_2 => rfl

end Shape

namespace IsSettledText

variable {key : String} {refs : List ResourceRef} {one : Entries (Json × List ResourceRef)}
  (h : IsSettledText key refs one)

include h

theorem sources : one.flatMap (·.2.2) = refs := by
  cases h with
  | none hrefs => exact hrefs.symm
  | text t => exact List.append_nil refs

theorem spelled {fields : List (String × Shape)} (hkey : Shape.keyOf fields key = key) :
    Shape.spellMembers (Entries.mapValues (·.1) one) fields = Entries.mapValues (·.1) one := by
  cases h with
  | none => rfl
  | text t =>
      show Shape.spellMembers [(key, .text t)] fields = [(key, .text t)]
      rw [Shape.spellMembers_eq_map fun e he => List.mem_singleton.mp he ▸ hkey, List.map_singleton,
        Shape.spelledAs_of_forall fun e _ _ => Shape.spell_text t e.2]

theorem takes (fields : List (String × Shape)) :
    ((Entries.mapValues (·.1) one).all fun e => Shape.takes fields e.1 e.2) = true := by
  cases h with
  | none => rfl
  | text t => exact (Bool.and_true _).trans (Shape.takes_text fields key t)

theorem isSendable (d : Draft) : d.isSendable (Entries.mapValues (·.1) one) = true := by
  rw [Draft.isSendable, Json.entriesSendable_eq_all, List.all_eq_true]
  intro e he
  cases h with
  | none => cases he
  | text t =>
      obtain rfl := List.mem_singleton.mp (List.mem_filter.mp he).1
      rfl

theorem arriving (d : Draft) :
    Entries.erase (d.arriving (Entries.mapValues (·.1) one)) key = [] := by
  refine List.filter_eq_nil_iff.mpr fun e he => ?_
  obtain ⟨e', he', rfl⟩ := List.mem_map.mp he
  cases h with
  | none => cases he'
  | text t =>
      obtain rfl := List.mem_singleton.mp (List.mem_filter.mp he').1
      simp

end IsSettledText

namespace Draft

/-- What can be sent, and what arrives, is found property by property. -/
theorem isSendable_append (d : Draft) (es fs : Entries Json) :
    d.isSendable (es ++ fs) = (d.isSendable es && d.isSendable fs) := by
  simp only [isSendable, Json.entriesSendable_eq_all, List.filter_append, List.all_append]

theorem arriving_append (d : Draft) (es fs : Entries Json) :
    d.arriving (es ++ fs) = d.arriving es ++ d.arriving fs := by
  simp only [arriving, List.filter_append, List.map_append]

end Draft

theorem Entries.erase_append {α : Type} (es fs : Entries α) (key : String) :
    erase (es ++ fs) key = erase es key ++ erase fs key := List.filter_append ..

namespace SettledBut

variable {key : String} {qs qs' : Entries (Json × List ResourceRef)} (h : SettledBut key qs qs')

include h

theorem sources : qs'.flatMap (·.2.2) = qs.flatMap (·.2.2) := by
  obtain ⟨before, after, text, text'⟩ := h
  simp only [List.flatMap_append, text.sources, text'.sources]

variable {d : Draft}

theorem accepts :
    d.ref.accepts (d.settledValues qs') = d.ref.accepts (d.settledValues qs) := by
  obtain ⟨before, after, text, text'⟩ := h
  simp only [ResourceRef.accepts, Draft.settledValues, ResourceRef.spelled,
    Shape.membersFit_spellMembers, Entries.mapValues, List.map_append, List.all_append]
  have one := text.takes d.ref.properties
  have one' := text'.takes d.ref.properties
  rw [Entries.mapValues] at one one'
  rw [one, one']

/-- Spelled, the properties still differ in what is a text under the key. -/
theorem settledValues_eq (hkey : Shape.keyOf d.ref.properties key = key) :
    ∃ before after one one' refs, IsSettledText key refs one ∧ IsSettledText key refs one' ∧
      d.settledValues qs = before ++ (Entries.mapValues (·.1) one ++ after) ∧
      d.settledValues qs' = before ++ (Entries.mapValues (·.1) one' ++ after) := by
  obtain ⟨before, after, text, text'⟩ := h
  refine ⟨d.settledValues before, d.settledValues after, _, _, _, text, text', ?_, ?_⟩
  · rw [← text.spelled hkey]
    simp only [Draft.settledValues, ResourceRef.spelled, Entries.mapValues, List.map_append,
      Shape.spellMembers_append]
  · rw [← text'.spelled hkey]
    simp only [Draft.settledValues, ResourceRef.spelled, Entries.mapValues, List.map_append,
      Shape.spellMembers_append]

theorem isSendable (hkey : Shape.keyOf d.ref.properties key = key) :
    d.isSendable (d.settledValues qs') = d.isSendable (d.settledValues qs) := by
  obtain ⟨before, after, one, one', refs, text, text', hqs, hqs'⟩ := h.settledValues_eq hkey
  rw [hqs, hqs']
  simp only [Draft.isSendable_append, text.isSendable, text'.isSendable]

theorem arriving (hkey : Shape.keyOf d.ref.properties key = key) :
    Entries.erase (d.arriving (d.settledValues qs')) key =
      Entries.erase (d.arriving (d.settledValues qs)) key := by
  obtain ⟨before, after, one, one', refs, text, text', hqs, hqs'⟩ := h.settledValues_eq hkey
  rw [hqs, hqs']
  simp only [Draft.arriving_append, Entries.erase_append, text.arriving, text'.arriving]

end SettledBut

/-! Drafts that differ in one text. -/

/-- A registration without what is registered under a key. -/
def Registration.without (r : Registration) (key : String) : Registration :=
  { r with inputs := Entries.erase r.inputs key }

theorem Registration.ref_of_without {r r' : Registration} {key : String}
    (h : r'.without key = r.without key) : r'.ref = r.ref := by
  have same := congrArg Registration.ref h
  exact same

namespace Draft

variable {d d' : Draft} {past past' : History} {key : String}

theorem settleRest_agree {qs qs' : Entries (Json × List ResourceRef)}
    (hkey : Shape.keyOf d.ref.properties key = key) (hpast : past.InStep past')
    (h : SettledBut key qs qs') :
    ResultsAgree (fun r r' => r'.without key = r.without key) (d.settleRest past qs)
      (d.settleRest past' qs') := by
  rw [settleRest, settleRest, h.accepts, h.isSendable hkey]
  split
  · exact .error _
  split
  · exact .error _
  refine .bind_same fun after _ => ?_
  have waited : d.waited past' qs' after = d.waited past qs after := by
    rw [Draft.waited, Draft.waited, h.sources, hpast.find]
  rw [waited, hpast.expand]
  refine .bind_same fun refs _ => .ok ?_
  rw [Registration.without, Registration.without, registration, registration, h.arriving hkey]

/-- Drafts that are equal but for a text under a key, or null, that comes from the same resources.
-/
inductive EqualBut (key : String) : Draft → Draft → Prop where
  | mk (d : Draft) (before after : Entries (Deferred Json)) {x y : Deferred Json} : x.AreTexts y →
      EqualBut key { d with properties := before ++ ([(key, x)] ++ after) }
        { d with properties := before ++ ([(key, y)] ++ after) }

theorem EqualBut.ref (h : d.EqualBut key d') : d'.ref = d.ref := by
  cases h
  rfl

theorem EqualBut.name (h : d.EqualBut key d') : d'.name = d.name := by
  cases h
  rfl

theorem EqualBut.placement (h : d.EqualBut key d') : d'.placement = d.placement := by
  cases h
  rfl

theorem EqualBut.isComponent (h : d.EqualBut key d') : d'.isComponent = d.isComponent := by
  cases h
  rfl

/-- Drafts that differ in one text are refused alike, or registered alike but for that text. -/
theorem EqualBut.settle (h : d.EqualBut key d') (hkey : Shape.keyOf d.ref.properties key = key)
    (hpast : past.InStep past') :
    ResultsAgree (fun r r' => r'.without key = r.without key) (d.settle past)
      (d'.settle past') := by
  obtain ⟨d, before, after, texts⟩ := h
  rw [settle_eq, settle_eq]
  refine .bind_same fun _ _ => .bind_same fun _ _ => ?_
  refine (settleProperties_agree texts before after).bind fun qs qs' hqs => ?_
  exact settleRest_agree (d := d) hkey hpast hqs

end Draft
end FleetPlan
