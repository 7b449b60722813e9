import FleetPlan.Fleet.ManagedGroup
import FleetPlan.Fleet.StackGroup
import FleetPlan.Fleet.TemplateGroup
import FleetPlan.Proofs.TwinRuns

/-!
Plans that do the same whatever groups were planned before them.

The past matters only where a resource waits for a component, for which all stand that were tried below
it so far. Where all components are groups and nothing that is planned comes from a group, a draft is
settled alike behind any two pasts, and a plan that is made of such drafts does the same there. Nothing is
said of plans that wait for a user's own components.
-/
namespace FleetPlan

/-- The types of the components that groups are planned as. -/
def groupTypes : List String :=
  [StackGroup.componentType, TemplateGroup.componentType, ManagedGroup.componentType]

/-! Values that come from no group. -/

namespace Deferred

variable {α β : Type}

/-- A value that comes from no group. -/
def Direct (d : Deferred α) : Prop := ∀ r ∈ d.sources, r.type ∉ groupTypes

theorem direct_of_sources_nil {d : Deferred α} (h : d.sources = []) : d.Direct := by
  intro r hr
  rw [h] at hr
  cases hr

theorem direct_pure (a : α) : (Pure.pure a : Deferred α).Direct := direct_of_sources_nil rfl

theorem direct_fail (e : Failure) : (fail e : Deferred α).Direct := direct_of_sources_nil rfl

theorem direct_ofExcept (r : Except Failure α) : (ofExcept r).Direct := direct_of_sources_nil rfl

theorem direct_ofOption (o : Option α) : (ofOption o).Direct := by
  cases o with
  | some a => exact direct_pure a
  | none => exact direct_fail _

theorem Direct.bind {x : Deferred α} {f : α → Deferred β} (h : x.Direct)
    (hf : ∀ a, x.outcome = .ok a → (f a).Direct) : (x >>= f).Direct := by
  intro r hr
  cases hx : x.outcome with
  | error e =>
      have own : (x >>= f).sources = x.sources := by simp [Bind.bind, Deferred.bind, hx]
      rw [own] at hr
      exact h r hr
  | ok a =>
      rw [sources_bind_ok hx] at hr
      exact (List.mem_append.1 hr).elim (h r) (hf a hx r)

theorem Direct.map {x : Deferred α} (h : x.Direct) (f : α → β) :
    (do return f (← x) : Deferred β).Direct := h.bind fun _ _ => direct_pure _

theorem direct_all {ds : List (Deferred α)} (h : ∀ d ∈ ds, d.Direct) : (all ds).Direct := by
  induction ds with
  | nil => exact direct_pure _
  | cons d ds ih =>
      refine (h d (.head _)).bind fun a _ => ?_
      exact (ih fun d' hd' => h d' (.tail _ hd')).map fun as => a :: as

end Deferred

theorem Resource.direct_output {r : Resource} (h : r.ref.type ∉ groupTypes) (key : String) :
    (r.output key).Direct := by
  rintro ref href
  rw [sources_output, List.mem_singleton] at href
  exact href ▸ h

/-! Pasts in which all components are groups. -/

/-- If an event tries a component, then a group. -/
def Event.IsGrouped (e : Event) : Prop :=
  ∀ a, e.attempt? = some a → a.isComponent = true → a.ref.type ∈ groupTypes

theorem Event.isGrouped_of_silent {e : Event} (h : e.attempt? = none) : e.IsGrouped := by
  intro a ha
  rw [h] at ha
  cases ha

theorem Draft.isGrouped_event {d : Draft} (h : d.isComponent = true → d.type ∈ groupTypes)
    (past : History) : (d.event past).IsGrouped := by
  intro a ha
  rw [attempt?_event] at ha
  cases ha
  exact h

namespace History

/-- All components are groups. -/
def Grouped (past : History) : Prop := ∀ e ∈ past, e.IsGrouped

theorem Grouped.append {past more : History} (h : past.Grouped) (hmore : more.Grouped) :
    (past ++ more).Grouped :=
  fun e he => (List.mem_append.1 he).elim (h e) (hmore e)

theorem find_of_grouped {past : History} (h : past.Grouped) {ref : ResourceRef}
    (href : ref.type ∉ groupTypes) : past.find ref = ⟨ref, none, false, none⟩ := by
  have custom : (past.attempts.any fun a => a.ref = ref && a.isComponent) = false := by
    rw [List.any_eq_false]
    intro a ha found
    obtain ⟨e, he, hea⟩ := List.mem_filterMap.1 ha
    rw [Bool.and_eq_true, decide_eq_true_eq] at found
    exact href (found.1 ▸ h e he a hea found.2)
  rw [find, custom]

/-- The past plays no part where no component is waited for. -/
theorem expand_of_custom {waited : List Attempt} (h : ∀ a ∈ waited, a.isComponent = false)
    (past past' : History) : past.expand waited = past'.expand waited := by
  have alone (a : Attempt) (ha : a ∈ waited) :
      past.standIns (past.length + 1) a = past'.standIns (past'.length + 1) a := by
    simp only [standIns, h a ha, Bool.false_eq_true, if_false]
  have all : ∀ as : List Attempt, (∀ a ∈ as, a ∈ waited) →
      as.mapM (past.standIns (past.length + 1)) = as.mapM (past'.standIns (past'.length + 1)) := by
    intro as has
    induction as with
    | nil => rfl
    | cons a as ih =>
        rw [List.mapM_cons, List.mapM_cons, alone a (has a (.head _)),
          ih fun b hb => has b (.tail _ hb)]
  rw [expand, expand, all waited fun _ ha => ha]

end History

/-! Drafts that are settled alike. -/

/-- A draft that relies on no group, and is a group if it is a component. -/
structure Draft.Direct (d : Draft) : Prop where
  component : d.isComponent = true → d.type ∈ groupTypes
  properties : ∀ p ∈ d.properties, p.2.Direct
  after : d.after.Direct
  waited : ∀ rs, d.after.outcome = .ok rs → ∀ r ∈ rs, r.isComponent = false

namespace Draft

variable {d : Draft} {past past' : History}

/-- What a draft waits for is the same behind either past, and none of it a component. -/
theorem Direct.expand_eq (h : d.Direct) (hpast : past.Grouped) (hpast' : past'.Grouped)
    {qs : Entries (Json × List ResourceRef)} (hqs : settleProperties d.properties = .ok qs)
    {after : List Resource} (hafter : d.after.outcome = .ok after) :
    past.expand (d.waited past qs after) = past'.expand (d.waited past' qs after) := by
  have sources : ∀ ref ∈ qs.flatMap (·.2.2) ++ d.after.sources, ref.type ∉ groupTypes := by
    intro ref href
    rcases List.mem_append.1 href with own | other
    · obtain ⟨q, hq, href⟩ := List.mem_flatMap.1 own
      obtain ⟨p, hp, _, _, from_⟩ := settled_mem hqs hq
      exact h.properties p hp ref (from_ ▸ href)
    · exact h.after ref other
  have found : (qs.flatMap (·.2.2) ++ d.after.sources).map past.find =
      (qs.flatMap (·.2.2) ++ d.after.sources).map past'.find :=
    List.map_congr_left fun ref href => by
      rw [History.find_of_grouped hpast (sources ref href),
        History.find_of_grouped hpast' (sources ref href)]
  rw [Draft.waited, Draft.waited, found]
  refine History.expand_of_custom (fun a ha => ?_) past past'
  rcases List.mem_append.1 ha with own | other
  · obtain ⟨ref, href, rfl⟩ := List.mem_map.1 own
    rw [History.find_of_grouped hpast' (sources ref href)]
  · obtain ⟨r, hr, rfl⟩ := List.mem_map.1 other
    exact h.waited after hafter r hr

/-- A draft that relies on no group is settled alike behind any two pasts whose components are groups. -/
theorem Direct.settle_eq (h : d.Direct) (hpast : past.Grouped) (hpast' : past'.Grouped) :
    d.settle past = d.settle past' := by
  rw [Draft.settle_eq, Draft.settle_eq]
  refine except_bind_congr fun _ _ => except_bind_congr fun _ _ => ?_
  refine except_bind_congr fun qs hqs => ?_
  rw [settleRest, settleRest]
  split
  · rfl
  split
  · rfl
  refine except_bind_congr fun after hafter => ?_
  rw [h.expand_eq hpast hpast' hqs hafter]

end Draft

/-! Plans that do the same behind either past. -/

/-- Sites that differ only in what happened there, and all components there are groups. -/
structure Site.Beside (s t : Site) : Prop extends s.Alike t where
  past : s.past.Grouped
  past' : t.past.Grouped

theorem Site.Beside.after {s t : Site} (h : s.Beside t) {more : History} (hmore : more.Grouped) :
    (s.after more).Beside (t.after more) :=
  ⟨h.toAlike.after more more, h.past.append hmore, h.past'.append hmore⟩

namespace Plan

variable {α β : Type}

/-- A plan that does the same at two sites side by side. It tries no components but groups, and its
result has a property. -/
def Framed (P : α → Prop) (x : Plan α) : Prop :=
  ∀ s t, s.Beside t → x s = x t ∧ Ensures Event.IsGrouped P x s

variable {P : α → Prop} {Q : β → Prop}

theorem framed_pure {a : α} (h : P a) : Framed P (Pure.pure a) :=
  fun _ _ _ => ⟨rfl, ensures_pure h⟩

theorem framed_fail (e : Failure) : Framed P (fail e) := fun _ _ _ => ⟨rfl, ensures_fail e⟩

theorem framed_ofExcept {r : Except Failure α} (h : ∀ a, r = .ok a → P a) :
    Framed P (ofExcept r) := by
  cases r with
  | ok a => exact framed_pure (h a rfl)
  | error e => exact framed_fail e

theorem framed_emit {e : Event} (h : e.IsGrouped) : Framed (fun _ => True) (emit e) :=
  fun _ _ _ => ⟨rfl, fun _ he => List.mem_singleton.1 he ▸ h, fun _ _ => trivial⟩

theorem Framed.imp {P' : α → Prop} {x : Plan α} (h : Framed P x) (himp : ∀ a, P a → P' a) :
    Framed P' x :=
  fun s t beside => ⟨(h s t beside).1, (h s t beside).2.1,
    fun a ha => himp a ((h s t beside).2.2 a ha)⟩

theorem Framed.bind {x : Plan α} {f : α → Plan β} (hx : Framed P x)
    (hf : ∀ a, P a → Framed Q (f a)) : Framed Q (x >>= f) := by
  intro s t beside
  obtain ⟨same, grouped, result⟩ := hx s t beside
  refine ⟨?_, Ensures.bind ⟨grouped, result⟩ fun a u hu ha => ?_⟩
  · cases h : (x s).answer with
    | error e => rw [bind_of_error h, bind_of_error (same ▸ h), same]
    | ok a =>
        have next := (hf a (result a h) _ _ (beside.after grouped)).1
        rw [bind_of_ok h, bind_of_ok (same ▸ h), ← same, next]
  · exact (hf a ha _ _ ⟨⟨rfl, rfl, rfl⟩, beside.past.append hu, beside.past.append hu⟩).2

/-- A plan that looks at its site, but not at what happened there. -/
theorem framed_site_bind {f : Site → Plan β} (hf : ∀ s, Framed Q (f s))
    (hpast : ∀ s t : Site, s.Alike t → f s = f t) : Framed Q (site >>= f) := by
  intro s t beside
  have here (s : Site) : (site >>= f) s = f s s := by
    have own : (site s).answer = .ok s := rfl
    rw [bind_of_ok own]
    show (⟨(f s (s.after [])).answer, [] ++ (f s (s.after [])).trace⟩ : Traced _ _) = _
    rw [Site.after_nil, List.nil_append]
  rw [here, here, ← hpast s t beside.toAlike]
  refine ⟨(hf s s t beside).1, ?_⟩
  rw [Ensures, here]
  exact (hf s s t beside).2

theorem framed_register {d : Draft} (h : d.Direct) : Framed (fun r => r.ref = d.ref) (register d) := by
  intro s t beside
  refine ⟨?_, ensures_register fun _ => ⟨Draft.isGrouped_event h.component _, rfl⟩⟩
  have settled := h.settle_eq beside.past beside.past'
  by_cases named : d.Named
  · rw [register_of_named named, register_of_named named]
    simp only [Draft.resource, Draft.event, settled, beside.project, beside.stack, beside.cloud]
  · rw [register_eq_of_not_named named, register_eq_of_not_named named]

/-- A plan that asks and does nothing else depends on the cloud alone. -/
theorem framed_of_cloud {x : Plan α} (hx : ∀ s t : Site, s.cloud = t.cloud → x s = x t)
    (hasks : ∀ s, Ensures (fun e => e.attempt? = none) P x s) : Framed P x :=
  fun s t beside => ⟨hx s t beside.cloud,
    fun e he => Event.isGrouped_of_silent ((hasks s).1 e he), (hasks s).2⟩

theorem framed_ask (placement : Placement) (q : Question) (answer : Cloud → Except String α) :
    Framed (fun _ => True) (ask placement q answer) := by
  have stopped (e : Failure) (f : Unit → Plan α) : Framed (fun _ => True) (fail e >>= f) :=
    (framed_fail e : Framed (fun _ => True) (fail e : Plan α))
  refine (framed_ofExcept (P := fun _ => True) fun _ _ => trivial).bind fun _ _ => ?_
  dsimp only
  split
  · exact stopped _ _
  split
  · exact stopped _ _
  refine (framed_emit (Event.isGrouped_of_silent rfl)).bind fun _ _ => ?_
  refine framed_site_bind (fun here => ?_) fun here there alike => by rw [alike.cloud]
  cases answer here.cloud with
  | ok a => exact framed_pure trivial
  | error reason => exact framed_fail _

theorem framed_askText (placement : Placement) (q : Question)
    (answer : Cloud → Except String Json) :
    Framed (fun _ => True) (askText placement q answer) := by
  refine (framed_ask placement q answer).bind fun v _ => ?_
  split
  · exact (framed_fail (P := fun _ => True) _).bind fun _ _ => framed_pure trivial
  · exact framed_pure trivial

theorem framed_whenKnown {d : Deferred α} (hd : d.Direct) {f : α → Plan (Deferred β)}
    (hf : ∀ a, Framed Deferred.Direct (f a)) : Framed Deferred.Direct (whenKnown d f) := by
  intro s t beside
  cases h : d.outcome with
  | error e =>
      have known (s : Site) : whenKnown d f s = ⟨.ok ⟨.error e, d.sources⟩, []⟩ := by
        simp only [whenKnown, h]
      rw [Ensures, known s, known t]
      refine ⟨rfl, List.forall_mem_nil _, fun r hr => ?_⟩
      cases hr
      exact hd
  | ok a =>
      obtain ⟨same, grouped, result⟩ := hf a s t beside
      simp only [Ensures, whenKnown, h, ← same, true_and]
      cases hr : f a s with
      | mk answer trace =>
          rw [hr] at grouped result
          cases answer with
          | error e =>
              refine ⟨grouped, fun r h => ?_⟩
              cases h
              exact hd
          | ok b =>
              refine ⟨grouped, fun r h => ?_⟩
              cases h
              exact fun ref href => (List.mem_append.1 href).elim (hd ref) (result b rfl ref)

theorem framed_deferred {x : Plan α} (h : Framed (fun _ => True) x) :
    Framed Deferred.Direct (deferred x) :=
  framed_whenKnown (Deferred.direct_pure ()) fun _ => h.bind fun _ _ =>
    framed_pure (Deferred.direct_pure _)

theorem framed_publish (component : Resource) (outputs : Entries (Deferred Json)) :
    Framed (fun _ => True) (publish component outputs) := by
  unfold publish
  split
  · exact framed_emit (Event.isGrouped_of_silent rfl)
  · exact framed_emit (Event.isGrouped_of_silent rfl)
  · exact framed_emit (Event.isGrouped_of_silent rfl)

theorem framed_chooseSubnets (placement : Placement) (ids : List Json) :
    Framed (fun _ => True) (chooseSubnets placement ids) := by
  refine framed_of_cloud (fun s t same => ?_) fun s => ensures_chooseSubnets (fun _ => rfl) _
  have routes : routesInEffect placement s = routesInEffect placement t := by
    funext id
    simp only [routesInEffect, same]
  simp only [chooseSubnets, routes]

end Plan
end FleetPlan
