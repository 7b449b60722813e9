import FleetPlan.Plan.Basic
import FleetPlan.Proofs.DeferredValues
import FleetPlan.Proofs.Waiting

/-!
Runs of plans: what they do on the way and what they give.

Two sorts of statements are carried through the steps of a plan. `Plan.Ensures` holds of every run:
each event has a property, and so has the result if there is one. `Plan.Succeeds` speaks of one
site: if the cloud answers all that is asked there, the plan gives a result and nothing fails on the
way. Both follow the shape of the plan, so a plan that changes needs its own steps proved again and
no others.
-/
namespace FleetPlan

/-! Runs of single steps. -/

namespace Plan

variable {α β γ : Type}

theorem pure_bind (a : α) (f : α → Plan β) : (Pure.pure a >>= f) = f a := by
  funext s
  show (⟨_, [] ++ _⟩ : Traced Event (Except Failure β)) = _
  rw [Site.after_nil, List.nil_append]

theorem bind_pure (x : Plan α) : (x >>= Pure.pure) = x := by
  funext s
  cases h : (x s).answer with
  | ok a =>
      rw [bind_of_ok h]
      show (⟨.ok a, (x s).trace ++ []⟩ : Traced Event (Except Failure α)) = x s
      rw [List.append_nil, ← h]
  | error e => rw [bind_of_error h, ← h]

theorem bind_assoc (x : Plan α) (f : α → Plan β) (g : β → Plan γ) :
    (x >>= f >>= g) = (x >>= fun a => f a >>= g) := by
  funext s
  cases hx : (x s).answer with
  | error e =>
      have hf : ((x >>= f) s).answer = .error e := by rw [bind_of_error hx]
      rw [bind_of_error hf, bind_of_error hx, bind_of_error hx]
  | ok a =>
      have hxf := bind_of_ok hx f
      rw [bind_of_ok hx]
      cases hf : (f a (s.after (x s).trace)).answer with
      | error e =>
          have hxf' : ((x >>= f) s).answer = .error e := by rw [hxf, hf]
          rw [bind_of_error hxf', bind_of_error hf, hxf]
      | ok b =>
          have hxf' : ((x >>= f) s).answer = .ok b := by rw [hxf, hf]
          rw [bind_of_ok hxf', bind_of_ok hf, hxf, Site.after_after, List.append_assoc]

instance : LawfulMonad Plan := LawfulMonad.mk' Plan bind_pure pure_bind bind_assoc

theorem mem_trace_bind {x : Plan α} {f : α → Plan β} {s : Site} {e : Event}
    (h : e ∈ (x s).trace) : e ∈ ((x >>= f) s).trace := by
  cases hx : (x s).answer with
  | error _ => rwa [bind_of_error hx]
  | ok a =>
      rw [bind_of_ok hx]
      exact List.mem_append_left _ h

theorem mem_trace_bind_right {x : Plan α} {f : α → Plan β} {s : Site} {a : α}
    (hx : (x s).answer = .ok a) {e : Event} (h : e ∈ (f a (s.after (x s).trace)).trace) :
    e ∈ ((x >>= f) s).trace := by
  rw [bind_of_ok hx]
  exact List.mem_append_right _ h

theorem of_mem_trace_bind {x : Plan α} {f : α → Plan β} {s : Site} {e : Event}
    (h : e ∈ ((x >>= f) s).trace) :
    e ∈ (x s).trace ∨ ∃ a, (x s).answer = .ok a ∧ e ∈ (f a (s.after (x s).trace)).trace := by
  cases hx : (x s).answer with
  | error _ =>
      rw [bind_of_error hx] at h
      exact .inl h
  | ok a =>
      rw [bind_of_ok hx] at h
      exact (List.mem_append.mp h).imp_right fun h => ⟨a, rfl, h⟩

theorem bind_pure_run (x : Plan α) (g : α → β) (s : Site) :
    (x >>= fun a => Pure.pure (g a)) s = ⟨(x s).answer.map g, (x s).trace⟩ := by
  cases h : (x s).answer with
  | error e =>
      rw [bind_of_error h]
      rfl
  | ok a =>
      rw [bind_of_ok h]
      exact congrArg (Traced.mk _) (List.append_nil _)

theorem trace_bind_pure (x : Plan α) (g : α → β) (s : Site) :
    ((x >>= fun a => Pure.pure (g a)) s).trace = (x s).trace := by
  rw [bind_pure_run]

theorem ofExcept_ok (a : α) : (ofExcept (.ok a) : Plan α) = Pure.pure a := rfl

end Plan

/-- The resource that a plan gets for a draft: with outputs once registered, or with the failure. -/
def Draft.resource (d : Draft) (s : Site) : Resource where
  ref := d.ref
  outputs := (d.settle s.past).map fun r =>
    d.outputs (d.ref.urn s.project s.stack r.parent) (s.cloud.outputs d.ref r.inputs)
  isComponent := d.isComponent
  provider := d.placement.server
  offered := d.offered

/-- What is recorded when a draft is registered: the registration or the failure. -/
def Draft.event (d : Draft) (past : History) : Event :=
  match d.settle past with
  | .ok r => .registered r
  | .error e => .refused d.ref (d.placement.parent.map Resource.ref) d.isComponent e

/-- A draft that is at least tried: it has a name, and a provider if one is given. -/
structure Draft.Named (d : Draft) : Prop where
  name : d.name ≠ ""
  placement : d.placement.isSound = true

namespace Plan

theorem register_of_named {d : Draft} (h : d.Named) (s : Site) :
    register d s = ⟨.ok (d.resource s), [d.event s.past]⟩ := by
  simp only [register, if_neg h.name, h.placement, Bool.true_eq_false, if_false]
  have here : (site s).answer = .ok s := rfl
  rw [bind_of_ok here]
  show _ = (⟨_, _⟩ : Traced Event (Except Failure Resource))
  cases hs : d.settle s.past with
  | ok r =>
      simp only [Draft.resource, Draft.event, hs, Site.after, site, List.append_nil]
      rfl
  | error e =>
      simp only [Draft.resource, Draft.event, hs, Site.after, site, List.append_nil]
      rfl

/-- A draft without a name, or with a provider that is none, is not tried. -/
theorem register_eq_of_not_named {d : Draft} (h : ¬ d.Named) (s : Site) :
    register d s = ⟨.error (if d.name = "" then .notAName else .noSuchPart), []⟩ := by
  by_cases hname : d.name = ""
  · simp only [register, hname, if_true]
    rfl
  · cases hplace : d.placement.isSound with
    | true => exact absurd ⟨hname, hplace⟩ h
    | false =>
        simp only [register, hname, hplace, if_true, if_false]
        rfl

theorem register_of_not_named {d : Draft} (h : ¬ d.Named) (s : Site) :
    ∃ e, register d s = ⟨.error e, []⟩ := ⟨_, register_eq_of_not_named h s⟩

end Plan

/-- A question that is at least asked: its provider exists and its arguments can be sent. -/
structure Question.Askable (q : Question) (placement : Placement) : Prop where
  provider : placement.server.bind Provider.failure = none
  form : q.isWellFormed = true
  sendable : Json.entriesSendable q.arguments = true

namespace Plan

variable {α β γ : Type}

theorem ask_of_askable {q : Question} {placement : Placement} (h : q.Askable placement)
    (answer : Cloud → Except String α) (s : Site) :
    ask placement q answer s =
      ⟨(answer s.cloud).mapError fun reason => .callFailed q.token reason,
        [.asked (callOf placement q)]⟩ := by
  simp only [ask, h.provider, Failure.check, ofExcept, h.form, h.sendable, Bool.true_eq_false,
    if_false]
  cases ha : answer s.cloud with
  | ok a => simp only [Bind.bind, bind, emit, site, Site.after, ha]; rfl
  | error reason => simp only [Bind.bind, bind, emit, site, Site.after, ha]; rfl

theorem ask_of_not_askable {q : Question} {placement : Placement} (h : ¬ q.Askable placement)
    (answer : Cloud → Except String α) (s : Site) :
    ∃ e, ask placement q answer s = ⟨.error e, []⟩ := by
  cases hp : placement.server.bind Provider.failure with
  | some e =>
      refine ⟨e, ?_⟩
      simp only [ask, hp]
      rfl
  | none =>
      cases hf : q.isWellFormed with
      | false =>
          refine ⟨.wrongShape, ?_⟩
          simp only [ask, hp, hf, if_true]
          rfl
      | true =>
          cases hs : Json.entriesSendable q.arguments with
          | true => exact absurd ⟨hp, hf, hs⟩ h
          | false =>
              refine ⟨.integerTooLarge, ?_⟩
              simp only [ask, hp, hf, hs, Bool.true_eq_false, if_true, if_false]
              rfl

theorem trace_whenKnown {d : Deferred α} {a : α} (h : d.outcome = .ok a)
    (f : α → Plan (Deferred β)) (s : Site) : (whenKnown d f s).trace = (f a s).trace := by
  unfold whenKnown
  simp only [h]
  cases hr : f a s with
  | mk answer trace => cases answer <;> rfl

theorem trace_publish (component : Resource) (outputs : Entries (Deferred Json)) (s : Site) :
    (∃ v, (publish component outputs s).trace = [.published component.ref v]) ∨
      ∃ e, (publish component outputs s).trace = [.unpublished component.ref e] := by
  unfold publish
  cases component.failure? with
  | some e => exact .inr ⟨e, rfl⟩
  | none =>
      cases settleProperties outputs with
      | error e => exact .inr ⟨e, rfl⟩
      | ok settled => exact .inl ⟨_, rfl⟩

/-! What holds of every run. -/

/-- Every event of a run has a property, and so has the result if there is one. -/
def Ensures (A : Event → Prop) (P : α → Prop) (x : Plan α) (s : Site) : Prop :=
  (∀ e ∈ (x s).trace, A e) ∧ ∀ a, (x s).answer = .ok a → P a

section Ensures

variable {A : Event → Prop} {P : α → Prop} {Q : β → Prop} {s : Site}

theorem ensures_pure {a : α} (h : P a) : Ensures A P (Pure.pure a) s := by
  constructor
  · intro e he
    cases he
  · intro a' ha'
    cases ha'
    exact h

theorem ensures_of_error {x : Plan α} {e : Failure} (h : x s = ⟨.error e, []⟩) :
    Ensures A P x s := by
  rw [Ensures, h]
  constructor
  · intro e he
    cases he
  · intro a ha
    cases ha

theorem ensures_fail (e : Failure) : Ensures A P (fail e) s := ensures_of_error rfl

theorem Ensures.imp {P' : α → Prop} {x : Plan α} (h : Ensures A P x s)
    (himp : ∀ a, P a → P' a) : Ensures A P' x s :=
  ⟨h.1, fun a ha => himp a (h.2 a ha)⟩

theorem ensures_site : Ensures A (fun here => here = s) site s := by
  constructor
  · intro e he
    cases he
  · intro here hhere
    cases hhere
    rfl

theorem ensures_ofExcept {r : Except Failure α} (h : ∀ a, r = .ok a → P a) :
    Ensures A P (ofExcept r) s := by
  cases r with
  | ok a => exact ensures_pure (h a rfl)
  | error e => exact ensures_fail e

/-- The second of two plans is made where the first one's events have happened. -/
theorem Ensures.bind {x : Plan α} {f : α → Plan β} (hx : Ensures A P x s)
    (hf : ∀ a t, (∀ e ∈ t, A e) → P a → Ensures A Q (f a) (s.after t)) :
    Ensures A Q (x >>= f) s := by
  cases hr : (x s).answer with
  | error e =>
      rw [Ensures, bind_of_error hr]
      refine ⟨hx.1, fun b hb => ?_⟩
      cases hb
  | ok a =>
      have next := hf a (x s).trace hx.1 (hx.2 a hr)
      rw [Ensures, bind_of_ok hr]
      refine ⟨fun e he => ?_, next.2⟩
      exact (List.mem_append.mp he).elim (hx.1 e) (next.1 e)

theorem ensures_register {d : Draft} {P : Resource → Prop}
    (h : d.Named → A (d.event s.past) ∧ P (d.resource s)) : Ensures A P (register d) s := by
  by_cases hn : d.Named
  · rw [Ensures, register_of_named hn]
    refine ⟨fun e he => ?_, fun a ha => ?_⟩
    · rw [List.mem_singleton.mp he]
      exact (h hn).1
    · cases ha
      exact (h hn).2
  · obtain ⟨e, he⟩ := register_of_not_named hn s
    exact ensures_of_error he

theorem ensures_ask {placement : Placement} (h : ∀ q, A (.asked (callOf placement q)))
    (q : Question) (answer : Cloud → Except String α) :
    Ensures A (fun _ => True) (ask placement q answer) s := by
  by_cases hq : q.Askable placement
  · rw [Ensures, ask_of_askable hq]
    refine ⟨fun e he => ?_, fun _ _ => trivial⟩
    rw [List.mem_singleton.mp he]
    exact h _
  · obtain ⟨e, he⟩ := ask_of_not_askable hq answer s
    exact ensures_of_error he

theorem ensures_askText {placement : Placement} (h : ∀ q, A (.asked (callOf placement q)))
    (q : Question) (answer : Cloud → Except String Json) :
    Ensures A (fun _ => True) (askText placement q answer) s := by
  refine (ensures_ask h q answer).bind fun v _ _ _ => ?_
  split
  · exact (ensures_fail (P := fun _ => True) _).bind fun _ _ _ _ => ensures_pure trivial
  · exact ensures_pure trivial

theorem ensures_whenKnown {d : Deferred α} {f : α → Plan (Deferred β)}
    (h : ∀ a, Ensures A (fun _ => True) (f a) s) :
    Ensures A (fun _ => True) (whenKnown d f) s := by
  refine ⟨fun e he => ?_, fun _ _ => trivial⟩
  cases hd : d.outcome with
  | error e' =>
      unfold whenKnown at he
      rw [hd] at he
      cases he
  | ok a =>
      rw [trace_whenKnown hd] at he
      exact (h a).1 e he

theorem ensures_deferred {x : Plan α} (h : Ensures A (fun _ => True) x s) :
    Ensures A (fun _ => True) (deferred x) s :=
  ensures_whenKnown fun _ => h.bind fun _ _ _ _ => ensures_pure trivial

end Ensures

/-! What a run comes to when the cloud answers. -/

end Plan

/-- An answer that is well formed: a text where a name is asked for, at least one where several may
be listed. -/
def Cloud.Answers (c : Cloud) : Question → Prop
  | .region => ∃ t, c.region = .ok (.text t)
  | .parameter name => ∃ t, c.parameter name = .ok (.text t)
  | .image id => ∃ t rest, c.devices id = .ok (.text t :: rest)
  | .routing (.tableOfSubnet id) => ∃ t, c.routing.tableOfSubnet id = .ok t
  | .routing (.subnet id) => ∃ network, c.routing.networkOfSubnet id = .ok network
  | .routing (.mainTables network) => ∃ id ids, c.routing.mainTables network = .ok (id :: ids)
  | .routing (.table id) => ∃ t, c.routing.table id = .ok t

namespace Plan

variable {α β γ : Type}

/-- The cloud answers all that a run asks. -/
def Answered (x : Plan α) (s : Site) : Prop :=
  ∀ c, .asked c ∈ (x s).trace → s.cloud.Answers c.question

/-- If the cloud answers all that is asked, a run gives a result with a property, and nothing that it
tries fails. -/
def Succeeds (P : α → Prop) (x : Plan α) (s : Site) : Prop :=
  Answered x s → ∃ a t, x s = ⟨.ok a, t⟩ ∧ History.Unfailed t ∧ P a

section Succeeds

variable {P : α → Prop} {Q : β → Prop} {s : Site}

theorem succeeds_pure {a : α} (h : P a) : Succeeds P (Pure.pure a) s := by
  intro _
  exact ⟨a, [], rfl, History.unfailed_nil, h⟩

theorem succeeds_ofExcept {r : Except Failure α} {a : α} (hr : r = .ok a) (h : P a) :
    Succeeds P (ofExcept r) s := by
  rw [hr]
  exact succeeds_pure h

theorem Succeeds.bind {x : Plan α} {f : α → Plan β} (hx : Succeeds P x s)
    (hf : ∀ a t, History.Unfailed t → P a → Succeeds Q (f a) (s.after t)) :
    Succeeds Q (x >>= f) s := by
  intro answered
  obtain ⟨a, t, hxs, ht, ha⟩ := hx fun c hc => answered c (mem_trace_bind hc)
  have bound : (x >>= f) s = ⟨(f a (s.after t)).answer, t ++ (f a (s.after t)).trace⟩ := by
    have hok : (x s).answer = .ok a := by rw [hxs]
    rw [bind_of_ok hok, hxs]
  obtain ⟨b, t', hfs, ht', hb⟩ := hf a t ht ha fun c hc =>
    answered c (by rw [bound]; exact List.mem_append_right _ hc)
  refine ⟨b, t ++ t', ?_, History.unfailed_append ht ht', hb⟩
  rw [bound, hfs]

theorem Succeeds.and_ensures {A : Event → Prop} {P' : α → Prop} {x : Plan α}
    (h : Succeeds P x s) (he : Ensures A P' x s) : Succeeds (fun a => P a ∧ P' a) x s := by
  intro answered
  obtain ⟨a, t, hx, ht, ha⟩ := h answered
  refine ⟨a, t, hx, ht, ha, he.2 a ?_⟩
  rw [hx]

theorem succeeds_site : Succeeds (fun here => here = s) site s := by
  intro _
  exact ⟨s, [], rfl, History.unfailed_nil, rfl⟩

theorem succeeds_ask {q : Question} {placement : Placement} (hq : q.Askable placement)
    {answer : Cloud → Except String α}
    (h : s.cloud.Answers q → ∃ a, answer s.cloud = .ok a ∧ P a) :
    Succeeds P (ask placement q answer) s := by
  intro answered
  rw [Answered, ask_of_askable hq] at answered
  obtain ⟨a, ha, hP⟩ := h (answered _ (.head _))
  refine ⟨a, [.asked (callOf placement q)], ?_, ?_, hP⟩
  · rw [ask_of_askable hq, ha]
    rfl
  · intro attempt hattempt
    cases hattempt

theorem succeeds_askText {q : Question} {placement : Placement} (hq : q.Askable placement)
    {answer : Cloud → Except String Json}
    (h : s.cloud.Answers q → ∃ t, answer s.cloud = .ok (.text t)) :
    Succeeds (fun v => ∃ t, v = .text t) (askText placement q answer) s := by
  refine (succeeds_ask (P := fun v => ∃ t, v = Value.text t) hq fun ha => ?_).bind ?_
  · obtain ⟨t, ht⟩ := h ha
    exact ⟨_, ht, t, rfl⟩
  · rintro v _ _ ⟨t, rfl⟩
    rw [if_neg (by simp [Value.text?])]
    exact succeeds_pure ⟨t, Json.wire_text t⟩

theorem succeeds_whenKnown {d : Deferred α} (hd : d.Holds P) {f : α → Plan (Deferred β)}
    (hf : ∀ a, P a → Succeeds (fun b => b.Holds Q) (f a) s) :
    Succeeds (fun b => b.Holds Q) (whenKnown d f) s := by
  obtain ⟨a, ha, hP⟩ := hd
  intro answered
  have inner : Answered (f a) s := by
    intro c hc
    apply answered c
    rwa [trace_whenKnown ha]
  obtain ⟨b, t, hfs, ht, hb⟩ := hf a hP inner
  refine ⟨⟨b.outcome, d.sources ++ b.sources⟩, t, ?_, ht, hb⟩
  simp only [whenKnown, ha, hfs]

theorem succeeds_deferred {x : Plan α} (h : Succeeds P x s) :
    Succeeds (fun d => d.Holds P) (deferred x) s := by
  refine succeeds_whenKnown (Deferred.holds_pure (P := fun _ => True) trivial) fun _ _ => ?_
  exact h.bind fun a _ _ ha => succeeds_pure (Deferred.holds_pure ha)

end Succeeds
end Plan
end FleetPlan
