import FleetPlan.Proofs.FleetGate
import Mathlib.Data.List.Nodup

/-!
Groups of one's own that are planned to the end.

A group is complete when both of its resources are registered. Both are then settled from the drafts
that were made for the group, one behind the other, and whatever the drafts are made of is known.
-/
namespace FleetPlan

namespace Plan

variable {α β : Type}

theorem answer_bind_eq_ok {x : Plan α} {f : α → Plan β} {s : Site} {b : β} :
    ((x >>= f) s).answer = .ok b ↔
      ∃ a, (x s).answer = .ok a ∧ (f a (s.after (x s).trace)).answer = .ok b := by
  cases h : (x s).answer with
  | error e => simp [bind_of_error h]
  | ok a => simp [bind_of_ok h]

/-- Plans that start alike differ only where the rest of them does. -/
theorem bind_congr_at {x : Plan α} {f g : α → Plan β} {s : Site}
    (h : ∀ a t, f a (s.after t) = g a (s.after t)) : (x >>= f) s = (x >>= g) s := by
  cases hx : (x s).answer with
  | error e => rw [bind_of_error hx, bind_of_error hx]
  | ok a => rw [bind_of_ok hx, bind_of_ok hx, h]

theorem site_bind (f : Site → Plan β) (s : Site) : (site >>= f) s = f s s := by
  have here : (site s).answer = .ok s := rfl
  have quiet : (site s).trace = [] := rfl
  rw [bind_of_ok here, quiet, Site.after_nil, List.nil_append]

theorem named_of_answer {d : Draft} {s : Site} {m : Resource}
    (h : (register d s).answer = .ok m) : d.Named := by
  by_contra hn
  obtain ⟨e, he⟩ := register_of_not_named hn s
  rw [he] at h
  cases h

theorem named_of_mem_register {d : Draft} {s : Site} {e : Event} (h : e ∈ (register d s).trace) :
    d.Named := by
  by_contra hn
  obtain ⟨_, he⟩ := register_of_not_named hn s
  rw [he] at h
  cases h

end Plan

/-- What the cloud put out under a key for a registered resource, as it arrives. -/
def Registration.putOut (r : Registration) (c : Cloud) (key : String) : Json :=
  .ofOption (Entries.get? (Json.wireEntries (c.outputs r.ref r.inputs)) key)

/-- An output of a resource that is registered, but its unique name, is what the cloud put out. -/
theorem Draft.outcome_output {d : Draft} {s : Site} {r : Registration}
    (h : d.settle s.past = .ok r) (hcustom : d.isComponent = false) {key : String}
    (hurn : key ≠ "urn") (hinteger : key ∉ d.ref.integerOutputs) :
    ((d.resource s).output key).outcome = .ok (r.putOut s.cloud key) := by
  have arrived (sent : Entries Json) (urn : String) :
      Entries.get? (d.outputs urn sent) key = Entries.get? (Json.wireEntries sent) key := by
    have keyed := Entries.get?_map_keyed
      (fun k v => if d.ref.integerOutputs.contains k then v.integerPart else v)
      (Json.wireEntries sent) key
    simp only [outputs, hcustom, Entries.get?_put, if_neg hurn.symm, Bool.false_eq_true, if_false]
    rw [keyed]
    simp [hinteger]
  have outputs : (d.resource s).outputs = .ok _ := congrArg (Except.map _) h
  simp only [Resource.output, outputs, Except.map, arrived, Registration.putOut, ref_of_settle h]

/-! What a draft is registered with. -/

theorem Value.ofOption_map {g : Json → Json} (h : g .null = .null) (o : Option Json) :
    ofOption (o.map g) = g (ofOption o) := by
  cases o with
  | none => exact h.symm
  | some v => rfl

namespace Shape

/-- A value as it is spelled under a key of a record. -/
def spelledAs (fields : List (String × Shape)) (key : String) (v : Json) : Json :=
  match Entries.get? fields key with
  | some s => spell v s
  | none => v

theorem spelledAs_null (fields : List (String × Shape)) (key : String) :
    spelledAs fields key .null = .null := by
  unfold spelledAs
  split
  case h_1 s _ => cases s <;> rfl
  case h_2 => rfl

theorem spellMembers_eq_map {fields : List (String × Shape)} {es : Entries Json}
    (h : ∀ e ∈ es, keyOf fields e.1 = e.1) :
    spellMembers es fields = es.map fun e => (e.1, spelledAs fields e.1 e.2) := by
  induction es with
  | nil => rfl
  | cons e es ih =>
      obtain ⟨k, v⟩ := e
      have own : keyOf fields k = k := h (k, v) (.head es)
      rw [spellMembers, own, ih fun e he => h e (.tail _ he), List.map_cons]
      congr 1
      unfold spelledAs
      split <;> simp_all

end Shape

namespace Draft

variable {d : Draft} {past : History} {r : Registration}

/-- The properties of a draft have keys of their own, spelled as they are declared and not kept back,
and travel as data. -/
structure IsWellKeyed (d : Draft) : Prop where
  distinct : (Entries.keys d.properties).Nodup
  spelled : ∀ key ∈ Entries.keys d.properties, Shape.keyOf d.ref.properties key = key
  sent : ∀ key ∈ Entries.keys d.properties, Json.isReserved key = false
  unwritten : d.written = []

/-- Whether the keys are in order is a matter of the type alone. -/
theorem IsWellKeyed.of_keys (type : String) (keys : List String) (htype : d.type = type)
    (hkeys : Entries.keys d.properties = keys) (distinct : keys.Nodup)
    (spelled : ∀ key ∈ keys, Shape.keyOf (ResourceRef.mk type "").properties key = key)
    (sent : ∀ key ∈ keys, Json.isReserved key = false) (unwritten : d.written = []) :
    d.IsWellKeyed := by
  subst htype hkeys
  exact ⟨distinct, spelled, sent, unwritten⟩

theorem ofOption_get?_settled {ps : Entries (Deferred Json)}
    {qs : Entries (Json × List ResourceRef)} (h : settleProperties ps = .ok qs)
    (hdistinct : (Entries.keys ps).Nodup) {p : String × Deferred Json} (hp : p ∈ ps) {v : Json}
    (hv : p.2.outcome = .ok v) :
    Value.ofOption (Entries.get? (Entries.mapValues (·.1) qs) p.1) = v := by
  cases hnull : v.isNull with
  | false => rw [get?_settleProperties h hdistinct hp hv hnull]; rfl
  | true =>
      cases hfound : Entries.get? (Entries.mapValues (·.1) qs) p.1 with
      | none => cases v <;> first | rfl | cases hnull
      | some w =>
          -- Only the one property under this key can have been kept.
          obtain ⟨q, hq, hqw⟩ := List.mem_map.1 (Entries.mem_of_get? hfound)
          obtain ⟨p', hp', hkey, hout, _⟩ := settled_mem h hq
          obtain ⟨hsame, rfl⟩ := Prod.mk.inj hqw
          obtain rfl : p' = p := List.inj_on_of_nodup_map hdistinct hp' hp (hkey.trans hsame)
          exact Except.ok.inj (hout.symm.trans hv)

/-- A property is known, and registered as it is spelled and as it travels. -/
theorem IsWellKeyed.exists_input (hd : d.IsWellKeyed) (h : d.settle past = .ok r) (key : String)
    {x : Deferred Json} (hx : Entries.get? d.properties key = some x) :
    ∃ v, x.outcome = .ok v ∧ Value.ofOption (Entries.get? r.inputs key) =
      Json.wire (Shape.spelledAs d.ref.properties key v) := by
  have hp := Entries.mem_of_get? hx
  obtain ⟨v, hv⟩ := outcome_of_settle h hp
  refine ⟨v, hv, ?_⟩
  obtain ⟨qs, _, _, hqs, _, _, rfl⟩ := settle_eq_ok h
  have found := ofOption_get?_settled hqs hd.distinct hp hv
  have keys : ∀ e ∈ Entries.mapValues (·.1) qs, e.1 ∈ Entries.keys d.properties := by
    intro e he
    obtain ⟨q, hq, rfl⟩ := List.mem_map.1 he
    obtain ⟨p', hp', hkey, _⟩ := settled_mem hqs hq
    exact List.mem_map.2 ⟨p', hp', hkey⟩
  have spelled : d.settledValues qs = (Entries.mapValues (·.1) qs).map fun e =>
      (e.1, Shape.spelledAs d.ref.properties e.1 e.2) :=
    Shape.spellMembers_eq_map fun e he => hd.spelled _ (keys e he)
  have all : (d.settledValues qs).filter (fun e => !Json.isReserved e.1) = d.settledValues qs := by
    rw [List.filter_eq_self, spelled]
    intro e he
    obtain ⟨e', he', rfl⟩ := List.mem_map.1 he
    simp [hd.sent _ (keys e' he')]
  have arrives : d.arriving (d.settledValues qs) =
      (d.settledValues qs).map fun e => (e.1, e.2.wire) := by
    simp [arriving, all, hd.unwritten]
  show Value.ofOption (Entries.get? (d.arriving (d.settledValues qs)) key) = _
  rw [arrives, Entries.get?_map_keyed fun _ => Json.wire, spelled,
    Entries.get?_map_keyed (Shape.spelledAs d.ref.properties), Value.ofOption_map Json.wire_null,
    Value.ofOption_map (Shape.spelledAs_null _ _), found]

theorem IsWellKeyed.input_text (hd : d.IsWellKeyed) (h : d.settle past = .ok r) (key : String)
    {x : Deferred Json} (hx : Entries.get? d.properties key = some x) {t : String}
    (ht : x.outcome = .ok (.text t)) : Entries.get? r.inputs key = some (.text t) :=
  have hp := Entries.mem_of_get? hx
  get?_inputs_text h hd.distinct hd.spelled hp (hd.sent _ (List.mem_map.2 ⟨_, hp, rfl⟩)) ht

end Draft

namespace Fleet

open Plan

variable {name : String} {x : ClusterInput} {s : Site} {f : Fleet} {form : GroupForm}
  {m r : Registration}

/-- Both resources of a group are registered: the description of its machines as `m`, and what
scales them as `r`. -/
structure Completes (name : String) (x : ClusterInput) (s : Site) (f : Fleet) (form : GroupForm)
    (m r : Registration) : Prop where
  machine : .registered m ∈ f.history name x s form
  machineRef : m.ref = f.machineRef name
  scaler : .registered r ∈ f.history name x s form
  scalerRef : r.ref = f.scalerRef name

/-- A group in whose way nothing stands is complete. -/
theorem IsReady.exists_completes (h : f.IsReady name x s form)
    (hprofile : ¬ f.options.LacksProfile x.cluster)
    (hgroups : ¬ f.options.GroupConflicts x.cluster) : ∃ m r, f.Completes name x s form m r := by
  have exists_ {ref : ResourceRef} (href : ref ∈ f.refs name) :
      ∃ r, .registered r ∈ f.history name x s form ∧ r.ref = ref := by
    refine History.exists_registered ?_
    rw [h.registered hprofile hgroups ref href]
    exact .head _
  obtain ⟨m, machine, machineRef⟩ := exists_ (.head _)
  obtain ⟨r, scaler, scalerRef⟩ := exists_ (.tail _ (.head _))
  exact ⟨m, r, machine, machineRef, scaler, scalerRef⟩

/-- Both resources are settled from the same drafts. -/
theorem Completes.exists_drafts (h : f.Completes name x s form m r) :
    ∃ d here, f.AreAt name x (form.placement (f.self name) s) (form.site (f.self name) s) d here ∧
      d.machine.settle here.past = .ok m ∧
      (d.scaler (d.machine.resource here)).settle
        (here.past ++ [d.machine.event here.past]) = .ok r := by
  have other := machineRef_ne_scalerRef name f
  obtain ⟨d, here, at_, _, ⟨_, first⟩ | ⟨scaler, _⟩⟩ :=
    drafts_of_registered h.machine (h.machineRef ▸ .head _)
  · obtain ⟨d', here', at', _, ⟨machine, _⟩ | ⟨_, second⟩⟩ :=
      drafts_of_registered h.scaler (h.scalerRef ▸ .tail _ (.head _))
    · exact absurd (machine.symm.trans h.scalerRef) other
    · obtain rfl : d = d' := Except.ok.inj (at_.drafted.symm.trans at'.drafted)
      obtain rfl : here = here' := at_.behind.trans at'.behind.symm
      exact ⟨d, here, at_, first, second⟩
  · exact absurd (h.machineRef.symm.trans scaler) other

theorem answer_registerBoth {d : FleetDrafts} (hm : d.machine.Named)
    (hs : (d.scaler (d.machine.resource s)).Named) :
    (registerBoth d s).answer = .ok (d.pair, d.machine.resource s,
      (d.scaler (d.machine.resource s)).resource (s.after [d.machine.event s.past])) := by
  refine answer_bind_eq_ok.2 ⟨d.machine.resource s, by rw [register_of_named hm], ?_⟩
  rw [register_of_named hm]
  refine answer_bind_eq_ok.2 ⟨_, by rw [register_of_named hs], rfl⟩

/-- What scales the machines is registered only if both drafts are tried. -/
theorem named_of_mem_registerBoth {d : FleetDrafts} {e : Event}
    (h : e ∈ (registerBoth d s).trace) (hne : e ≠ d.machine.event s.past) :
    d.machine.Named ∧ (d.scaler (d.machine.resource s)).Named := by
  rcases of_mem_trace_bind h with first | ⟨machine, hanswer, second⟩
  · rw [register_of_named (named_of_mem_register first)] at first
    exact absurd (List.mem_singleton.1 first) hne
  · have named := named_of_answer hanswer
    rw [register_of_named named] at hanswer
    cases hanswer
    rw [trace_bind_pure] at second
    exact ⟨named, named_of_mem_register second⟩

theorem mem_drafts_of_mem_plan {placement : Placement} {e : Event}
    (h : e ∈ (f.plan name x placement s).trace) :
    f.options.check name = .ok () ∧ (e.IsSupport ∨ ∃ d here, f.AreAt name x placement s d here ∧
      e ∈ (registerBoth d here).trace) := by
  cases hchecked : f.options.check name with
  | error _ => rw [plan, hchecked] at h; cases h
  | ok _ =>
      rw [plan, hchecked, ofExcept_ok, Plan.pure_bind] at h
      refine ⟨rfl, ?_⟩
      have every : Ensures Event.IsSupport (fun d => d.Serves name f x.cluster)
          (f.drafts name x.cluster placement) s := ensures_drafts f
      rcases of_mem_trace_bind h with before | ⟨d, hd, behind⟩
      · exact .inl (every.1 e before)
      · exact .inr ⟨d, _, ⟨hd, rfl⟩, behind⟩

/-- A group that is complete is given back with both of its resources. -/
theorem Completes.exists_plan (h : f.Completes name x s form m r) :
    ∃ d here, f.AreAt name x (form.placement (f.self name) s) (form.site (f.self name) s) d here ∧
      d.machine.settle here.past = .ok m ∧
      (d.scaler (d.machine.resource here)).settle
        (here.past ++ [d.machine.event here.past]) = .ok r ∧
      f.options.check name = .ok () ∧
      (f.plan name x (form.placement (f.self name) s) (form.site (f.self name) s)).answer =
        .ok (d.pair, d.machine.resource here,
          (d.scaler (d.machine.resource here)).resource
            (here.after [d.machine.event here.past])) := by
  obtain ⟨d, here, at_, first, second⟩ := h.exists_drafts
  obtain ⟨planned, _⟩ := of_registered_history h.scaler (h.scalerRef ▸ .tail _ (.head _))
  rw [run_eq] at planned
  obtain ⟨checked, support | ⟨d', here', at', tried⟩⟩ := mem_drafts_of_mem_plan planned
  · have own : r.ref ∈ f.refs name := h.scalerRef ▸ .tail _ (.head _)
    exact absurd (type_mem_types own) (supportTypes_disjoint _ (support _ rfl).1)
  · obtain rfl : d = d' := Except.ok.inj (at_.drafted.symm.trans at'.drafted)
    obtain rfl : here = here' := at_.behind.trans at'.behind.symm
    have other : Event.registered r ≠ d.machine.event here.past := by
      intro same
      have own := Draft.ref_of_settle (Draft.settle_of_event same)
      exact machineRef_ne_scalerRef name f
        (at_.serves.machineRef.symm.trans (own.symm.trans h.scalerRef))
    obtain ⟨hm, hs⟩ := named_of_mem_registerBoth tried other
    refine ⟨d, here, at_, first, second, checked, ?_⟩
    rw [plan, checked, ofExcept_ok, Plan.pure_bind]
    refine answer_bind_eq_ok.2 ⟨d, at_.drafted, ?_⟩
    rw [← at_.behind]
    exact answer_registerBoth hm hs

end Fleet
end FleetPlan
