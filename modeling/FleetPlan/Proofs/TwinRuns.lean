import FleetPlan.Proofs.FleetCompletion

/-!
Two runs at sites that differ only in what happened there before.

Values of the two runs agree when they are the same once both are known, and plans do when their
results are related whenever both have one. A cloud puts out the same for the same inputs, so plans
that are made alike agree, whatever they stand below and whoever serves them; nothing is said of a
run that fails where the other does not.
-/
namespace FleetPlan

namespace Deferred

variable {α β : Type}

/-- The same once both are known. -/
def Agrees (x y : Deferred α) : Prop := ∀ a b, x.outcome = .ok a → y.outcome = .ok b → a = b

theorem agrees_refl (x : Deferred α) : x.Agrees x :=
  fun _ _ hx hy => Except.ok.inj (hx.symm.trans hy)

theorem Agrees.bind {x y : Deferred α} {f g : α → Deferred β} (h : x.Agrees y)
    (hf : ∀ a, (f a).Agrees (g a)) : (x >>= f).Agrees (y >>= g) := by
  intro b c hb hc
  obtain ⟨a, ha, hb⟩ := outcome_bind_eq_ok.1 hb
  obtain ⟨a', ha', hc⟩ := outcome_bind_eq_ok.1 hc
  obtain rfl := h a a' ha ha'
  exact hf a b c hb hc

end Deferred

open Deferred

/-- Sites of one project, stack and cloud. -/
structure Site.Alike (s t : Site) : Prop where
  project : s.project = t.project
  stack : s.stack = t.stack
  cloud : s.cloud = t.cloud

theorem Site.Alike.after {s t : Site} (h : s.Alike t) (u v : History) :
    (s.after u).Alike (t.after v) := ⟨h.project, h.stack, h.cloud⟩

namespace Plan

variable {α β γ δ : Type}

/-- Results at sites alike are related whenever there are two. -/
def Agrees (R : α → β → Prop) (x : Plan α) (y : Plan β) : Prop :=
  ∀ s t, s.Alike t → ∀ a b, (x s).answer = .ok a → (y t).answer = .ok b → R a b

variable {R : α → β → Prop} {S : γ → δ → Prop}

theorem agrees_pure {a : α} {b : β} (h : R a b) : Agrees R (Pure.pure a) (Pure.pure b) := by
  intro s t _ a' b' ha hb
  cases ha
  cases hb
  exact h

theorem agrees_fail (e : Failure) (y : Plan β) : Agrees R (fail e) y := by
  intro s t _ a b ha
  cases ha

theorem Agrees.bind {x : Plan α} {y : Plan β} {f : α → Plan γ} {g : β → Plan δ}
    (h : Agrees R x y) (hf : ∀ a b, R a b → Agrees S (f a) (g b)) :
    Agrees S (x >>= f) (y >>= g) := by
  intro s t alike c d hc hd
  obtain ⟨a, ha, hc⟩ := answer_bind_eq_ok.1 hc
  obtain ⟨b, hb, hd⟩ := answer_bind_eq_ok.1 hd
  exact hf a b (h s t alike a b ha hb) _ _ (alike.after _ _) c d hc hd

/-- What is planned behind a value is known only if the value is. -/
theorem exists_of_whenKnown {d : Deferred α} {f : α → Plan (Deferred β)} {s : Site}
    {r : Deferred β} {b : β} (hr : (whenKnown d f s).answer = .ok r) (hb : r.outcome = .ok b) :
    ∃ a c, d.outcome = .ok a ∧ (f a s).answer = .ok c ∧ c.outcome = .ok b := by
  unfold whenKnown at hr
  cases hd : d.outcome with
  | error e =>
      rw [hd] at hr
      cases hr
      cases hb
  | ok a =>
      rw [hd] at hr
      cases hf : f a s with
      | mk answer trace =>
          cases answer with
          | error e =>
              simp only [hf] at hr
              cases hr
              cases hb
          | ok c =>
              simp only [hf] at hr
              cases hr
              exact ⟨a, c, rfl, congrArg Traced.answer hf, hb⟩

theorem agrees_whenKnown {d e : Deferred α} {f g : α → Plan (Deferred β)} (h : d.Agrees e)
    (hf : ∀ a, Agrees Deferred.Agrees (f a) (g a)) :
    Agrees Deferred.Agrees (whenKnown d f) (whenKnown e g) := by
  intro s t alike r r' hr hr' b b' hb hb'
  obtain ⟨a, c, ha, hc, hcb⟩ := exists_of_whenKnown hr hb
  obtain ⟨a', c', ha', hc', hcb'⟩ := exists_of_whenKnown hr' hb'
  obtain rfl := h a a' ha ha'
  exact hf a s t alike c c' hc hc' b b' hcb hcb'

theorem of_answer_ask {placement : Placement} {q : Question} {answer : Cloud → Except String α}
    {s : Site} {a : α} (h : (ask placement q answer s).answer = .ok a) :
    answer s.cloud = .ok a := by
  by_cases hq : q.Askable placement
  · rw [ask_of_askable hq] at h
    cases hanswer : answer s.cloud with
    | ok a' =>
        rw [hanswer] at h
        exact congrArg Except.ok (Except.ok.inj h)
    | error reason =>
        rw [hanswer] at h
        cases h
  · obtain ⟨e, he⟩ := ask_of_not_askable hq answer s
    rw [he] at h
    cases h

/-- The same question has the same answer, whoever asks it. -/
theorem agrees_ask (placement placement' : Placement) (q : Question)
    (answer : Cloud → Except String α) :
    Agrees Eq (ask placement q answer) (ask placement' q answer) := by
  intro s t alike a b ha hb
  have answered := of_answer_ask ha
  rw [alike.cloud, of_answer_ask hb] at answered
  exact (Except.ok.inj answered).symm

theorem agrees_askText (placement placement' : Placement) (q : Question)
    (answer : Cloud → Except String Json) :
    Agrees Eq (askText placement q answer) (askText placement' q answer) := by
  refine (agrees_ask placement placement' q answer).bind ?_
  rintro v _ rfl
  dsimp only
  split
  · exact agrees_fail _ _
  · exact agrees_pure rfl

end Plan

/-- Drafts of one resource whose properties agree. -/
structure Draft.Agrees (d e : Draft) : Prop where
  ref : d.ref = e.ref
  isComponent : d.isComponent = e.isComponent
  written : d.written = e.written
  properties : List.Forall₂ (fun p q => p.1 = q.1 ∧ p.2.Agrees q.2) d.properties e.properties

/-- Resources that put out the same, but perhaps for their unique names. -/
def Resource.Agrees (m n : Resource) : Prop :=
  ∀ key, key ≠ "urn" → (m.output key).Agrees (n.output key)

theorem Resource.agrees_refl (m : Resource) : m.Agrees m := fun _ _ => Deferred.agrees_refl _

theorem settleProperties_cons {k : String} {x : Deferred Json} {ps : Entries (Deferred Json)}
    {qs : Entries (Json × List ResourceRef)} (h : settleProperties ((k, x) :: ps) = .ok qs) :
    ∃ v rest, x.outcome = .ok v ∧ settleProperties ps = .ok rest ∧
      qs = if v.isNull then rest else (k, v, x.sources) :: rest := by
  rw [settleProperties] at h
  cases hx : x.outcome with
  | error e =>
      rw [hx] at h
      cases h
  | ok v =>
      cases hrest : settleProperties ps with
      | error e =>
          rw [hx, hrest] at h
          cases h
      | ok rest =>
          rw [hx, hrest] at h
          exact ⟨v, rest, rfl, rfl, (Except.ok.inj h).symm⟩

theorem settledValues_eq {ps qs : Entries (Deferred Json)}
    (h : List.Forall₂ (fun p q => p.1 = q.1 ∧ p.2.Agrees q.2) ps qs)
    {ps' qs' : Entries (Json × List ResourceRef)} (hps : settleProperties ps = .ok ps')
    (hqs : settleProperties qs = .ok qs') :
    Entries.mapValues (·.1) ps' = Entries.mapValues (·.1) qs' := by
  induction h generalizing ps' qs' with
  | nil =>
      cases hps
      cases hqs
      rfl
  | @cons p q ps qs hpq _ ih =>
      obtain ⟨k, x⟩ := p
      obtain ⟨_, y⟩ := q
      obtain ⟨rfl, agree⟩ := hpq
      obtain ⟨v, rest, hx, hrest, rfl⟩ := settleProperties_cons hps
      obtain ⟨w, rest', hy, hrest', rfl⟩ := settleProperties_cons hqs
      obtain rfl := agree v w hx hy
      have same := ih hrest hrest'
      dsimp only
      split
      · exact same
      · exact congrArg ((k, v) :: ·) same

theorem Draft.Agrees.inputs {d e : Draft} (h : d.Agrees e) {past past' : History}
    {r r' : Registration} (hr : d.settle past = .ok r) (hr' : e.settle past' = .ok r') :
    r.inputs = r'.inputs := by
  obtain ⟨qs, _, _, hqs, _, _, rfl⟩ := settle_eq_ok hr
  obtain ⟨qs', _, _, hqs', _, _, rfl⟩ := settle_eq_ok hr'
  have same := settledValues_eq h.properties hqs hqs'
  simp only [registration, settledValues, arriving, same, h.ref, h.written]

/-- An output of a resource that is known is one that the cloud put out for its inputs. -/
theorem Draft.of_outcome_output {d : Draft} {s : Site} {key : String} {v : Json}
    (h : ((d.resource s).output key).outcome = .ok v) :
    ∃ r urn, d.settle s.past = .ok r ∧
      v = .ofOption (Entries.get? (d.outputs urn (s.cloud.outputs d.ref r.inputs)) key) := by
  cases hd : d.settle s.past with
  | ok r =>
      simp only [Resource.output, resource, hd, Except.map] at h
      exact ⟨r, _, rfl, (Except.ok.inj h).symm⟩
  | error e =>
      simp only [Resource.output, resource, hd, Except.map] at h
      cases h

/-- A resource of which an output is known is registered. -/
theorem Plan.registered_of_answer {d : Draft} {s : Site} {m : Resource} {key : String} {v : Json}
    (h : (register d s).answer = .ok m) (hv : (m.output key).outcome = .ok v) :
    ∃ r, d.settle s.past = .ok r ∧ m = d.resource s ∧ .registered r ∈ (register d s).trace := by
  have named := register_of_named (named_of_answer h) s
  rw [named] at h ⊢
  cases h
  obtain ⟨r, _, settled, _⟩ := Draft.of_outcome_output hv
  refine ⟨r, settled, rfl, ?_⟩
  rw [Draft.event, settled]
  exact .head _

theorem Draft.get?_outputs {d e : Draft} (href : d.ref = e.ref)
    (hcomponent : d.isComponent = e.isComponent) (urn urn' : String) (sent : Entries Json)
    {key : String} (hkey : key ≠ "urn") :
    Entries.get? (d.outputs urn sent) key = Entries.get? (e.outputs urn' sent) key := by
  simp only [outputs, Entries.get?_put, if_neg hkey.symm, href, hcomponent]

theorem Draft.Agrees.resource {d e : Draft} (h : d.Agrees e) {s t : Site} (alike : s.Alike t) :
    (d.resource s).Agrees (e.resource t) := by
  intro key hkey v w hv hw
  obtain ⟨r, urn, hr, rfl⟩ := of_outcome_output hv
  obtain ⟨r', urn', hr', rfl⟩ := of_outcome_output hw
  rw [alike.cloud, h.inputs hr hr', h.ref,
    get?_outputs h.ref h.isComponent urn urn' _ hkey]

theorem Plan.agrees_register {d e : Draft} (h : d.Agrees e) :
    Plan.Agrees Resource.Agrees (register d) (register e) := by
  intro s t alike m n hm hn
  rw [register_of_named (named_of_answer hm)] at hm
  rw [register_of_named (named_of_answer hn)] at hn
  cases hm
  cases hn
  exact h.resource alike

/-! What is settled for a group before its machines are described. -/

open Plan

theorem answer_classifySubnets_congr {σ γ ε : Type}
    {routesOf routesOf' : σ → Traced γ (Except ε (List Route))}
    (h : ∀ id, (routesOf id).answer = (routesOf' id).answer) (ids : List σ) :
    (classifySubnets routesOf ids).answer = (classifySubnets routesOf' ids).answer := by
  induction ids with
  | nil => rfl
  | cons id ids ih =>
      cases hr : (routesOf id).answer with
      | error e =>
          rw [classifySubnets_of_error hr, classifySubnets_of_error ((h id).symm.trans hr)]
      | ok routes =>
          rw [classifySubnets_of_ok hr, classifySubnets_of_ok ((h id).symm.trans hr), ih]

section Subnets

variable {placement placement' : Placement}

theorem answer_routesInEffect (hserver : placement.server.bind Provider.failure = none) (s : Site)
    (subnet : Json) :
    (routesInEffect placement s subnet).answer =
      (s.cloud.directory.tableInEffect subnet).answer := by
  simp only [routesInEffect, hserver]
  rfl

variable (hserver : placement.server.bind Provider.failure = none)
  (hserver' : placement'.server.bind Provider.failure = none)

include hserver hserver'

theorem agrees_chooseSubnets (ids : List Json) :
    Plan.Agrees Eq (chooseSubnets placement ids) (chooseSubnets placement' ids) := by
  intro s t alike a b ha hb
  have routes (id : Json) :
      (routesInEffect placement s id).answer = (routesInEffect placement' t id).answer := by
    rw [answer_routesInEffect hserver, answer_routesInEffect hserver', alike.cloud]
  have same : (chooseSubnets placement ids s).answer = (chooseSubnets placement' ids t).answer := by
    simp only [chooseSubnets, answer_workerSubnets, answer_classifySubnets_congr routes]
  exact Except.ok.inj (ha.symm.trans (same.trans hb))

theorem agrees_chooseAmong (every : Json) :
    Plan.Agrees Eq (chooseAmong placement every) (chooseAmong placement' every) := by
  unfold chooseAmong
  split
  · split
    · refine (agrees_chooseSubnets hserver hserver' _).bind ?_
      rintro ids _ rfl
      exact agrees_pure rfl
    · exact agrees_fail _ _
  · exact agrees_pure rfl

theorem agrees_workerSubnetIds (asked : Option (Deferred Json)) (cluster : Deferred Cluster) :
    Plan.Agrees Deferred.Agrees (workerSubnetIds asked cluster placement)
      (workerSubnetIds asked cluster placement') := by
  unfold workerSubnetIds
  split
  · exact agrees_pure (agrees_refl _)
  · refine agrees_whenKnown (agrees_refl _) fun ⟨inside, outside, every⟩ => ?_
    refine Plan.Agrees.bind (R := Eq) ?_ ?_
    · simp only [firstSet_pure]
      cases inside.set? with
      | some v => exact agrees_pure rfl
      | none =>
          cases outside.set? with
          | some v => exact agrees_pure rfl
          | none =>
              refine Plan.Agrees.bind (R := Eq) ?_ ?_
              · refine (agrees_chooseAmong hserver hserver' every).bind ?_
                rintro chosen _ rfl
                exact agrees_pure rfl
              · rintro found _ rfl
                cases found with
                | some v => exact agrees_pure rfl
                | none => exact agrees_pure rfl
    · rintro found _ rfl
      exact agrees_pure (agrees_refl _)

end Subnets

theorem agrees_imageId (m : Machine) (version : Deferred Json) (placement placement' : Placement) :
    Plan.Agrees Deferred.Agrees (m.imageId version placement) (m.imageId version placement') := by
  unfold Machine.imageId
  split
  · exact agrees_pure (agrees_refl _)
  · refine agrees_whenKnown (agrees_refl _) fun v => (agrees_askText _ _ _ _).bind ?_
    rintro id _ rfl
    exact agrees_pure (agrees_refl _)

theorem agrees_properties (ps : Entries (Deferred Json)) :
    List.Forall₂ (fun p q : String × Deferred Json => p.1 = q.1 ∧ p.2.Agrees q.2) ps ps :=
  List.forall₂_same.2 fun _ _ => ⟨rfl, agrees_refl _⟩

/-- Pairs of which both resources put out the same. -/
structure GroupPair.Agrees (p q : GroupPair) : Prop where
  group : p.group.Agrees q.group
  rule : p.rule.Agrees q.rule

section Pair

variable {placement placement' : Placement}

theorem agrees_registerAll (ds es : List Draft) :
    Plan.Agrees (fun _ _ => True) (GroupPair.registerAll ds) (GroupPair.registerAll es) :=
  fun _ _ _ _ _ _ _ => trivial

theorem agrees_createPair (name : String) (cluster : Deferred Cluster) :
    Plan.Agrees GroupPair.Agrees (GroupPair.create name cluster placement)
      (GroupPair.create name cluster placement') := by
  refine Plan.Agrees.bind (agrees_register ⟨rfl, rfl, rfl, agrees_properties _⟩) ?_
  intro group group' hgroup
  refine Plan.Agrees.bind (agrees_registerAll _ _) fun _ _ _ => ?_
  refine Plan.Agrees.bind (agrees_register ⟨rfl, rfl, rfl, ?_⟩) ?_
  · exact List.rel_append (agrees_properties _) (.cons ⟨rfl, hgroup "id" (by decide)⟩ .nil)
  · intro rule rule' hrule
    exact agrees_pure ⟨hgroup, hrule⟩

theorem agrees_obtainPair (name : String) (firewall : Firewall) (cluster : Deferred Cluster) :
    Plan.Agrees GroupPair.Agrees (GroupPair.obtain name firewall cluster placement)
      (GroupPair.obtain name firewall cluster placement') := by
  unfold GroupPair.obtain
  split
  · exact agrees_createPair name cluster
  · exact agrees_pure ⟨Resource.agrees_refl _, Resource.agrees_refl _⟩
  · exact agrees_fail _ _

theorem agrees_keyOf (name : String) (access : Access) :
    Plan.Agrees Deferred.Agrees (Preparation.keyOf name access placement)
      (Preparation.keyOf name access placement') := by
  unfold Preparation.keyOf
  split
  · refine Plan.Agrees.bind (agrees_register ⟨rfl, rfl, rfl, agrees_properties _⟩) ?_
    exact fun pair pair' h => agrees_pure (h "keyName" (by decide))
  · exact agrees_pure (agrees_refl _)

end Pair

namespace GroupPair

variable {p q : GroupPair}

theorem Agrees.groupId (h : p.Agrees q) : p.groupId.Agrees q.groupId :=
  Deferred.Agrees.bind (h.group "id" (by decide)) fun _ =>
    Deferred.Agrees.bind (h.rule "id" (by decide)) fun _ => agrees_refl _

theorem Agrees.nodeGroupId (h : p.Agrees q) (firewall : Firewall) (cluster : Deferred Cluster) :
    (nodeGroupId p firewall cluster).Agrees (nodeGroupId q firewall cluster) := by
  unfold GroupPair.nodeGroupId
  split
  · exact h.groupId
  · exact h.groupId.bind fun _ => agrees_refl _

end GroupPair

namespace Preparation

/-- Preparations of which every value agrees. -/
structure Agrees (p q : Preparation) : Prop where
  groupIds : p.groupIds.Agrees q.groupIds
  profileArn : p.profileArn.Agrees q.profileArn
  keyName : p.keyName.Agrees q.keyName
  imageId : p.imageId.Agrees q.imageId
  subnets : p.subnets.Agrees q.subnets
  tail : p.tail = q.tail
  capacity : p.capacity = q.capacity

theorem agrees_make {placement placement' : Placement}
    (hserver : placement.server.bind Provider.failure = none)
    (hserver' : placement'.server.bind Provider.failure = none) (name : String) (o : WorkerOptions)
    (cluster : Deferred Cluster) :
    Plan.Agrees Agrees (make name o cluster placement) (make name o cluster placement') := by
  refine Plan.Agrees.bind (agrees_obtainPair name o.firewall cluster) fun pair pair' hpair => ?_
  refine Plan.Agrees.bind (agrees_keyOf name o.access) fun key key' hkey => ?_
  refine Plan.Agrees.bind (agrees_imageId o.machine _ _ _) fun image image' himage => ?_
  refine Plan.Agrees.bind (agrees_workerSubnetIds hserver hserver' _ cluster) ?_
  intro subnets subnets' hsubnets
  refine agrees_pure ⟨?_, agrees_refl _, hkey, himage, hsubnets, rfl, rfl⟩
  refine Deferred.Agrees.bind ?_ fun _ => agrees_refl _
  exact (hpair.nodeGroupId o.firewall cluster).bind fun _ => agrees_refl _

end Preparation
end FleetPlan
