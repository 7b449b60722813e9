import FleetPlan.Proofs.PlanRuns
import FleetPlan.Proofs.PropertyForms

/-!
When a draft is registered, and as what.

A draft that is registered has all its properties known, waits for what they come from, and sends
them as they arrive. A draft is registered if its properties are known and taken and what it stands
below or waits for has not failed; if some of its properties fail, so does the registration, and
with the failure of one of them.
-/
namespace FleetPlan

theorem except_bind_eq_ok {ε α β : Type} {x : Except ε α} {f : α → Except ε β} {b : β} :
    (x >>= f) = .ok b ↔ ∃ a, x = .ok a ∧ f a = .ok b := by
  cases x with
  | error e =>
      constructor
      · intro h
        cases h
      · rintro ⟨_, h, _⟩
        cases h
  | ok a =>
      constructor
      · exact fun h => ⟨a, rfl, h⟩
      · rintro ⟨_, h, hf⟩
        cases h
        exact hf

theorem except_bind_congr {ε α β : Type} {x : Except ε α} {f g : α → Except ε β}
    (h : ∀ a, x = .ok a → f a = g a) : (x >>= f) = (x >>= g) := by
  cases x with
  | error e => rfl
  | ok a => exact h a rfl

theorem Failure.check_eq_ok {e : Option Failure} {u : Unit} : Failure.check e = .ok u ↔ e = none := by
  cases e with
  | none => simp [check]
  | some e => simp [check]

section Properties

variable {ps : Entries (Deferred Json)} {qs : Entries (Json × List ResourceRef)}

/-- Settled properties are all known, and those that are not null are kept with their sources. -/
theorem mem_of_settleProperties (h : settleProperties ps = .ok qs) {p : String × Deferred Json}
    (hp : p ∈ ps) :
    ∃ v, p.2.outcome = .ok v ∧ (v.isNull = false → (p.1, v, p.2.sources) ∈ qs) := by
  induction ps generalizing qs with
  | nil => cases hp
  | cons p' ps ih =>
      obtain ⟨k, d⟩ := p'
      rw [settleProperties] at h
      cases hd : d.outcome with
      | error e => rw [hd] at h; cases h
      | ok v =>
          cases hrest : settleProperties ps with
          | error e => rw [hd, hrest] at h; cases h
          | ok rest =>
              rw [hd, hrest] at h
              cases h
              cases hp with
              | head =>
                  refine ⟨v, hd, fun hv => ?_⟩
                  rw [hv]
                  exact .head _
              | tail _ hp =>
                  obtain ⟨w, hw, kept⟩ := ih hrest hp
                  refine ⟨w, hw, fun hv => ?_⟩
                  split
                  · exact kept hv
                  · exact .tail _ (kept hv)

theorem settled_mem (h : settleProperties ps = .ok qs) {q : String × Json × List ResourceRef}
    (hq : q ∈ qs) : ∃ p ∈ ps, p.1 = q.1 ∧ p.2.outcome = .ok q.2.1 ∧ p.2.sources = q.2.2 := by
  induction ps generalizing qs with
  | nil => cases h; cases hq
  | cons p ps ih =>
      obtain ⟨k, d⟩ := p
      rw [settleProperties] at h
      cases hd : d.outcome with
      | error e => rw [hd] at h; cases h
      | ok v =>
          cases hrest : settleProperties ps with
          | error e => rw [hd, hrest] at h; cases h
          | ok rest =>
              rw [hd, hrest] at h
              cases h
              have later (hq : q ∈ rest) :
                  ∃ p ∈ (k, d) :: ps, p.1 = q.1 ∧ p.2.outcome = .ok q.2.1 ∧ p.2.sources = q.2.2 := by
                obtain ⟨p, hp, hpq⟩ := ih hrest hq
                exact ⟨p, .tail _ hp, hpq⟩
              split at hq
              · exact later hq
              · cases hq with
                | head => exact ⟨_, .head _, rfl, hd, rfl⟩
                | tail _ hq => exact later hq

theorem get?_settleProperties (h : settleProperties ps = .ok qs) (hdistinct : (Entries.keys ps).Nodup)
    {p : String × Deferred Json} (hp : p ∈ ps) {v : Json} (hv : p.2.outcome = .ok v)
    (hnull : v.isNull = false) :
    Entries.get? (Entries.mapValues (·.1) qs) p.1 = some v := by
  induction ps generalizing qs with
  | nil => cases hp
  | cons p' ps ih =>
      obtain ⟨k, d⟩ := p'
      obtain ⟨fresh, hdistinct⟩ := List.nodup_cons.mp hdistinct
      rw [settleProperties] at h
      cases hd : d.outcome with
      | error e => rw [hd] at h; cases h
      | ok w =>
          cases hrest : settleProperties ps with
          | error e => rw [hd, hrest] at h; cases h
          | ok rest =>
              rw [hd, hrest] at h
              cases h
              cases hp with
              | head =>
                  rw [hd] at hv
                  cases hv
                  simp [hnull, Entries.mapValues, Entries.get?]
              | tail _ hp =>
                  have other : k ≠ p.1 := by
                    rintro rfl
                    exact fresh (List.mem_map.mpr ⟨p, hp, rfl⟩)
                  have kept := ih hrest hdistinct hp
                  split
                  · exact kept
                  · rw [Entries.mapValues, List.map_cons, Entries.get?, if_neg other]
                    exact kept

theorem exists_settleProperties (h : ∀ p ∈ ps, ∃ v, p.2.outcome = .ok v) :
    ∃ qs, settleProperties ps = .ok qs := by
  induction ps with
  | nil => exact ⟨[], rfl⟩
  | cons p ps ih =>
      obtain ⟨v, hv⟩ := h p (.head _)
      obtain ⟨rest, hrest⟩ := ih fun p' hp' => h p' (.tail _ hp')
      rw [settleProperties, hv, hrest]
      exact ⟨_, rfl⟩

theorem exists_mem_of_settleProperties_error {e : Failure} (h : settleProperties ps = .error e) :
    ∃ p ∈ ps, p.2.outcome = .error e := by
  induction ps with
  | nil => cases h
  | cons p ps ih =>
      obtain ⟨k, d⟩ := p
      rw [settleProperties] at h
      cases hd : d.outcome with
      | error e' => rw [hd] at h; cases h; exact ⟨_, .head _, hd⟩
      | ok v =>
          cases hrest : settleProperties ps with
          | error e' =>
              rw [hd, hrest] at h
              cases h
              obtain ⟨p, hp, he⟩ := ih hrest
              exact ⟨p, .tail _ hp, he⟩
          | ok rest => rw [hd, hrest] at h; cases h

end Properties

theorem Resource.outcome_output {m : Resource} {e : Failure} (h : m.outputs = .error e)
    (key : String) : (m.output key).outcome = .error e := by
  simp only [output, h]
  rfl

namespace Draft

/-- The properties that are settled, by their values. -/
def settledValues (d : Draft) (qs : Entries (Json × List ResourceRef)) : Entries Json :=
  d.ref.spelled (Entries.mapValues (·.1) qs)

/-- What a draft waits for, given its settled properties and the resources it waits for beyond. -/
def waited (d : Draft) (past : History) (qs : Entries (Json × List ResourceRef))
    (after : List Resource) : List Attempt :=
  (qs.flatMap (·.2.2) ++ d.after.sources).map past.find ++ after.map Resource.attempt

/-- What a draft is registered as once its parts are found. -/
def registration (d : Draft) (qs : Entries (Json × List ResourceRef)) (refs : List ResourceRef) :
    Registration where
  ref := d.ref
  isComponent := d.isComponent
  parent := d.placement.parent.map Resource.ref
  provider := d.server.map Provider.name
  dependsOn := refs.filter (· ≠ d.ref)
  inputs := d.arriving (d.settledValues qs)
  secret := d.secret

variable {d : Draft} {past : History} {r : Registration}

/-- What is left to do for a draft once its properties are settled. -/
def settleRest (d : Draft) (past : History) (qs : Entries (Json × List ResourceRef)) :
    Except Failure Registration :=
  if d.ref.accepts (d.settledValues qs) = false then .error .wrongShape
  else if d.isSendable (d.settledValues qs) = false then .error .integerTooLarge
  else do
    let after ← d.after.outcome
    let refs ← past.expand (d.waited past qs after)
    return d.registration qs refs

theorem settle_eq (d : Draft) (past : History) :
    d.settle past = (do
      Failure.check (d.placement.parent.bind Resource.failure?)
      Failure.check (d.neededProvider.bind Provider.failure)
      let qs ← settleProperties d.properties
      d.settleRest past qs) := by
  unfold settle
  refine except_bind_congr fun _ _ => except_bind_congr fun _ _ => except_bind_congr fun qs _ => ?_
  dsimp only
  split
  case isTrue refused => exact (if_pos refused).symm
  case isFalse taken =>
    refine Eq.trans ?_ (if_neg taken).symm
    split
    case isTrue refused => exact (if_pos refused).symm
    case isFalse sent => exact (if_neg sent).symm

theorem settleRest_eq_ok {qs : Entries (Json × List ResourceRef)} :
    d.settleRest past qs = .ok r ↔ d.ref.accepts (d.settledValues qs) = true ∧
      d.isSendable (d.settledValues qs) = true ∧ ∃ after refs, d.after.outcome = .ok after ∧
        past.expand (d.waited past qs after) = .ok refs ∧ r = d.registration qs refs := by
  unfold settleRest
  constructor
  · intro h
    split at h
    case isTrue => cases h
    case isFalse taken =>
      split at h
      case isTrue => cases h
      case isFalse sent =>
        obtain ⟨after, hafter, h⟩ := except_bind_eq_ok.mp h
        obtain ⟨refs, hrefs, h⟩ := except_bind_eq_ok.mp h
        exact ⟨eq_true_of_ne_false taken, eq_true_of_ne_false sent, after, refs, hafter, hrefs,
          (Except.ok.inj h).symm⟩
  · rintro ⟨taken, sent, after, refs, hafter, hrefs, rfl⟩
    simp only [taken, sent, Bool.true_eq_false, if_false]
    exact except_bind_eq_ok.mpr ⟨after, hafter, except_bind_eq_ok.mpr ⟨refs, hrefs, rfl⟩⟩

/-- A draft is registered from settled properties that are taken and can be sent, if nothing that it
waits for has failed. -/
theorem settle_eq_ok_iff :
    d.settle past = .ok r ↔ d.placement.parent.bind Resource.failure? = none ∧
      d.neededProvider.bind Provider.failure = none ∧
      ∃ qs, settleProperties d.properties = .ok qs ∧ d.settleRest past qs = .ok r := by
  rw [settle_eq, except_bind_eq_ok]
  constructor
  · rintro ⟨_, parent, h⟩
    obtain ⟨_, provider, h⟩ := except_bind_eq_ok.mp h
    exact ⟨Failure.check_eq_ok.mp parent, Failure.check_eq_ok.mp provider,
      except_bind_eq_ok.mp h⟩
  · rintro ⟨parent, provider, h⟩
    exact ⟨(), Failure.check_eq_ok.mpr parent, except_bind_eq_ok.mpr
      ⟨(), Failure.check_eq_ok.mpr provider, except_bind_eq_ok.mpr h⟩⟩

theorem settle_eq_ok (h : d.settle past = .ok r) :
    ∃ qs after refs, settleProperties d.properties = .ok qs ∧ d.after.outcome = .ok after ∧
      past.expand (d.waited past qs after) = .ok refs ∧ r = d.registration qs refs := by
  obtain ⟨_, _, qs, hqs, h⟩ := settle_eq_ok_iff.mp h
  obtain ⟨_, _, after, refs, hafter, hrefs, hr⟩ := settleRest_eq_ok.mp h
  exact ⟨qs, after, refs, hqs, hafter, hrefs, hr⟩

theorem isSendable_of_settle (h : d.settle past = .ok r) :
    ∃ qs, settleProperties d.properties = .ok qs ∧ d.isSendable (d.settledValues qs) = true := by
  obtain ⟨_, _, qs, hqs, h⟩ := settle_eq_ok_iff.mp h
  exact ⟨qs, hqs, (settleRest_eq_ok.mp h).2.1⟩

/-- What is recorded of a draft that is tried. -/
def attempt (d : Draft) (past : History) : Attempt where
  ref := d.ref
  parent := d.placement.parent.map Resource.ref
  isComponent := d.isComponent
  failure :=
    match d.settle past with
    | .ok _ => none
    | .error e => some e

theorem attempt?_event (d : Draft) (past : History) :
    (d.event past).attempt? = some (d.attempt past) := by
  cases h : d.settle past with
  | error e => simp only [event, attempt, h, Event.attempt?]
  | ok r =>
      obtain ⟨qs, _, refs, _, _, _, hr⟩ := settle_eq_ok h
      simp only [event, attempt, h, Event.attempt?, hr, registration]

theorem attempts_event (d : Draft) (past : History) :
    History.attempts [d.event past] = [d.attempt past] := by
  simp [History.attempts, attempt?_event]

theorem settle_of_event (h : .registered r = d.event past) : d.settle past = .ok r := by
  cases hs : d.settle past with
  | error e => simp [event, hs] at h
  | ok r' =>
      simp only [event, hs, Event.registered.injEq] at h
      rw [h]

theorem unfailed_event {d : Draft} (h : ∃ r, d.settle past = .ok r) :
    History.Unfailed [d.event past] := by
  obtain ⟨r, hr⟩ := h
  intro a ha
  rw [attempts_event] at ha
  rw [List.mem_singleton.mp ha, attempt, hr]

theorem apart_event {d : Draft} (h : d.isComponent = true → d.ref.isOfCloud = false)
    (past : History) : History.Apart [d.event past] := by
  intro a ha hcomponent
  rw [attempts_event] at ha
  rw [List.mem_singleton.mp ha] at hcomponent ⊢
  exact h hcomponent

theorem apart_event_of_custom {d : Draft} (h : d.isComponent = false) (past : History) :
    History.Apart [d.event past] := by
  refine apart_event (fun hc => ?_) past
  rw [h] at hc
  cases hc

theorem failure?_resource {d : Draft} {s : Site} (h : ∃ r, d.settle s.past = .ok r) :
    (d.resource s).failure? = none := by
  obtain ⟨r, hr⟩ := h
  rw [Resource.failure?, resource, hr]
  rfl

theorem ref_of_settle (h : d.settle past = .ok r) : r.ref = d.ref := by
  obtain ⟨_, _, _, _, _, _, rfl⟩ := settle_eq_ok h
  rfl

theorem outcome_of_settle (h : d.settle past = .ok r) {p : String × Deferred Json}
    (hp : p ∈ d.properties) : ∃ v, p.2.outcome = .ok v := by
  obtain ⟨_, _, _, hqs, _⟩ := settle_eq_ok h
  obtain ⟨v, hv, _⟩ := mem_of_settleProperties hqs hp
  exact ⟨v, hv⟩

theorem mem_dependsOn_of_source (h : d.settle past = .ok r) (hpast : past.Apart)
    {p : String × Deferred Json} (hp : p ∈ d.properties)
    (hnull : ∀ v, p.2.outcome = .ok v → v.isNull = false) {ref : ResourceRef}
    (hs : ref ∈ p.2.sources) (hcloud : ref.isOfCloud = true) (hne : ref ≠ d.ref) :
    ref ∈ r.dependsOn := by
  obtain ⟨qs, after, refs, hqs, _, hrefs, rfl⟩ := settle_eq_ok h
  obtain ⟨v, hv, kept⟩ := mem_of_settleProperties hqs hp
  have waits : past.find ref ∈ d.waited past qs after := by
    refine List.mem_append_left _ (List.mem_map_of_mem (List.mem_append_left _ ?_))
    exact List.mem_flatMap.mpr ⟨_, kept (hnull v hv), hs⟩
  have found : ref ∈ refs :=
    History.mem_expand_of_custom hrefs waits (History.isComponent_find hpast hcloud)
  exact List.mem_filter.mpr ⟨found, decide_eq_true hne⟩

theorem mem_dependsOn_of_after (h : d.settle past = .ok r) {rs : List Resource}
    (hafter : d.after.outcome = .ok rs) {a : Resource} (ha : a ∈ rs) {ref : ResourceRef}
    (hstands : past.StandsFor a.attempt ref) (hne : ref ≠ d.ref) : ref ∈ r.dependsOn := by
  obtain ⟨qs, after, refs, _, hok, hrefs, rfl⟩ := settle_eq_ok h
  rw [hafter] at hok
  cases hok
  have waits : a.attempt ∈ d.waited past qs rs :=
    List.mem_append_right _ (List.mem_map_of_mem ha)
  obtain ⟨own, hown, hall⟩ := History.mem_expand hrefs waits
  exact List.mem_filter.mpr ⟨hall ref (hstands.mem_standIns hown), decide_eq_true hne⟩

theorem get?_arriving_text {es : Entries Json} {key t : String} (hkey : Json.isReserved key = false)
    (hget : Entries.get? es key = some (.text t)) :
    Entries.get? (d.arriving es) key = some (.text t) := by
  induction es with
  | nil => cases hget
  | cons e es ih =>
      obtain ⟨k, v⟩ := e
      unfold arriving at ih ⊢
      by_cases hk : k = key
      · simp only [Entries.get?, hk, if_true] at hget
        cases hget
        have sent : (!Json.isReserved k) = true := by rw [hk, hkey]; rfl
        rw [List.filter_cons, if_pos sent, List.map_cons, Entries.get?, if_pos hk]
        split
        · simp [Value.compact]
        · rw [Json.wire_text]
      · simp only [Entries.get?, hk, if_false] at hget
        rw [List.filter_cons]
        split
        · rw [List.map_cons, Entries.get?, if_neg hk]
          exact ih hget
        · exact ih hget

theorem get?_inputs_text (h : d.settle past = .ok r) (hdistinct : (Entries.keys d.properties).Nodup)
    (hspelled : ∀ key ∈ Entries.keys d.properties, Shape.keyOf d.ref.properties key = key)
    {p : String × Deferred Json} (hp : p ∈ d.properties) (hkey : Json.isReserved p.1 = false)
    {t : String} (ht : p.2.outcome = .ok (.text t)) :
    Entries.get? r.inputs p.1 = some (.text t) := by
  obtain ⟨qs, _, _, hqs, _, _, rfl⟩ := settle_eq_ok h
  have settled := get?_settleProperties hqs hdistinct hp ht rfl
  refine get?_arriving_text hkey (Shape.get?_spellMembers_text (fun e he => ?_) settled)
  obtain ⟨q, hq, rfl⟩ := List.mem_map.mp he
  obtain ⟨p', hp', hkey', _⟩ := settled_mem hqs hq
  have spelled := hspelled p'.1 (List.mem_map.mpr ⟨p', hp', rfl⟩)
  rwa [hkey'] at spelled

/-- A value that a draft's type takes under a key, and that can be sent. -/
def Takes (d : Draft) (key : String) (v : Json) : Prop :=
  Shape.takes d.ref.properties key v = true ∧ v.isSendable = true

/-- All that a draft is made of is there, but perhaps the properties under some keys. -/
structure KnownBut (d : Draft) (keys : List String) : Prop where
  parent : d.placement.parent.bind Resource.failure? = none
  provider : d.neededProvider.bind Provider.failure = none
  properties : ∀ p ∈ d.properties, p.1 ∉ keys → p.2.Holds (d.Takes p.1)

/-- Nothing that a draft waits for has failed. -/
structure CanWait (d : Draft) (past : History) : Prop where
  sources : ∀ p ∈ d.properties, ∀ ref ∈ p.2.sources, past.Stands (past.find ref)
  beyond : ∀ ref ∈ d.after.sources, past.Stands (past.find ref)
  after : d.after.Holds fun rs => ∀ r ∈ rs, past.Stands r.attempt

/-- All that a draft relies on is there, but perhaps the properties under some keys. -/
structure ReadyBut (d : Draft) (keys : List String) : Prop extends KnownBut d keys where
  after : d.after.Holds fun rs => ∀ r ∈ rs, r.failure? = none

theorem ReadyBut.canWait {keys : List String} (h : d.ReadyBut keys) (hpast : past.Unfailed) :
    d.CanWait past where
  sources _ _ _ _ := History.stands_of_unfailed hpast rfl
  beyond _ _ := History.stands_of_unfailed hpast rfl
  after := h.after.imp fun _ hrs r hr => History.stands_of_unfailed hpast (hrs r hr)

theorem accepts_of_takes {es : Entries Json} (h : ∀ e ∈ es, d.Takes e.1 e.2) :
    d.ref.accepts (d.ref.spelled es) = true := by
  rw [ResourceRef.accepts, ResourceRef.spelled, Shape.membersFit_spellMembers, List.all_eq_true]
  exact fun e he => (h e he).1

theorem isSendable_of_takes {es : Entries Json} (h : ∀ e ∈ es, d.Takes e.1 e.2) :
    d.isSendable (d.ref.spelled es) = true := by
  have all : Json.entriesSendable (d.ref.spelled es) = true := by
    rw [ResourceRef.spelled, Shape.membersSendable_spell, Json.entriesSendable_eq_all,
      List.all_eq_true]
    exact fun e he => (h e he).2
  rw [isSendable, Json.entriesSendable_eq_all, List.all_eq_true]
  rw [Json.entriesSendable_eq_all, List.all_eq_true] at all
  exact fun e he => all e (List.mem_of_mem_filter he)

theorem CanWait.exists_expand (h : d.CanWait past)
    {qs : Entries (Json × List ResourceRef)} (hqs : settleProperties d.properties = .ok qs) :
    ∃ after refs, d.after.outcome = .ok after ∧ past.expand (d.waited past qs after) = .ok refs := by
  obtain ⟨after, hafter, stand⟩ := h.after
  obtain ⟨refs, hrefs⟩ : ∃ refs, past.expand (d.waited past qs after) = .ok refs := by
    refine History.exists_expand fun a ha => ?_
    rcases List.mem_append.mp ha with found | later
    · obtain ⟨ref, href, rfl⟩ := List.mem_map.mp found
      rcases List.mem_append.mp href with href | href
      · obtain ⟨q, hq, href⟩ := List.mem_flatMap.mp href
        obtain ⟨p, hp, _, _, hsources⟩ := settled_mem hqs hq
        exact h.sources p hp ref (hsources ▸ href)
      · exact h.beyond ref href
    · obtain ⟨r, hr, rfl⟩ := List.mem_map.mp later
      exact stand r hr
  exact ⟨after, refs, hafter, hrefs⟩

/-- A draft is registered when all that it relies on is there. -/
theorem exists_settle {keys : List String} (h : d.KnownBut keys)
    (hkeys : ∀ p ∈ d.properties, p.1 ∈ keys → p.2.Holds (d.Takes p.1)) (hwait : d.CanWait past) :
    ∃ r, d.settle past = .ok r := by
  have taken (p) (hp : p ∈ d.properties) : p.2.Holds (d.Takes p.1) := by
    by_cases hk : p.1 ∈ keys
    · exact hkeys p hp hk
    · exact h.properties p hp hk
  obtain ⟨qs, hqs⟩ : ∃ qs, settleProperties d.properties = .ok qs := by
    refine exists_settleProperties fun p hp => ?_
    obtain ⟨v, hv, _⟩ := taken p hp
    exact ⟨v, hv⟩
  have takes : ∀ e ∈ Entries.mapValues (·.1) qs, d.Takes e.1 e.2 := by
    intro e he
    obtain ⟨q, hq, rfl⟩ := List.mem_map.mp he
    obtain ⟨p, hp, hkey, hv, _⟩ := settled_mem hqs hq
    obtain ⟨v, hv', ht⟩ := taken p hp
    rw [hv] at hv'
    cases hv'
    rwa [← hkey]
  obtain ⟨after, refs, hafter, hrefs⟩ := hwait.exists_expand hqs
  refine ⟨d.registration qs refs, ?_⟩
  refine settle_eq_ok_iff.mpr ⟨h.parent, h.provider, qs, hqs, settleRest_eq_ok.mpr ?_⟩
  exact ⟨accepts_of_takes takes, isSendable_of_takes takes, after, refs, hafter, hrefs, rfl⟩

/-- If some properties of a draft fail, so does its registration, with the failure of one of them. -/
theorem settle_error {keys : List String} (h : d.KnownBut keys)
    (hfail : ∃ p ∈ d.properties, ∃ e, p.2.outcome = .error e) (past : History) :
    ∃ p ∈ d.properties, p.1 ∈ keys ∧ ∃ e, p.2.outcome = .error e ∧ d.settle past = .error e := by
  cases hqs : settleProperties d.properties with
  | ok qs =>
      obtain ⟨p, hp, e, he⟩ := hfail
      obtain ⟨v, hv, _⟩ := mem_of_settleProperties hqs hp
      rw [he] at hv
      cases hv
  | error e =>
      obtain ⟨p, hp, he⟩ := exists_mem_of_settleProperties_error hqs
      refine ⟨p, hp, ?_, e, he, ?_⟩
      · by_contra hk
        obtain ⟨v, hv, _⟩ := h.properties p hp hk
        rw [he] at hv
        cases hv
      · simp only [settle_eq, h.parent, h.provider, Failure.check, hqs]
        rfl

end Draft
end FleetPlan
