import FleetPlan.Proofs.ChangedTexts
import FleetPlan.Proofs.EmptyTexts
import FleetPlan.Stack.Program

/-!
Groups whose options have empty texts where others have none.

An empty price to bid is registered with a launch configuration where no price leaves nothing, and
in everything else the two configurations are equal. What the cloud names them may differ, and so
the text of the template that refers to one; what it puts out for the stack may then differ too.
Behind a cloud that names a launch configuration without regard to its price nothing differs but the
price.
-/
namespace FleetPlan

open Plan Deferred

/-- A cloud whose names do not depend on a price. -/
def Cloud.NamesUnpriced (c : Cloud) : Prop :=
  ∀ r r' : Registration, r'.without "spotPrice" = r.without "spotPrice" →
    r'.putOut c "name" = r.putOut c "name"

/-- Registrations of a launch configuration that are equal, but for a price that is missing in one
and empty in the other. -/
structure Registration.PricedAlike (r r' : Registration) : Prop where
  type : r.ref.type = "aws:ec2/launchConfiguration:LaunchConfiguration"
  price : r.input "spotPrice" = .null
  price' : r'.input "spotPrice" = .text ""
  others : r'.without "spotPrice" = r.without "spotPrice"

/-- Registrations of a stack that are equal, but for the name of the launch configuration in the
text of the template. -/
structure Registration.DeclaredAlike (r r' : Registration) : Prop where
  body : ∃ (t : GroupTemplate) (v : Json), r.input "templateBody" = .text t.text ∧
    r'.input "templateBody" = .text (GroupTemplate.text { t with launchConfiguration := v })
  others : r'.without "templateBody" = r.without "templateBody"

namespace Event

/-- The component that makes its outputs known, or cannot. -/
def told? : Event → Option ResourceRef
  | published component _ => some component
  | unpublished component _ => some component
  | _ => none

/-- Events that differ in no more than an empty price makes a difference to. If the cloud is steady,
then that is the price. -/
inductive Alike (steady : Prop) : Event → Event → Prop
  | same (e : Event) : Alike steady e e
  | priced {r r' : Registration} : r.PricedAlike r' → Alike steady (.registered r) (.registered r')
  | declared {r r' : Registration} : ¬ steady → r.DeclaredAlike r' →
      Alike steady (.registered r) (.registered r')
  | told {e e' : Event} {component : ResourceRef} : ¬ steady → e.told? = some component →
      e'.told? = some component → Alike steady e e'

end Event

theorem Registration.attempt?_of_without {r r' : Registration} {key : String}
    (h : r'.without key = r.without key) :
    (Event.registered r').attempt? = (Event.registered r).attempt? := by
  show (Event.registered (r'.without key)).attempt? = (Event.registered (r.without key)).attempt?
  rw [h]

theorem Event.attempt?_of_told {e : Event} {component : ResourceRef}
    (h : e.told? = some component) : e.attempt? = none := by
  cases e with
  | published _ _ | unpublished _ _ => rfl
  | registered _ | refused _ _ _ _ | asked _ => cases h

theorem Event.Alike.attempt? {steady : Prop} {e e' : Event} (h : Event.Alike steady e e') :
    e'.attempt? = e.attempt? := by
  cases h with
  | same e => rfl
  | priced h => exact Registration.attempt?_of_without h.others
  | declared _ h => exact Registration.attempt?_of_without h.others
  | told _ h h' => rw [attempt?_of_told h, attempt?_of_told h']

/-- Behind events that are alike, pasts stay in step. -/
theorem History.InStep.append {steady : Prop} {past past' more more' : History}
    (h : past.InStep past') (alike : List.Forall₂ (Event.Alike steady) more more') :
    (past ++ more).InStep (past' ++ more') := by
  have attempts : History.attempts more' = History.attempts more := by
    induction alike with
    | nil => rfl
    | cons head _ ih =>
        simp only [History.attempts, List.filterMap_cons, head.attempt?] at ih ⊢
        rw [ih]
  constructor
  · rw [History.attempts_append, History.attempts_append, h.attempts, attempts]
  · rw [List.length_append, List.length_append, h.length, alike.length_eq]

/-- Sites of one project, stack and cloud at which the same was tried. -/
structure Site.InStep (s t : Site) : Prop extends s.Alike t where
  past : s.past.InStep t.past

theorem Site.inStep_refl (s : Site) : s.InStep s := ⟨⟨rfl, rfl, rfl⟩, ⟨rfl, rfl⟩⟩

theorem Site.InStep.after {steady : Prop} {s t : Site} (h : s.InStep t) {u v : History}
    (alike : List.Forall₂ (Event.Alike steady) u v) : (s.after u).InStep (t.after v) :=
  ⟨h.toAlike.after u v, h.past.append alike⟩

/-! Plans that run alike. -/

/-- Runs in which the same happens, but for what an empty price makes a difference to, with the same
failure or with related answers. -/
structure RunsAlike {α β : Type} (steady : Prop) (R : α → β → Prop)
    (x : Traced Event (Except Failure α)) (y : Traced Event (Except Failure β)) : Prop where
  trace : List.Forall₂ (Event.Alike steady) x.trace y.trace
  answer : ResultsAgree R x.answer y.answer

namespace RunsAlike

variable {α β α' β' : Type} {steady : Prop} {R : α → β → Prop} {S : α' → β' → Prop} {s t : Site}

theorem refl (x : Traced Event (Except Failure α)) : RunsAlike steady Eq x x where
  trace := List.forall₂_same.mpr fun e _ => .same e
  answer := by
    cases x.answer with
    | error e => exact .error e
    | ok a => exact .ok rfl

theorem imp {R' : α → β → Prop} {x : Traced Event (Except Failure α)}
    {y : Traced Event (Except Failure β)} (h : RunsAlike steady R x y)
    (himp : ∀ a b, R a b → R' a b) : RunsAlike steady R' x y :=
  ⟨h.trace, h.answer.imp fun a b _ _ => himp a b⟩

/-- Runs stay alike as long as what follows does, at sites in step. -/
theorem bind {x : Plan α} {y : Plan β} {f : α → Plan α'} {g : β → Plan β'}
    (h : RunsAlike steady R (x s) (y t))
    (hf : ∀ a b u v, List.Forall₂ (Event.Alike steady) u v → R a b →
      RunsAlike steady S (f a (s.after u)) (g b (t.after v))) :
    RunsAlike steady S ((x >>= f) s) ((y >>= g) t) := by
  obtain ⟨trace, answer⟩ := h
  rcases answer.exists_of with ⟨e, hx, hy⟩ | ⟨a, b, hx, hy, related⟩
  · rw [bind_of_error hx, bind_of_error hy]
    exact ⟨trace, .error e⟩
  · obtain ⟨rest, result⟩ := hf a b _ _ trace related
    rw [bind_of_ok hx, bind_of_ok hy]
    exact ⟨List.rel_append trace rest, result⟩

/-- Runs that start with the same plan at one site are alike if what follows is. -/
theorem bind_same {x : Plan α} {f : α → Plan α'} {g : α → Plan β'}
    (hf : ∀ a u, RunsAlike steady S (f a (s.after u)) (g a (s.after u))) :
    RunsAlike steady S ((x >>= f) s) ((x >>= g) s) := by
  cases hx : (x s).answer with
  | error e =>
      rw [bind_of_error hx, bind_of_error hx]
      exact ⟨(refl (x s)).trace, .error e⟩
  | ok a =>
      obtain ⟨rest, result⟩ := hf a (x s).trace
      rw [bind_of_ok hx, bind_of_ok hx]
      exact ⟨List.rel_append (refl (x s)).trace rest, result⟩

theorem pure {a : α} {b : β} (h : R a b) :
    RunsAlike steady R ((Pure.pure a : Plan α) s) ((Pure.pure b : Plan β) t) := ⟨.nil, .ok h⟩

/-- Drafts of one name and placement are both tried, or neither is. -/
theorem register {d d' : Draft} (hname : d'.name = d.name) (hplacement : d'.placement = d.placement)
    (events : Event.Alike steady (d.event s.past) (d'.event t.past)) :
    RunsAlike steady (fun m m' => m = d.resource s ∧ m' = d'.resource t) (Plan.register d s)
      (Plan.register d' t) := by
  by_cases named : d.Named
  · have named' : d'.Named := ⟨hname ▸ named.name, hplacement ▸ named.placement⟩
    rw [register_of_named named, register_of_named named']
    exact ⟨.cons events .nil, .ok ⟨rfl, rfl⟩⟩
  · have unnamed : ¬ d'.Named := fun given =>
      named ⟨hname ▸ given.name, hplacement ▸ given.placement⟩
    rw [register_eq_of_not_named named, register_eq_of_not_named unnamed, hname]
    exact ⟨.nil, .error _⟩

/-- A component tells its outputs in both runs, or fails to; they are the same if the cloud is
steady. -/
theorem publish (component : Resource) {outputs outputs' : Entries (Deferred Json)}
    (h : steady → outputs' = outputs) :
    RunsAlike steady Eq (Plan.publish component outputs s) (Plan.publish component outputs' t) := by
  have told (outputs : Entries (Deferred Json)) : ∃ e : Event, e.told? = some component.ref ∧
      ∀ s, Plan.publish component outputs s = ⟨.ok (), [e]⟩ := by
    unfold Plan.publish
    cases component.failure? with
    | some e => exact ⟨_, rfl, fun _ => rfl⟩
    | none => cases settleProperties outputs <;> exact ⟨_, rfl, fun _ => rfl⟩
  obtain ⟨e, he, run⟩ := told outputs
  obtain ⟨e', he', run'⟩ := told outputs'
  by_cases hsteady : steady
  · rw [h hsteady, run, run]
    exact .refl _
  · rw [run, run']
    exact ⟨.cons (.told hsteady he he') .nil, .ok rfl⟩

end RunsAlike

/-! Drafts that are tried alike. -/

namespace Draft

variable {steady : Prop} {d d' : Draft} {past past' : History} {key : String}

theorem EqualBut.event (h : d.EqualBut key d')
    (settled : ResultsAgree (fun r r' => Event.Alike steady (.registered r) (.registered r'))
      (d.settle past) (d'.settle past')) :
    Event.Alike steady (d.event past) (d'.event past') := by
  rcases settled.exists_of with ⟨e, hr, hr'⟩ | ⟨r, r', hr, hr', alike⟩
  · simp only [Draft.event, hr, hr', h.ref, h.placement, h.isComponent]
    exact .same _
  · simpa only [Draft.event, hr, hr'] using alike

/-- A draft is settled alike behind pasts in step. -/
theorem settle_of_inStep (d : Draft) (h : past.InStep past') : d.settle past' = d.settle past := by
  simp only [settle_eq, settleRest, waited, h.find, h.expand]

theorem event_of_inStep (d : Draft) (h : past.InStep past') : d.event past' = d.event past := by
  simp only [Draft.event, d.settle_of_inStep h]

theorem resource_of_inStep (d : Draft) {s t : Site} (h : s.InStep t) :
    d.resource t = d.resource s := by
  simp only [Draft.resource, d.settle_of_inStep h.past, h.project, h.stack, h.cloud]

/-- What a cloud names two resources that differ in a price is known or not, and the same if names
do not depend on prices. -/
theorem EqualBut.named {here : Site} (h : d.EqualBut "spotPrice" d')
    (own : Shape.keyOf d.ref.properties "spotPrice" = "spotPrice") (hcustom : d.isComponent = false)
    (hinteger : "name" ∉ d.ref.integerOutputs) (hcloud : steady → here.cloud.NamesUnpriced) :
    ResultsAgree (fun v v' => steady → v' = v)
      ((d.resource here).output "name").outcome ((d'.resource here).output "name").outcome := by
  rcases (h.settle own ⟨rfl, rfl⟩).exists_of with ⟨e, hr, hr'⟩ | ⟨r, r', hr, hr', others⟩
  · rw [Resource.outcome_output (congrArg (Except.map _) hr),
      Resource.outcome_output (congrArg (Except.map _) hr')]
    exact .error e
  · rw [outcome_output hr hcustom (by decide) hinteger,
      outcome_output hr' (h.isComponent.trans hcustom) (by decide) (h.ref ▸ hinteger)]
    exact .ok fun given => hcloud given r r' others

end Draft

/-! Groups whose price is empty in one run and missing in the other. -/

namespace StackGroup

variable {steady : Prop} {o p : WorkerOptions} {name : String} {q : Preparation}
  {placement : Placement} {rootDevice : Json} {script : Deferred Json} {here : Site}

/-- The text of a template, from the name of the launch configuration and from all the rest. -/
theorem templateBody_eq (cluster : Deferred Cluster) (m : Resource) :
    templateBody o q cluster m = (do
      let v ← m.output "name"
      let rest ← (do
        let subnets ← q.subnets
        let tags ← Preparation.workerTags o cluster
        let ids ← Deferred.ofOption subnets.items?
        return (ids, tags) : Deferred (List Json × Entries Json))
      return .text (GroupTemplate.text ⟨v, q.capacity, rest.1, rest.2⟩)) := by
  simp only [templateBody, Deferred.bind_assoc, Deferred.pure_bind]

/-- Launch configurations of one name, known or not, are referred to in texts that are known or not.
-/
theorem areTexts_templateBody {m m' : Resource} (href : m'.ref = m.ref)
    (hnames : ResultsAgree (fun _ _ => True) (m.output "name").outcome (m'.output "name").outcome)
    (cluster : Deferred Cluster) :
    (templateBody o q cluster m).AreTexts (templateBody o q cluster m') := by
  rw [templateBody_eq, templateBody_eq]
  generalize (do
    let subnets ← q.subnets
    let tags ← Preparation.workerTags o cluster
    let ids ← Deferred.ofOption subnets.items?
    return (ids, tags) : Deferred (List Json × Entries Json)) = rest
  rcases hnames.exists_of with ⟨e, hm, hm'⟩ | ⟨v, v', hm, hm', _⟩
  · exact .failed e (outcome_bind_of_error hm _) (outcome_bind_of_error hm' _)
  · cases hrest : rest.outcome with
    | error e =>
        refine .failed e ?_ ?_
        · rw [outcome_bind_of_ok hm, outcome_bind_of_error hrest]
        · rw [outcome_bind_of_ok hm', outcome_bind_of_error hrest]
    | ok a =>
        refine .known (.text (GroupTemplate.text ⟨v, q.capacity, a.1, a.2⟩) ?_ rfl)
          (.text (GroupTemplate.text ⟨v', q.capacity, a.1, a.2⟩) ?_ ?_)
        · rw [outcome_bind_of_ok hm, outcome_bind_of_ok hrest]
          rfl
        · rw [outcome_bind_of_ok hm', outcome_bind_of_ok hrest]
          rfl
        · rw [sources_bind_ok hm, sources_bind_ok hm', sources_bind_ok hrest, sources_bind_ok hrest,
            Resource.sources_output, Resource.sources_output, href, sources_pure, sources_pure]

section Priced

variable (h : o.Blanks p) (absent : o.machine.spotPrice.value = Pure.pure .null)
  (empty : p.machine.spotPrice.value = Pure.pure (.text ""))

include h absent empty

theorem configurationDraft_equalBut :
    (configurationDraft name o q placement rootDevice script).EqualBut "spotPrice"
      (configurationDraft name p q placement rootDevice script) := by
  have texts : o.machine.spotPrice.value.AreTexts p.machine.spotPrice.value := by
    rw [absent, empty]
    exact .known (.null rfl rfl) (.text "" rfl rfl)
  have changed : Draft.EqualBut "spotPrice" _ _ :=
    .mk (configurationDraft name o q placement rootDevice script)
      ((configurationDraft name o q placement rootDevice script).properties.take 6)
      ((configurationDraft name o q placement rootDevice script).properties.drop 7) texts
  unfold configurationDraft at changed ⊢
  rw [h.placement, h.type]
  exact changed

theorem configurationDraft_event :
    Event.Alike steady ((configurationDraft name o q placement rootDevice script).event here.past)
      ((configurationDraft name p q placement rootDevice script).event here.past) := by
  have changed : (configurationDraft name o q placement rootDevice script).EqualBut "spotPrice"
      (configurationDraft name p q placement rootDevice script) :=
    configurationDraft_equalBut h absent empty
  refine changed.event ((changed.settle rfl ⟨rfl, rfl⟩).imp fun r r' hr hr' others => .priced ?_)
  obtain ⟨v, hv, sent⟩ := carries_configuration hr "spotPrice" rfl
  obtain ⟨v', hv', sent'⟩ := carries_configuration hr' "spotPrice" rfl
  rw [absent] at hv
  rw [empty] at hv'
  cases hv
  cases hv'
  refine ⟨?_, sent.trans Json.wire_null, sent'.trans (Json.wire_text ""), others⟩
  rw [Draft.ref_of_settle hr]
  rfl

end Priced

/-- A stack that refers to another launch configuration is declared alike. -/
theorem stackDraft_equalBut {cluster : Deferred Cluster} {stack : String} {m m' : Resource}
    (href : m'.ref = m.ref)
    (hnames : ResultsAgree (fun _ _ => True) (m.output "name").outcome (m'.output "name").outcome) :
    (stackDraft name stack o q cluster placement m).EqualBut "templateBody"
      (stackDraft name stack o q cluster placement m') :=
  .mk (stackDraft name stack o q cluster placement m)
    ((stackDraft name stack o q cluster placement m).properties.take 1)
    ((stackDraft name stack o q cluster placement m).properties.drop 2)
    (areTexts_templateBody href hnames cluster)

theorem stackDraft_event {cluster : Deferred Cluster} {stack : String} {m m' : Resource}
    {past past' : History} (hpast : past.InStep past') (unsteady : ¬ steady) (href : m'.ref = m.ref)
    (hnames : ResultsAgree (fun _ _ => True) (m.output "name").outcome (m'.output "name").outcome) :
    Event.Alike steady ((stackDraft name stack o q cluster placement m).event past)
      ((stackDraft name stack o q cluster placement m').event past') := by
  have changed : (stackDraft name stack o q cluster placement m).EqualBut "templateBody"
      (stackDraft name stack o q cluster placement m') := stackDraft_equalBut href hnames
  refine changed.event ((changed.settle rfl hpast).imp fun r r' hr hr' others =>
    .declared unsteady ⟨?_, others⟩)
  have body {m : Resource} {past : History} {r : Registration}
      (hr : (stackDraft name stack o q cluster placement m).settle past = .ok r) :
      ∃ t : GroupTemplate, r.input "templateBody" = .text t.text ∧ t.capacity = q.capacity ∧
        (∃ subnets, q.subnets.outcome = .ok subnets ∧ subnets.items? = some t.subnets) ∧
        (Preparation.workerTags o cluster).outcome = .ok t.tags := by
    have keyed : (stackDraft name stack o q cluster placement m).IsWellKeyed :=
      isWellKeyed_stackDraft stack q cluster m
    obtain ⟨_, hv, _⟩ := keyed.exists_input hr "templateBody" rfl
    obtain ⟨t, rfl, _, rest⟩ := outcome_templateBody hv
    exact ⟨t, congrArg Value.ofOption (keyed.input_text hr "templateBody" rfl hv), rest⟩
  obtain ⟨t, sent, capacity, ⟨zones, hzones, ids⟩, tags⟩ := body hr
  obtain ⟨t', sent', capacity', ⟨zones', hzones', ids'⟩, tags'⟩ := body hr'
  obtain rfl : zones' = zones := Except.ok.inj (hzones'.symm.trans hzones)
  have sameCapacity : t'.capacity = t.capacity := capacity'.trans capacity.symm
  have sameSubnets : t'.subnets = t.subnets := Option.some.inj (ids'.symm.trans ids)
  have sameTags : t'.tags = t.tags := Except.ok.inj (tags'.symm.trans tags)
  refine ⟨t, t'.launchConfiguration, sent, ?_⟩
  rw [sent', ← sameCapacity, ← sameSubnets, ← sameTags]

/-- Resources that are named alike: under one reference, both or neither by the cloud, and the same
if that is steady. -/
structure NamedAlike (steady : Prop) (m m' : Resource) : Prop where
  ref : m'.ref = m.ref
  name : ResultsAgree (fun v v' => steady → v' = v) (m.output "name").outcome
    (m'.output "name").outcome

theorem NamedAlike.output_eq {m m' : Resource} (h : NamedAlike steady m m') (hsteady : steady) :
    m'.output "name" = m.output "name" := by
  have outcome : (m'.output "name").outcome = (m.output "name").outcome := by
    rcases h.name.exists_of with ⟨e, hm, hm'⟩ | ⟨v, v', hm, hm', same⟩
    · rw [hm, hm']
    · rw [hm, hm', same hsteady]
  simp only [Resource.output] at outcome ⊢
  rw [outcome, h.ref]

/-- Stacks that refer to configurations that are named alike are tried alike. -/
theorem runsAlike_registerStack {cluster : Deferred Cluster} {stack : String} {m m' : Resource}
    (h : NamedAlike steady m m') {s t : Site} (inStep : s.InStep t) :
    RunsAlike steady (fun r r' => steady → r' = r)
      (Plan.register (stackDraft name stack o q cluster placement m) s)
      (Plan.register (stackDraft name stack o q cluster placement m') t) := by
  by_cases hsteady : steady
  · have body : templateBody o q cluster m' = templateBody o q cluster m := by
      rw [templateBody, templateBody, h.output_eq hsteady]
    have same : stackDraft name stack o q cluster placement m' =
        stackDraft name stack o q cluster placement m := by
      rw [stackDraft, stackDraft, body]
    rw [same]
    refine (RunsAlike.register rfl rfl ?_).imp fun r r' hr _ => ?_
    · rw [Draft.event_of_inStep _ inStep.past]
      exact .same _
    · rw [hr.1, hr.2, Draft.resource_of_inStep _ inStep]
  · have event : Event.Alike steady ((stackDraft name stack o q cluster placement m).event s.past)
        ((stackDraft name stack o q cluster placement m').event t.past) :=
      stackDraft_event inStep.past hsteady h.ref (h.name.imp fun _ _ _ _ _ => trivial)
    exact (RunsAlike.register (by rfl) (by rfl) event).imp fun _ _ _ given => absurd given hsteady

/-! A group planned from either of two options. -/

/-- What is known of a group in either run: its security groups are the same, and so is all of it
behind a cloud that is steady. -/
structure Matches (steady : Prop) (g g' : StackGroup) : Prop where
  group : g'.group = g.group
  whole : steady → g' = g

section Group

variable (h : o.Blanks p)

include h

theorem userData_of_blanks (cluster : Deferred Cluster) (stack : String) :
    userData q p cluster placement stack = userData q o cluster placement stack := by
  simp only [userData, h.script]
  exact h.override.read (fun own => Pure.pure own) _

theorem stackDraft_of_blanks (cluster : Deferred Cluster) (stack : String) (m : Resource) :
    stackDraft name stack p q cluster placement m =
      stackDraft name stack o q cluster placement m := by
  simp only [stackDraft, templateBody, h.workerTags, h.stackTags]

/-- A launch configuration is tried alike, whether its price is missing or empty. -/
theorem runsAlike_registerConfiguration (hcloud : steady → here.cloud.NamesUnpriced) :
    RunsAlike steady (NamedAlike steady)
      (Plan.register (configurationDraft name o q placement rootDevice script) here)
      (Plan.register (configurationDraft name p q placement rootDevice script) here) := by
  rcases h.spotPrice.value_eq with same | ⟨absent, empty⟩
  · have unchanged : configurationDraft name p q placement rootDevice script =
        configurationDraft name o q placement rootDevice script := by
      simp only [configurationDraft, h.placement, h.type, same]
    rw [unchanged]
    refine (RunsAlike.refl _).imp fun m m' hm => ?_
    subst hm
    refine ⟨rfl, ?_⟩
    cases (m.output "name").outcome with
    | error e => exact .error e
    | ok v => exact .ok fun _ => rfl
  · have changed : (configurationDraft name o q placement rootDevice script).EqualBut "spotPrice"
        (configurationDraft name p q placement rootDevice script) :=
      configurationDraft_equalBut h absent empty
    refine (RunsAlike.register changed.name changed.placement ?_).imp fun m m' made => ?_
    · exact configurationDraft_event h absent empty
    · rw [made.1, made.2]
      exact ⟨changed.ref, changed.named rfl rfl List.not_mem_nil hcloud⟩

theorem runsAlike_create (hprofile : p.profile = o.profile) (x : ClusterInput) {s : Site}
    (hcloud : steady → s.cloud.NamesUnpriced) :
    RunsAlike steady (Matches steady) (create name x o placement s)
      (create name x p placement s) := by
  unfold create
  simp only [h.check, h.preparation hprofile, h.volume, h.firewall, userData_of_blanks h,
    stackDraft_of_blanks h]
  refine .bind_same fun _ u => .bind_same fun q u' => .bind_same fun here u'' => ?_
  refine .bind_same fun script v => .bind_same fun rootDevice v' => ?_
  refine (runsAlike_registerConfiguration h ?steady).bind fun c c' w w' events named => ?_
  case steady => exact hcloud
  refine (runsAlike_registerStack named ((Site.inStep_refl _).after events)).bind
    fun m m' _ _ _ same => .pure ⟨rfl, fun given => ?_⟩
  rw [same given]

theorem runsAlike_component (hprofile : p.profile = o.profile) (x : ClusterInput)
    (provider : Option Resource) {s : Site} (hcloud : steady → s.cloud.NamesUnpriced) :
    RunsAlike steady (fun g g' => Matches steady g.2 g'.2) (component name x o provider s)
      (component name x p provider s) := by
  unfold component
  simp only [h.check]
  refine .bind_same fun _ u => .bind_same fun self u' => ?_
  refine (runsAlike_create h hprofile x ?steady).bind fun g g' v v' events same => ?_
  case steady => exact hcloud
  refine (RunsAlike.publish self fun given => by rw [same.whole given]).bind
    fun _ _ _ _ _ _ => .pure same

end Group

end StackGroup

namespace GroupOptions

/-- Options of one kind, of which the second have empty texts where the first have none. -/
inductive Blanks : GroupOptions → GroupOptions → Prop
  | stack {o p : WorkerOptions} : o.Blanks p → Blanks (.stack o) (.stack p)
  | template {o p : TemplateOptions} : o.Blanks p → Blanks (.template o) (.template p)
  | managed {o p : ManagedOptions} : o.Blanks p → Blanks (.managed o) (.managed p)

/-- The profile of the machines of a group of one's own. -/
def profile? : GroupOptions → Option Profile
  | stack o => some o.profile
  | template o => some o.profile
  | managed _ => none

/-- Options whose empty texts count as missing, as they are in `o`, but for an empty address of a
profile, which is taken for the address. -/
structure TakesEmptyForMissing (o p : GroupOptions) : Prop where
  check : ∀ name, GroupSpec.check ⟨name, p⟩ = GroupSpec.check ⟨name, o⟩
  plan : p.profile? = o.profile? → ∀ name x form s,
    RunsAlike s.cloud.NamesUnpriced Eq (o.planAs name x form s) (p.planAs name x form s)
  planEq : p.profile? = o.profile? → (∀ w, p ≠ .stack w) →
    ∀ name x form, p.planAs name x form = o.planAs name x form
  profile : p.profile? = o.profile? ∨ o.profile? = some .none ∧ p.profile? = some .empty
  address : ∀ f : Fleet, p = f.group → f.options.profile = .empty →
    (∀ default, f.options.profileArn default = .ok (Pure.pure (.text ""))) ∧
    ∀ name x form s m, .registered m ∈ (p.planAs name x form s).trace →
      m.ref = f.machineRef name → f.profileInput m = .text ""

theorem Blanks.check {o p : GroupOptions} (h : o.Blanks p) (name : Json) :
    GroupSpec.check ⟨name, p⟩ = GroupSpec.check ⟨name, o⟩ := by
  cases h with
  | stack h => exact h.check _
  | template h => exact h.check _
  | managed h => exact h.check _

/-- Only a group that is declared in the template of a stack is planned otherwise at all. -/
theorem Blanks.planAs_eq {o p : GroupOptions} (h : o.Blanks p) (hprofile : p.profile? = o.profile?)
    (hstack : ∀ w, p ≠ .stack w) (name : String) (x : ClusterInput) (form : GroupForm) :
    p.planAs name x form = o.planAs name x form := by
  cases h with
  | stack h => exact absurd rfl (hstack _)
  | template h =>
      have own := Option.some.inj hprofile
      cases form <;> simp only [planAs, TemplateGroup.component, h.check, h.templateGroup own]
  | managed h =>
      cases form <;> simp only [planAs, ManagedGroup.component, h.check, h.managedGroup]

theorem Blanks.runsAlike {o p : GroupOptions} (h : o.Blanks p) (hprofile : p.profile? = o.profile?)
    (name : String) (x : ClusterInput) (form : GroupForm) (s : Site) :
    RunsAlike s.cloud.NamesUnpriced Eq (o.planAs name x form s) (p.planAs name x form s) := by
  cases h with
  | stack h =>
      have own := Option.some.inj hprofile
      cases form with
      | placed placement =>
          exact (StackGroup.runsAlike_create h own x id).bind fun g g' _ _ _ same =>
            .pure (congrArg some same.group.symm)
      | component provider =>
          exact (StackGroup.runsAlike_component h own x provider id).bind fun g g' _ _ _ same =>
            .pure (congrArg some same.group.symm)
  | template h =>
      rw [(Blanks.template h).planAs_eq hprofile (fun _ => nofun)]
      exact .refl _
  | managed h =>
      rw [(Blanks.managed h).planAs_eq hprofile (fun _ => nofun)]
      exact .refl _

theorem Blanks.profile {o p : GroupOptions} (h : o.Blanks p) :
    p.profile? = o.profile? ∨ o.profile? = some .none ∧ p.profile? = some .empty := by
  have either {q r : Profile} (h : q.Blanks r) :
      some r = some q ∨ some q = some .none ∧ some r = some .empty := by
    cases h with
    | same p => exact .inl rfl
    | blank => exact .inr ⟨rfl, rfl⟩
  cases h with
  | stack h => exact either h.profile
  | template h => exact either h.profile
  | managed h => exact .inl rfl

/-- Empty texts count as missing: a group is checked alike, and the same resources are registered
and the same questions asked for it, with the same inputs but for an empty price. The one exception
is an empty address of a profile. -/
theorem empty_texts_count_as_missing {o p : GroupOptions} (h : o.Blanks p) :
    o.TakesEmptyForMissing p where
  check := h.check
  plan := h.runsAlike
  planEq := h.planAs_eq
  profile := h.profile
  address := by
    rintro f rfl hempty
    refine ⟨WorkerOptions.profileArn_of_empty hempty, fun name x form s m registered href => ?_⟩
    rw [trace_planAs] at registered
    exact f.profileInput_of_empty hempty registered href

end GroupOptions

/-- Options with a profile, and with empty texts for all others that may be missing. -/
def emptiedOptions : WorkerOptions :=
  let o := smallOptions smallProfile 20
  { o with
    machine := ⟨.now (some "t2.medium"), .now (some ""), .now (some ""), some "", false,
      .now (some "")⟩
    access := ⟨.now (some ""), .absent⟩
    startup := ⟨.now (some ""), .now (some ""), ⟨some "", none, none⟩, some ""⟩ }

theorem smallOptions_blanks {q r : Profile} (h : q.Blanks r) (size : Int) :
    (smallOptions q size).Blanks (smallOptions r size) := by
  constructor <;> first | exact h | exact TextInput.blanks_refl _ | exact .same _ | rfl

theorem smallOptions_blanks_emptied : (smallOptions smallProfile 20).Blanks emptiedOptions where
  placement := rfl
  type := rfl
  spotPrice := TextInput.blanks_empty
  image := TextInput.blanks_empty
  family := .blank
  gpu := rfl
  version := TextInput.blanks_empty
  firewall := rfl
  publicKey := TextInput.blanks_empty
  keyName := rfl
  volume := rfl
  userScript := TextInput.blanks_empty
  override := TextInput.blanks_empty
  extraArgs := .blank
  labels := rfl
  taints := rfl
  bootstrapArgs := .blank
  bounds := rfl
  profile := .same _
  groupTags := rfl
  stackTags := rfl

theorem empty_texts_count_as_missing_emptiedOptions :
    (GroupOptions.stack (smallOptions smallProfile 20)).TakesEmptyForMissing
      (.stack emptiedOptions) ∧ smallSite.cloud.NamesUnpriced := by
  refine ⟨GroupOptions.empty_texts_count_as_missing (.stack smallOptions_blanks_emptied), ?_⟩
  intro r r' same
  rw [Registration.putOut, Registration.putOut, Registration.ref_of_without same]
  rfl

/-- An empty address of a profile is taken where a missing one gives way to the cluster's, or is
found to be needed. -/
theorem empty_profile_taken :
    (smallOptions .none 20).Blanks (smallOptions .empty 20) ∧
    (smallOptions .none 20).profileArn (.text "arn:default") =
      .ok (Pure.pure (.text "arn:default")) ∧
    (smallOptions .empty 20).profileArn (.text "arn:default") = .ok (Pure.pure (.text "")) ∧
    (smallOptions .none 20).profileArn .null =
      .error (.missing ["instance_profile"] "an instance_profile is required") ∧
    (smallOptions .empty 20).profileArn .null = .ok (Pure.pure (.text "")) :=
  ⟨smallOptions_blanks .blank 20, rfl, rfl, rfl, rfl⟩

end FleetPlan
