import FleetPlan.Proofs.GroupInventory
import FleetPlan.Proofs.ManagedForms

/-!
Whatever happens for a group happens at the group's placement.

Every resource of a group is one of the cloud's, stands below the group's parent and is served by the
group's provider, and so is every question that is asked on the way, however deep in a lookup. So all
that a component with a provider of its own does is done below the component and through that
provider.
-/
namespace FleetPlan

open Plan

/-- An event at a placement: a resource of the cloud is tried there, or a question asked. -/
def Event.IsPlaced (placement : Placement) : Event → Prop
  | registered r => r.ref.isOfCloud = true ∧ r.parent = placement.parent.map Resource.ref ∧
      r.provider = placement.server.map Provider.name
  | refused ref parent _ _ => ref.isOfCloud = true ∧ parent = placement.parent.map Resource.ref
  | asked c => c.parent = placement.parent.map Resource.ref ∧
      c.provider = placement.server.map Provider.name
  | published _ _ | unpublished _ _ => False

theorem Event.isPlaced_callOf (placement : Placement) (q : Question) :
    (Event.asked (callOf placement q)).IsPlaced placement := ⟨rfl, rfl⟩

theorem Draft.isPlaced_event {d : Draft} {placement : Placement} (hp : d.placement = placement)
    (hcloud : d.ref.isOfCloud = true) (past : History) : (d.event past).IsPlaced placement := by
  subst hp
  unfold Draft.event
  cases hs : d.settle past with
  | error e => exact ⟨hcloud, rfl⟩
  | ok r =>
      obtain ⟨_, _, _, _, _, _, rfl⟩ := Draft.settle_eq_ok hs
      refine ⟨hcloud, rfl, ?_⟩
      simp only [Draft.registration, Draft.server, hcloud, if_true]

theorem isOfCloud_of_mem_supportTypes {type : String} (h : type ∈ supportTypes) (name : String) :
    (⟨type, name⟩ : ResourceRef).isOfCloud = true := by
  have every : ∀ type ∈ supportTypes,
      "aws:".toList.isPrefixOf type.toList = true := by decide
  exact every type h

theorem Fleet.isOfCloud_scalerRef (name : String) (f : Fleet) :
    (f.scalerRef name).isOfCloud = true := by
  cases f <;> (simp only [scalerRef, ResourceRef.isOfCloud]; decide)

/-! Groups at a placement. -/

section Placed

variable (name : String) (x : ClusterInput) (placement : Placement) (s : Site)

theorem Fleet.ensures_isPlaced (f : Fleet) :
    Ensures (Event.IsPlaced placement) (fun _ => True) (f.plan name x placement) s := by
  refine Ensures.bind (P := fun _ => True) (ensures_ofExcept fun _ _ => trivial) fun _ _ _ _ => ?_
  have registered (d : Draft) (past : History) (htype : d.type ∈ supportTypes)
      (_ : d.isComponent = false) (hp : d.placement = placement) :
      (d.event past).IsPlaced placement :=
    Draft.isPlaced_event hp (isOfCloud_of_mem_supportTypes htype d.name) past
  refine (ensures_draftsOf registered (Event.isPlaced_callOf placement) f).bind
    fun d _ _ ⟨serves, placed⟩ => ?_
  have machine : d.machine.ref.isOfCloud = true :=
    serves.machineRef ▸ Fleet.isOfCloud_machineRef name f
  have scaler (m : Resource) : (d.scaler m).ref.isOfCloud = true :=
    serves.scalerRef m ▸ Fleet.isOfCloud_scalerRef name f
  refine (ensures_register (P := fun _ => True) fun _ => ⟨?_, trivial⟩).bind fun m _ _ _ => ?_
  · exact Draft.isPlaced_event placed.machine machine _
  refine (ensures_register (P := fun _ => True) fun _ => ⟨?_, trivial⟩).bind fun _ _ _ _ => ?_
  · exact Draft.isPlaced_event (placed.scaler m) (scaler m) _
  · exact ensures_pure trivial

theorem Fleet.isPlaced_run (f : Fleet) : ∀ e ∈ f.run name x placement s, e.IsPlaced placement := by
  rw [f.run_eq]
  exact (f.ensures_isPlaced name x placement s).1

theorem ManagedGroup.isPlaced_create (o : ManagedOptions) :
    ∀ e ∈ (create name x o placement s).trace, e.IsPlaced placement := by
  intro e he
  rw [mem_trace_create he]
  exact Draft.isPlaced_event rfl (by simp only [draft, Draft.ref, ResourceRef.isOfCloud]; decide) _

end Placed

/-! Groups as components. -/

/-- An event of a component: the component itself is tried or makes itself known, or below it and
through its provider a resource of the cloud is tried or a question asked. -/
def Event.BelongsTo (self : ResourceRef) (provider : String) : Event → Prop
  | registered r =>
      if r.ref.isOfCloud then r.parent = some self ∧ r.provider = some provider else r.ref = self
  | refused ref parent _ _ => if ref.isOfCloud then parent = some self else ref = self
  | asked c => c.parent = some self ∧ c.provider = some provider
  | published component _ | unpublished component _ => component = self

/-- All that happened belongs to one component and its provider. -/
def History.BelongsTo (past : History) (self : ResourceRef) (provider : String) : Prop :=
  ∀ e ∈ past, e.BelongsTo self provider

theorem Event.IsPlaced.belongsTo {r p : Resource} {e : Event}
    (h : e.IsPlaced ⟨some r, some p⟩) : e.BelongsTo r.ref p.ref.name := by
  cases e with
  | registered _ | refused _ _ _ _ => exact (if_pos h.1).mpr h.2
  | asked _ => exact h
  | published _ _ | unpublished _ _ => exact h.elim

theorem GroupOptions.isOfCloud_self (o : GroupOptions) (name : String) :
    (⟨o.self.type, name⟩ : ResourceRef).isOfCloud = false := by
  have every : ∀ type ∈ [StackGroup.componentType, TemplateGroup.componentType,
      ManagedGroup.componentType], "aws:".toList.isPrefixOf type.toList = false := by decide
  cases o with
  | stack _ => exact every _ (.head _)
  | template _ => exact every _ (.tail _ (.head _))
  | managed _ => exact every _ (.tail _ (.tail _ (.head _)))

theorem belongsTo_groupSelf {type name : String}
    (hself : (⟨type, name⟩ : ResourceRef).isOfCloud = false) (provider : String) (past : History) :
    ((groupSelf type name).event past).BelongsTo ⟨type, name⟩ provider := by
  unfold Draft.event
  cases hs : (groupSelf type name).settle past with
  | error e => simp [Event.BelongsTo, Draft.ref, groupSelf, hself]
  | ok r =>
      have href : r.ref = ⟨type, name⟩ := Draft.ref_of_settle hs
      simp only [Event.BelongsTo, href, hself, Bool.false_eq_true, if_false]

theorem belongsTo_publish (component : Resource) (outputs : Entries (Deferred Json))
    (provider : String) (s : Site) :
    History.BelongsTo (publish component outputs s).trace component.ref provider := by
  intro e he
  rcases trace_publish component outputs s with ⟨_, ht⟩ | ⟨_, ht⟩ <;>
    · rw [ht, List.mem_singleton] at he
      rw [he]
      exact rfl

theorem belongsTo_componentPlan {α : Type} {check : Except Failure Unit} {type name : String}
    {p : Resource} {create : Resource → Plan α} {outputs : α → Entries (Deferred Json)}
    (hself : (⟨type, name⟩ : ResourceRef).isOfCloud = false)
    (placed : ∀ r s, ∀ e ∈ (create r s).trace, e.IsPlaced ⟨some r, some p⟩) (s : Site) :
    History.BelongsTo (componentPlan check (groupSelf type name) create outputs s).trace
      ⟨type, name⟩ p.ref.name := by
  suffices all : Ensures (Event.BelongsTo ⟨type, name⟩ p.ref.name) (fun _ => True)
      (componentPlan check (groupSelf type name) create outputs) s from all.1
  refine Ensures.bind (P := fun _ => True) (ensures_ofExcept fun _ _ => trivial) fun _ _ _ _ => ?_
  refine (ensures_register (P := fun r => r.ref = ⟨type, name⟩) fun _ => ⟨?_, rfl⟩).bind
    fun r _ _ hr => ?_
  · exact belongsTo_groupSelf hself _ _
  refine Ensures.bind (P := fun _ => True) ⟨fun e he => ?_, fun _ _ => trivial⟩ fun a _ _ _ => ?_
  · exact hr ▸ (placed r _ e he).belongsTo
  refine Ensures.bind (P := fun _ => True) ⟨fun e he => ?_, fun _ _ => trivial⟩ fun _ _ _ _ => ?_
  · exact hr ▸ belongsTo_publish r (outputs a) p.ref.name _ e he
  · exact ensures_pure trivial

/-- What becomes of an answer plays no part in what belongs to a component. -/
theorem belongsTo_bind_pure {α β : Type} {x : Plan α} {g : α → β} {s : Site} {self : ResourceRef}
    {provider : String} (h : History.BelongsTo (x s).trace self provider) :
    History.BelongsTo ((x >>= fun a => Pure.pure (g a)) s).trace self provider := by
  rw [trace_bind_pure]
  exact h

/-- A component that is given a provider does all that it does below itself and through that
provider: whatever it registers but itself is of the cloud, has it for a parent and is served by the
provider, and each of its questions, on every way of a lookup, is asked as its child and of the
provider. -/
theorem component_belongsTo (o : GroupOptions) (name : String) (x : ClusterInput) (p : Resource)
    (s : Site) :
    History.BelongsTo (o.planAs name x (.component (some p)) s).trace ⟨o.self.type, name⟩
      p.ref.name := by
  have hself := o.isOfCloud_self name
  cases o with
  | stack o =>
      have placed (r : Resource) := (Fleet.stack o).isPlaced_run name x ⟨some r, some p⟩
      exact belongsTo_bind_pure (belongsTo_componentPlan hself placed s)
  | template o =>
      have placed (r : Resource) := (Fleet.template o).isPlaced_run name x ⟨some r, some p⟩
      exact belongsTo_bind_pure (belongsTo_componentPlan hself placed s)
  | managed o =>
      have placed (r : Resource) (s : Site) := ManagedGroup.isPlaced_create name x ⟨some r, some p⟩ s o
      exact belongsTo_bind_pure (belongsTo_componentPlan hself placed s)

end FleetPlan
