import FleetPlan.Request.WorkerOptions

/-!
The types of the resources among options.

A resource is read only where one of its type is wanted, so whatever options are read, the security
group and the rule among them are one of each.
-/
namespace FleetPlan

open Reader Checked

/-- The pair that a group is given is of the types that options may hold. -/
structure Firewall.IsTyped (f : Firewall) : Prop where
  group : ∀ g, f.group = some g → g.ref.type = ResourceRef.securityGroupType
  rule : ∀ r, f.ingressRule = some r → r.ref.type = ResourceRef.securityGroupRuleType

theorem Checked.withFaults_eq_ok {α : Type} {x : Checked α} {more : List FieldFault} {a : α}
    (h : withFaults x more = .ok a) : x = .ok a := by
  unfold withFaults at h
  split at h
  · exact h
  · cases h
  · cases h

theorem Checked.map_eq_ok {α β : Type} {x : Checked α} {f : α → β} {b : β}
    (h : x.map f = .ok b) : ∃ a, x = .ok a ∧ f a = b := by
  cases x with
  | error fs => cases h
  | ok a =>
      cases h
      exact ⟨a, rfl, rfl⟩

theorem type_of_optional_resource {es : Entries Setting} {key type : String} {r : Resource}
    (h : field es key none (optional (resource type)) = .ok (some r)) : r.ref.type = type := by
  have read {v : Setting} {r : Resource} (h : resource type v = .ok r) : r.ref.type = type := by
    unfold resource at h
    split at h
    · split at h
      case isTrue own =>
        cases h
        exact own
      case isFalse => cases h
    · cases h
  have optionally {v : Setting} (h : optional (resource type) v = .ok (some r)) :
      r.ref.type = type := by
    unfold Reader.optional at h
    split at h
    · cases h
    · obtain ⟨_, hread, hsome⟩ := map_eq_ok h
      cases hsome
      exact read hread
  unfold field at h
  split at h
  · cases h
  · rename_i v _
    cases hv : optional (resource type) v with
    | error fs => rw [hv] at h; cases h
    | ok r' =>
        rw [hv] at h
        cases h
        exact optionally hv

theorem WorkerOptions.isTyped_of_readFields {es : Entries Setting} {o : WorkerOptions}
    (h : readFields es = .ok o) : o.firewall.IsTyped := by
  obtain ⟨_, _, tagged, _, rfl⟩ := apply_eq_ok.mp h
  obtain ⟨_, _, grouped, _, rfl⟩ := apply_eq_ok.mp tagged
  obtain ⟨_, _, profiled, _, rfl⟩ := apply_eq_ok.mp grouped
  obtain ⟨_, _, bounded, _, rfl⟩ := apply_eq_ok.mp profiled
  obtain ⟨_, _, started, _, rfl⟩ := apply_eq_ok.mp bounded
  obtain ⟨_, _, stored, _, rfl⟩ := apply_eq_ok.mp started
  obtain ⟨_, _, reached, _, rfl⟩ := apply_eq_ok.mp stored
  obtain ⟨_, _, walled, hfirewall, rfl⟩ := apply_eq_ok.mp reached
  obtain ⟨_, _, placed, _, rfl⟩ := apply_eq_ok.mp walled
  obtain ⟨_, _, rfl⟩ := map_eq_ok placed
  obtain ⟨_, _, ruled, _, rfl⟩ := apply_eq_ok.mp hfirewall
  obtain ⟨_, rule, paired, hrule, rfl⟩ := apply_eq_ok.mp ruled
  obtain ⟨group, hgroup, rfl⟩ := map_eq_ok paired
  refine ⟨fun g hg => ?_, fun r hr => ?_⟩
  · cases hg
    exact type_of_optional_resource hgroup
  · cases hr
    exact type_of_optional_resource hrule

theorem WorkerOptions.isTyped_of_ofFields {es : Entries Setting} {o : WorkerOptions}
    (h : ofFields es = .ok o) : o.firewall.IsTyped :=
  isTyped_of_readFields (withFaults_eq_ok h)

theorem TemplateOptions.isTyped_of_ofFields {es : Entries Setting} {o : TemplateOptions}
    (h : ofFields es = .ok o) : o.firewall.IsTyped := by
  obtain ⟨_, _, refreshed, _, rfl⟩ := apply_eq_ok.mp (withFaults_eq_ok h)
  obtain ⟨_, _, read, _, rfl⟩ := apply_eq_ok.mp refreshed
  obtain ⟨_, hworker, rfl⟩ := map_eq_ok read
  exact WorkerOptions.isTyped_of_readFields hworker

end FleetPlan
