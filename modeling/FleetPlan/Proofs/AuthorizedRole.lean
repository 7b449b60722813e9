import Mathlib.Data.List.Nodup
import FleetPlan.Cluster.Exports
import FleetPlan.Proofs.ClusterDeferral
import FleetPlan.Proofs.KnownInputs
import FleetPlan.Proofs.ManagedForms
import FleetPlan.Proofs.TravelledValues

/-!
Only admitted roles get a managed group, from what the cluster's stack exports to what is registered.

The roles that a cluster admits are read off two exports, one of which steps in for the other. A
managed group whose role is not among them is not registered, whatever else happens; if nothing else
stands in its way, it is registered with exactly its role or refused by that role's name.
-/
namespace FleetPlan

open Json

/-- What a cluster's stack exports of roles: several, or a single one, if any. -/
structure RoleExports where
  many : Option (List String)
  one : Option String

namespace RoleExports

/-- The single role, if it is given. -/
def single (e : RoleExports) : List String :=
  match e.one with
  | some arn => if arn = "" then [] else [arn]
  | none => []

/-- The roles that a cluster admits: the several ones if there are any, and otherwise the single
one. -/
def admitted (e : RoleExports) : List String :=
  match e.many with
  | some (arn :: arns) => arn :: arns
  | _ => e.single

/-- The exports as a stack sends them; one that is null is as good as missing. -/
structure AreSent (e : RoleExports) (sent : Entries Json) : Prop where
  distinct : (Entries.keys sent).Nodup
  many : Value.ofOption (Entries.get? sent "eks_instance_role_arns") =
    e.many.elim .null fun arns => .list (arns.map .text)
  one : Value.ofOption (Entries.get? sent "eks_node_role_arn") = .ofText e.one

end RoleExports

/-! What arrives of the exports. -/

namespace Json

theorem same_text_right (v : Json) (s : String) : same v (.text s) = true ↔ v = .text s := by
  cases v with
  | text t => rw [same, beq_iff_eq, Value.text.injEq]
  | null | bool _ | number _ | list _ | map _ => simp [same, sameNumber]
  | leaf a => cases a

end Json

namespace RoleExports

variable {e : RoleExports} {stack : String} {sent : Entries Json}

theorem outcome_get (stack : String) (h : e.AreSent sent) :
    ((StackReference.ofSent stack sent).get "eks_instance_role_arns").outcome =
        .ok (e.many.elim .null fun arns => .list (arns.map .text)) ∧
      ((StackReference.ofSent stack sent).get "eks_node_role_arn").outcome = .ok (.ofText e.one) := by
  have reserved : isReserved "eks_instance_role_arns" = false ∧
      isReserved "eks_node_role_arn" = false := by decide
  have many := get?_wireEntries h.distinct reserved.1
  have one := get?_wireEntries h.distinct reserved.2
  rw [h.many] at many
  rw [h.one] at one
  constructor
  · show Except.ok _ = _
    rw [StackReference.ofSent, many]
    cases e.many with
    | none => rw [Option.elim, wire_null]
    | some arns => rw [Option.elim, wire, wireList_texts]
  · show Except.ok _ = _
    rw [StackReference.ofSent, one]
    cases e.one with
    | none => rw [Value.ofText, wire_null]
    | some arn => rw [Value.ofText, wire_text]

theorem map_text_single (e : RoleExports) :
    (if (Value.ofText e.one : Json).isTruthy then [.ofText e.one] else [] : List Json) =
      e.single.map .text := by
  rw [single]
  cases e.one with
  | none => rfl
  | some arn =>
      by_cases harn : arn = ""
      · subst harn
        rfl
      · simp [Value.ofText, Value.isTruthy, harn]

theorem outcome_admittedRoles (stack : String) (h : e.AreSent sent) :
    (StackReference.ofSent stack sent).admittedRoles.outcome =
      .ok (.list (e.admitted.map .text)) := by
  obtain ⟨many, one⟩ := outcome_get stack h
  rw [StackReference.admittedRoles, Deferred.outcome_bind_of_ok many,
    Deferred.outcome_bind_of_ok one, admitted, map_text_single]
  rcases e.many with _ | _ | ⟨arn, arns⟩ <;> rfl

end RoleExports

/-! The role that a group asks for. -/

theorem Json.any_same_texts (v : Json) (arns : List String) :
    (arns.map .text).any v.same = true ↔ v ∈ arns.map .text := by
  rw [List.any_eq_true]
  constructor
  · rintro ⟨w, hw, hsame⟩
    obtain ⟨arn, _, rfl⟩ := List.mem_map.mp hw
    rwa [(same_text_right v arn).mp hsame]
  · intro hv
    obtain ⟨arn, _, rfl⟩ := List.mem_map.mp hv
    exact ⟨_, hv, (same_text_right _ arn).mpr rfl⟩

namespace ManagedGroup

variable {name : String} {o : ManagedOptions} {x : ClusterInput} {s : Site} {form : GroupForm}

/-- The role that accepted options ask for is there: an address that is given, or else that of a
role that is given. -/
theorem askedRole_of_check (h : o.check name = .ok ()) :
    o.role = none ∧ askedRole o = o.roleArn.value ∨
      ∃ role, o.role = some role ∧ askedRole o = role.output "arn" := by
  unfold ManagedOptions.check at h
  split at h
  · cases h
  · rename_i given
    split at h
    · cases h
    · rename_i apart
      cases hrole : o.role with
      | none =>
          have truthy : o.roleArn.isTruthy = true := by
            by_contra untruthy
            exact given ⟨by rw [hrole]; rfl, by simpa using untruthy⟩
          exact .inl ⟨rfl, by rw [askedRole, if_pos truthy]⟩
      | some role =>
          have untruthy : ¬ o.roleArn.isTruthy = true := fun truthy =>
            apart ⟨by rw [hrole]; rfl, truthy⟩
          exact .inr ⟨role, rfl, by rw [askedRole, if_neg untruthy, hrole]⟩

section Role

variable {cluster : Deferred Cluster} {arns : List String} {v : Json}

theorem outcome_role (hadmits : (cluster.part Cluster.roleArns).outcome = .ok (.list (arns.map .text)))
    (hasked : (askedRole o).outcome = .ok v) :
    (role o cluster).outcome =
      if (arns.map .text).any v.same then .ok v else .error (.roleNotAuthorized v) := by
  have read : (if (Value.list (arns.map .text) : Json).isTruthy then .list (arns.map .text)
      else .list [] : Json) = .list (arns.map .text) := by
    cases arns <;> rfl
  rw [role, Deferred.outcome_bind_of_ok hasked, Deferred.outcome_bind_of_ok hadmits, read,
    authorizedRole, contains?_list]
  cases (arns.map .text).any v.same <;> rfl

theorem outcome_role_of_mem
    (hadmits : (cluster.part Cluster.roleArns).outcome = .ok (.list (arns.map .text)))
    (hasked : (askedRole o).outcome = .ok v) (hv : v ∈ arns.map .text) :
    (role o cluster).outcome = .ok v := by
  rw [outcome_role hadmits hasked, if_pos ((any_same_texts v arns).mpr hv)]

theorem outcome_role_of_not_mem
    (hadmits : (cluster.part Cluster.roleArns).outcome = .ok (.list (arns.map .text)))
    (hasked : (askedRole o).outcome = .ok v) (hv : v ∉ arns.map .text) :
    (role o cluster).outcome = .error (.roleNotAuthorized v) := by
  rw [outcome_role hadmits hasked, if_neg fun hsame => hv ((any_same_texts v arns).mp hsame)]

theorem asked_of_outcome_role
    (hadmits : (cluster.part Cluster.roleArns).outcome = .ok (.list (arns.map .text)))
    (h : (role o cluster).outcome = .ok v) :
    (askedRole o).outcome = .ok v ∧ v ∈ arns.map .text := by
  cases hasked : (askedRole o).outcome with
  | error e =>
      rw [role, Deferred.outcome_bind_of_error hasked] at h
      cases h
  | ok w =>
      by_cases hw : w ∈ arns.map .text
      · rw [outcome_role_of_mem hadmits hasked hw] at h
        cases h
        exact ⟨rfl, hw⟩
      · rw [outcome_role_of_not_mem hadmits hasked hw] at h
        cases h

end Role

/-- Nothing but its role stands in the way of a managed group: it has a name and a sound placement,
all its other properties are known and of their kind, and nothing that it stands below, is served by
or waits for has failed. -/
structure IsReady (name : String) (x : ClusterInput) (o : ManagedOptions) (s : Site)
    (form : GroupForm) : Prop where
  named : (draftOf name x o s form).Named
  others : (draftOf name x o s form).KnownBut ["nodeRoleArn"]
  waits : (draftOf name x o s form).CanWait (form.site (self name) s).past

theorem distinct_draftOf :
    (Entries.keys (draftOf name x o s form).properties).Nodup := by
  simp only [draftOf, draft, Entries.keys, List.map_cons, List.map_nil]
  decide

theorem spelled_draftOf : ∀ key ∈ Entries.keys (draftOf name x o s form).properties,
    Shape.keyOf (groupRef name).properties key = key := by
  have declared : (groupRef name).properties = (groupRef "").properties := rfl
  simp only [declared, draftOf, draft, Entries.keys, List.map_cons, List.map_nil]
  decide

theorem role_mem_properties :
    ("nodeRoleArn", role o x.cluster) ∈ (draftOf name x o s form).properties := by
  simp only [draftOf, draft]
  exact .tail _ (.tail _ (.head _))

theorem eq_role_of_key {p : String × Deferred Json}
    (hp : p ∈ (draftOf name x o s form).properties) (hkey : p.1 ∈ ["nodeRoleArn"]) :
    p = ("nodeRoleArn", role o x.cluster) :=
  List.inj_on_of_nodup_map distinct_draftOf hp role_mem_properties (List.mem_singleton.mp hkey)

section Admitted

variable {arns : List String}

theorem role_of_registered
    (hadmits : (x.cluster.part Cluster.roleArns).outcome = .ok (.list (arns.map .text)))
    {r : Registration} (h : .registered r ∈ history name x o s form)
    (href : r.ref = groupRef name) :
    ∃ arn ∈ arns, (askedRole o).outcome = .ok (.text arn) ∧
      Entries.get? r.inputs "nodeRoleArn" = some (.text arn) := by
  have settled := settle_of_registered h href
  have own : isReserved "nodeRoleArn" = false := by decide
  obtain ⟨w, hw⟩ := Draft.outcome_of_settle settled role_mem_properties
  obtain ⟨hasked, hmem⟩ := asked_of_outcome_role hadmits hw
  obtain ⟨arn, harn, rfl⟩ := List.mem_map.mp hmem
  exact ⟨arn, harn, hasked, Draft.get?_inputs_text settled distinct_draftOf spelled_draftOf
    role_mem_properties own hw⟩

theorem IsReady.registered (h : IsReady name x o s form) (hchecked : o.check name = .ok ())
    (hadmits : (x.cluster.part Cluster.roleArns).outcome = .ok (.list (arns.map .text)))
    {v : Json} (hasked : (askedRole o).outcome = .ok v) (hv : v ∈ arns.map .text) :
    (history name x o s form).verdicts (groupRef name) = [none] := by
  obtain ⟨r, hr⟩ : ∃ r, (draftOf name x o s form).settle (form.site (self name) s).past = .ok r := by
    refine Draft.exists_settle h.others (fun p hp hkey => ?_) h.waits
    obtain ⟨arn, _, rfl⟩ := List.mem_map.mp hv
    rw [eq_role_of_key hp hkey]
    exact ⟨_, outcome_role_of_mem hadmits hasked hv,
      Draft.takes_textOrNull (isTextOrNull_text arn)⟩
  rw [verdicts_history hchecked h.named, Draft.attempt, hr]

theorem IsReady.refused (h : IsReady name x o s form) (hchecked : o.check name = .ok ())
    (hadmits : (x.cluster.part Cluster.roleArns).outcome = .ok (.list (arns.map .text)))
    {v : Json} (hasked : (askedRole o).outcome = .ok v) (hv : v ∉ arns.map .text) :
    (history name x o s form).verdicts (groupRef name) = [some (.roleNotAuthorized v)] := by
  have fails := outcome_role_of_not_mem hadmits hasked hv
  obtain ⟨p, hp, hkey, e, he, hsettle⟩ := Draft.settle_error h.others
    ⟨_, role_mem_properties, _, fails⟩ (form.site (self name) s).past
  rw [eq_role_of_key hp hkey, fails] at he
  cases he
  rw [verdicts_history hchecked h.named, Draft.attempt, hsettle]

end Admitted

theorem outcome_roleArns {e : RoleExports} {stack : String} {sent : Entries Json}
    (hsent : e.AreSent sent) (hx : x.Offers (StackReference.ofSent stack sent).cluster) :
    (x.cluster.part Cluster.roleArns).outcome = .ok (.list (e.admitted.map .text)) := by
  rw [ClusterInput.cluster_of_offers hx]
  exact RoleExports.outcome_admittedRoles stack hsent

end ManagedGroup

/-- A managed group that is accepted asks for a role that is given; it is registered only with that
role, and only if the stack of its cluster exports it as one that is admitted. If nothing else stands
in its way, it is registered if that role is admitted, and refused by that role's name if not. -/
theorem managedGroup_gated {e : RoleExports} {stack : String} {sent : Entries Json}
    (hsent : e.AreSent sent) {x : ClusterInput}
    (hx : x.Offers (StackReference.ofSent stack sent).cluster) {name : String} {o : ManagedOptions}
    (hchecked : o.check name = .ok ()) (s : Site) (form : GroupForm) :
    (o.role = none ∧ ManagedGroup.askedRole o = o.roleArn.value ∨
      ∃ role, o.role = some role ∧ ManagedGroup.askedRole o = role.output "arn") ∧
    (∀ r, .registered r ∈ ManagedGroup.history name x o s form →
      r.ref = ManagedGroup.groupRef name →
        ∃ arn ∈ e.admitted, (ManagedGroup.askedRole o).outcome = .ok (.text arn) ∧
          Entries.get? r.inputs "nodeRoleArn" = some (.text arn)) ∧
    (ManagedGroup.IsReady name x o s form →
      ∀ v, (ManagedGroup.askedRole o).outcome = .ok v →
        (v ∈ e.admitted.map .text →
          (ManagedGroup.history name x o s form).verdicts (ManagedGroup.groupRef name) =
            [none]) ∧
        (v ∉ e.admitted.map .text →
          (ManagedGroup.history name x o s form).verdicts (ManagedGroup.groupRef name) =
            [some (.roleNotAuthorized v)])) := by
  have hadmits := ManagedGroup.outcome_roleArns hsent hx
  refine ⟨ManagedGroup.askedRole_of_check hchecked, fun r hr href => ?_, fun ready v hasked => ?_⟩
  · exact ManagedGroup.role_of_registered hadmits hr href
  · exact ⟨ready.registered hchecked hadmits hasked, ready.refused hchecked hadmits hasked⟩

/-- What a small cluster's stack exports; a single role takes the place of several. -/
def smallExports : Entries Json := [
  ("eks_cluster_name", .text "c"),
  ("private_subnet_ids", .list [.text "a"]),
  ("eks_instance_role_arns", .null),
  ("eks_node_role_arn", .text "arn:nodes")]

/-- The description that is read off them. -/
def smallExporter : ClusterInput :=
  .descriptor (StackReference.ofSent "cluster" smallExports).cluster

/-- The roles among them. -/
def smallRoles : RoleExports := ⟨none, some "arn:nodes"⟩

theorem smallRoles_areSent : smallRoles.AreSent smallExports := ⟨by decide, rfl, rfl⟩

theorem smallManagedOptions_isReady (arn : String) :
    ManagedGroup.IsReady "workers" smallExporter (smallManagedOptions arn) smallSite
      (.component none) := by
  have named : "workers" ≠ "" := by decide
  have placed : ((GroupForm.component none).placement (ManagedGroup.self "workers")
      smallSite).IsReady := ⟨rfl, rfl, rfl⟩
  have unfailed : History.Unfailed [(ManagedGroup.self "workers").event []] :=
    Draft.unfailed_event (settle_groupSelf [])
  have text {key : String} (v : Option String) :
      (ManagedGroup.draftOf "workers" smallExporter (smallManagedOptions arn) smallSite
        (.component none)).Takes key (.ofText v) :=
    Draft.takes_textOrNull ⟨v, rfl⟩
  have subnets : Shape.takes (ManagedGroup.groupRef "workers").properties "subnetIds"
      (.list [.text "a"]) = true := by decide
  have scaling : Shape.takes (ManagedGroup.groupRef "workers").properties "scalingConfig"
      Range.small.scaling = true := by decide
  have sendable : Json.isSendable Range.small.scaling = true := by decide
  refine ⟨⟨named, placed.sound⟩, ⟨placed.parent, placed.neededProvider rfl, ?_⟩,
    ⟨fun _ _ _ _ => ?_, fun _ _ => ?_, ⟨[], rfl, List.forall_mem_nil _⟩⟩⟩
  · simp only [ManagedGroup.draftOf, ManagedGroup.draft, List.forall_mem_cons]
    exact ⟨fun _ => ⟨_, rfl, text (some "c")⟩, fun _ => ⟨_, rfl, text none⟩,
      fun h => absurd (.head _) h, fun _ => ⟨_, rfl, subnets, rfl⟩,
      fun _ => ⟨_, rfl, scaling, sendable⟩, fun _ => ⟨_, rfl, text none⟩,
      fun _ => ⟨_, rfl, text none⟩, fun _ => ⟨_, rfl, text none⟩, fun _ => ⟨_, rfl, text none⟩,
      fun _ => ⟨_, rfl, text none⟩, fun _ => ⟨_, rfl, text none⟩, fun _ => ⟨_, rfl, text none⟩,
      fun _ => ⟨_, rfl, text none⟩, fun _ => ⟨_, rfl, text none⟩, fun _ => ⟨_, rfl, text none⟩,
      fun _ => ⟨_, rfl, text none⟩, fun _ => ⟨_, rfl, text none⟩, fun _ => ⟨_, rfl, text none⟩,
      List.forall_mem_nil _⟩
  · exact History.stands_of_unfailed unfailed rfl
  · exact History.stands_of_unfailed unfailed rfl

theorem managedGroup_gated_smallExports :
    (ManagedGroup.history "workers" smallExporter (smallManagedOptions "arn:nodes") smallSite
      (.component none)).verdicts (ManagedGroup.groupRef "workers") = [none] ∧
    (ManagedGroup.history "workers" smallExporter (smallManagedOptions "arn:other") smallSite
      (.component none)).verdicts (ManagedGroup.groupRef "workers") =
        [some (.roleNotAuthorized (.text "arn:other"))] := by
  have other : (Value.text "arn:other" : Json) ∉ smallRoles.admitted.map Value.text := by
    intro h
    have same := Value.text.inj (List.mem_singleton.mp h)
    revert same
    decide
  have admitted := (managedGroup_gated smallRoles_areSent .now rfl smallSite (.component none)).2.2
    (smallManagedOptions_isReady "arn:nodes") _ rfl
  have refused := (managedGroup_gated smallRoles_areSent .now rfl smallSite (.component none)).2.2
    (smallManagedOptions_isReady "arn:other") _ rfl
  exact ⟨admitted.1 (.head _), refused.2 other⟩

end FleetPlan
