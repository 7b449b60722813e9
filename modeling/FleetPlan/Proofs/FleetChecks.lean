import FleetPlan.Proofs.FleetDrafts
import FleetPlan.Proofs.KnownInputs

/-!
The two checks that a group of one's own has to pass once its inputs are known.

A group has to have a profile, its own or the cluster's; and a security group that the user brings
cannot be combined with tags that the cluster puts on another. Each check is part of a value that the
description of the machines is made of, so that value fails exactly when the check does.
-/
namespace FleetPlan

open Json

/-- No profile is given, and the cluster has none to lend. -/
def WorkerOptions.LacksProfile (o : WorkerOptions) (cluster : Deferred Cluster) : Prop :=
  o.profile.arn.isGiven = false ∧
    ((cluster.part Cluster.profileArn).outcome = .ok .null ∨
      (cluster.part Cluster.profileArn).outcome = .ok (.text ""))

/-- A security group is given, and the cluster has tags for the groups of its nodes and another
group, or none, as theirs. -/
def WorkerOptions.GroupConflicts (o : WorkerOptions) (cluster : Deferred Cluster) : Prop :=
  ∃ g id own tags, o.firewall.group = some g ∧ g.id.outcome = .ok (.text id) ∧
    (cluster.part Cluster.nodeGroup).outcome = .ok own ∧ own ≠ .text id ∧
    (cluster.part Cluster.nodeGroupTags).outcome = .ok (.map tags) ∧ tags ≠ []

namespace Failure

/-- What a group without a profile fails with. -/
def noProfile : Failure := .missing ["instance_profile"] "an instance_profile is required"

/-- What a group fails with whose security group is at odds with the cluster's tags. -/
def groupConflict : Failure :=
  .conflict ["node_security_group", "node_security_group_tags"]
    ("The NodeGroup's node_security_group and the cluster option node_security_group_tags " ++
      "are mutually exclusive. Choose a single approach")

end Failure

theorem Json.same_text (s : String) (v : Json) : same (.text s) v = true ↔ v = .text s := by
  cases v with
  | text t =>
      rw [same, beq_iff_eq, Value.text.injEq]
      exact eq_comm
  | null | bool _ | number _ | list _ | map _ => simp [same]
  | leaf a => cases a

section Checks

variable {o : WorkerOptions} {cluster : Deferred Cluster} {pair : GroupPair} {name : String}

theorem outcome_profileOf (h : o.LacksProfile cluster) :
    (Preparation.profileOf o cluster).outcome = .error .noProfile := by
  obtain ⟨hgiven, hpart⟩ := h
  rcases hpart with hpart | hpart
  · rw [Preparation.profileOf, Deferred.outcome_bind_of_ok hpart]
    simp only [WorkerOptions.profileArn, hgiven]
    rfl
  · rw [Preparation.profileOf, Deferred.outcome_bind_of_ok hpart]
    simp only [WorkerOptions.profileArn, hgiven]
    rfl

theorem holds_profileOf (hc : cluster.Holds Cluster.IsKnown) (ho : o.IsKnown)
    (h : ¬ o.LacksProfile cluster) : (Preparation.profileOf o cluster).Holds IsTextOrNull := by
  have isText : Cluster.profileArn ∈ Cluster.textParts := by simp [Cluster.textParts]
  obtain ⟨v, hv, known⟩ := Deferred.holds_textPart hc isText
  rw [Deferred.Holds, Preparation.profileOf, Deferred.outcome_bind_of_ok hv]
  cases hgiven : o.profile.arn.isGiven with
  | true =>
      simp only [WorkerOptions.profileArn, hgiven, if_true]
      exact ho.texts _ (by simp [WorkerOptions.textInputs])
  | false =>
      have truthy : v.isTruthy = true := by
        by_contra falsy
        refine h ⟨hgiven, ?_⟩
        obtain ⟨_ | t, rfl⟩ := known
        · exact .inl hv
        · right
          rw [hv]
          simpa [Value.isTruthy, Value.ofText] using falsy
      simp only [WorkerOptions.profileArn, hgiven, truthy, if_true, Bool.false_eq_true, if_false]
      exact Deferred.holds_pure known

theorem checkGroupTags_eq_ok {id : String} {own tags : Json}
    (h : tags.isTruthy = true → own = .text id) : checkGroupTags (.text id) own tags = .ok () := by
  unfold checkGroupTags
  split
  · rfl
  case isFalse given =>
    have truthy : tags.isTruthy = true := by
      by_contra falsy
      exact given (.inr (Bool.eq_false_iff.mpr falsy))
    simp only [(same_text id own).mpr (h truthy), Bool.true_eq_false, if_false]

theorem checkGroupTags_eq_error {id : String} {own : Json} {tags : Entries Json}
    (hown : own ≠ .text id) (htags : tags ≠ []) :
    checkGroupTags (.text id) own (.map tags) = .error .groupConflict := by
  have truthy : (Value.map tags : Json).isTruthy = true := by
    cases tags with
    | nil => exact absurd rfl htags
    | cons _ _ => rfl
  have other : same (.text id) own = false := by
    rw [← Bool.not_eq_true, same_text]
    exact hown
  simp only [checkGroupTags, truthy, other, Value.isNull, Bool.false_eq_true, Bool.true_eq_false,
    or_self, if_false, if_true]
  rfl

/-- A conflict shows in the ids of the groups, unless already the rule has failed. -/
theorem outcome_groupIdsOf (h : o.GroupConflicts cluster) (hp : pair.Serves name o.firewall) :
    (Preparation.groupIdsOf pair o cluster).outcome = .error .groupConflict ∨
      ∃ e, pair.rule.id.outcome = .error e ∧
        (Preparation.groupIdsOf pair o cluster).outcome = .error e := by
  obtain ⟨g, id, own, tags, hg, hid, hown, hne, htags, hsome⟩ := h
  rw [← hp.own g hg] at hid
  have fails {e : Failure} (he : (GroupPair.nodeGroupId pair o.firewall cluster).outcome = .error e) :
      (Preparation.groupIdsOf pair o cluster).outcome = .error e := by
    rw [Preparation.groupIdsOf, Deferred.all]
    exact Deferred.outcome_bind_of_error (Deferred.outcome_bind_of_error he _) _
  have isSome : o.firewall.group.isNone = false := by rw [hg]; rfl
  cases hr : pair.rule.id.outcome with
  | error e =>
      refine .inr ⟨e, rfl, fails ?_⟩
      simp only [GroupPair.nodeGroupId, isSome, Bool.false_eq_true, if_false]
      refine Deferred.outcome_bind_of_error ?_ _
      rw [GroupPair.groupId, Deferred.outcome_bind_of_ok hid, Deferred.outcome_bind_of_error hr]
  | ok v =>
      refine .inl (fails ?_)
      have groupId : pair.groupId.outcome = .ok (.text id) := by
        rw [GroupPair.groupId, Deferred.outcome_bind_of_ok hid, Deferred.outcome_bind_of_ok hr]
        rfl
      simp only [GroupPair.nodeGroupId, isSome, Bool.false_eq_true, if_false]
      rw [Deferred.outcome_bind_of_ok groupId, Deferred.outcome_bind_of_ok hown,
        Deferred.outcome_bind_of_ok htags]
      refine Deferred.outcome_bind_of_error ?_ _
      exact checkGroupTags_eq_error hne hsome

theorem holds_groupId (hg : pair.group.Exists) (hr : pair.rule.Exists) :
    pair.groupId.Holds IsTextOrNull := by
  refine (hg.naming (by simp [namingOutputs])).bind fun id hid => ?_
  exact (hr.output "id").bind fun _ _ => Deferred.holds_pure hid

theorem holds_nodeGroupId (hc : cluster.Holds Cluster.IsKnown) (ho : o.IsKnown)
    (hp : pair.Serves name o.firewall) (hg : pair.group.Exists) (hr : pair.rule.Exists)
    (h : ¬ o.GroupConflicts cluster) :
    (GroupPair.nodeGroupId pair o.firewall cluster).Holds IsTextOrNull := by
  unfold GroupPair.nodeGroupId
  split
  · exact holds_groupId hg hr
  case isFalse isSome =>
    obtain ⟨g, hgiven⟩ : ∃ g, o.firewall.group = some g := by
      cases hf : o.firewall.group with
      | none => rw [hf] at isSome; exact absurd rfl isSome
      | some g => exact ⟨g, rfl⟩
    obtain ⟨id, hid⟩ := ho.group g hgiven
    have known : pair.groupId.Holds fun v => v = .text id := by
      rw [← hp.own g hgiven] at hid
      refine Deferred.Holds.bind (P := fun v => v = .text id) ⟨_, hid, rfl⟩ fun v hv => ?_
      exact (hr.output "id").bind fun _ _ => Deferred.holds_pure hv
    obtain ⟨own, hown, _⟩ := Deferred.holds_textPart hc
      (show Cluster.nodeGroup ∈ Cluster.textParts by simp [Cluster.textParts])
    obtain ⟨tags, htags, isTags⟩ := Deferred.holds_tagPart hc
      (show Cluster.nodeGroupTags ∈ Cluster.tagParts by simp [Cluster.tagParts])
    have passes : checkGroupTags (.text id) own tags = .ok () := by
      refine checkGroupTags_eq_ok fun truthy => ?_
      by_contra hne
      rcases isTags with rfl | ⟨es, rfl, _⟩
      · cases truthy
      · refine h ⟨g, id, own, es, hgiven, hid, hown, hne, htags, ?_⟩
        rintro rfl
        cases truthy
    refine known.bind fun v hv => ?_
    rw [hv]
    refine Deferred.Holds.bind ⟨own, hown, rfl⟩ fun _ hown' => ?_
    refine Deferred.Holds.bind ⟨tags, htags, rfl⟩ fun _ htags' => ?_
    rw [← hown', ← htags']
    refine Deferred.Holds.bind (P := fun _ => True) ⟨(), passes, trivial⟩ fun _ _ => ?_
    exact Deferred.holds_pure (isTextOrNull_text id)

theorem holds_groupIdsOf (hc : cluster.Holds Cluster.IsKnown) (ho : o.IsKnown)
    (hp : pair.Serves name o.firewall) (hg : pair.group.Exists) (hr : pair.rule.Exists)
    (h : ¬ o.GroupConflicts cluster) :
    (Preparation.groupIdsOf pair o cluster).Holds IsTexts := by
  have ids : ∀ d ∈ GroupPair.nodeGroupId pair o.firewall cluster ::
      o.firewall.extraGroups.map Resource.id, d.Holds IsTextOrNull := by
    refine List.forall_mem_cons.mpr ⟨holds_nodeGroupId hc ho hp hg hr h, fun d hd => ?_⟩
    obtain ⟨r, hr, rfl⟩ := List.mem_map.mp hd
    exact (ho.resources r (.inr (.inr hr))).naming (by simp [namingOutputs])
  exact (Deferred.holds_all ids).bind fun vs hvs => Deferred.holds_pure ⟨vs, rfl, hvs⟩

end Checks
end FleetPlan
