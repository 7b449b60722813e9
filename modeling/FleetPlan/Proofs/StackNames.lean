import FleetPlan.Proofs.FleetCompletion
import FleetPlan.Proofs.TemplateText

/-!
The names by which the parts of a group in a stack know each other.

The script of the machines signals the stack, the stack's template declares the scaling group, and the
plan reads the group's name from the stack's outputs. All of them go by the same two names, whatever
the group, the project and the stack are called, and the template names the machines' description as
the cloud named it.
-/
namespace FleetPlan

open Plan Deferred

/-! What the script and the template are made of. -/

namespace Preparation

/-- A script that is known is rendered from parts that are known. -/
theorem outcome_script {p : Preparation} {o : WorkerOptions} {cluster : Deferred Cluster}
    {marker : String} {signal : Option (String × Deferred Json)} {t : String}
    (h : (p.script o cluster marker signal).outcome = .ok t) :
    ∃ name endpoint authority user region,
      (cluster.part Cluster.name).outcome = .ok name ∧
      (cluster.part Cluster.endpoint).outcome = .ok endpoint ∧
      (cluster.part Cluster.authority).outcome = .ok authority ∧
      o.startup.userScript.value.outcome = .ok user ∧
      (∀ g, signal = some g → g.2.outcome = .ok region) ∧
      t = BootstrapScript.render ⟨name, endpoint, authority, p.tail, user, .text marker,
        signal.map fun g => ⟨.text g.1, region⟩⟩ := by
  obtain ⟨b, hb, ht⟩ := outcome_bind_eq_ok.1 h
  cases ht
  obtain ⟨name, hname, hb⟩ := outcome_bind_eq_ok.1 hb
  obtain ⟨endpoint, hendpoint, hb⟩ := outcome_bind_eq_ok.1 hb
  obtain ⟨authority, hauthority, hb⟩ := outcome_bind_eq_ok.1 hb
  obtain ⟨user, huser, hb⟩ := outcome_bind_eq_ok.1 hb
  obtain ⟨_, hmarker, hb⟩ := outcome_bind_eq_ok.1 hb
  obtain ⟨_, hstack, hb⟩ := outcome_bind_eq_ok.1 hb
  obtain ⟨region, hregion, hb⟩ := outcome_bind_eq_ok.1 hb
  cases hmarker
  cases hstack
  cases hb
  refine ⟨name, endpoint, authority, user, region, hname, hendpoint, hauthority, huser, ?_, ?_⟩
  · rintro g rfl
    exact hregion
  · cases signal <;> rfl

end Preparation

namespace BootstrapScript

theorem render_eq (b : BootstrapScript) :
    ∃ front, b.render = front ++ "\n" ++ signalLine b.signal := ⟨_, rfl⟩

theorem signalLine_eq (stack : String) (region : Json) :
    signalLine (some ⟨.text stack, region⟩) =
      "/opt/aws/bin/cfn-signal --exit-code $? --stack " ++ stack ++
        (" --resource " ++ groupKey ++ " --region ") ++ region.display ++ "\n" := by
  have resource : " --resource NodeGroup --region " = " --resource " ++ groupKey ++ " --region " := by
    decide
  rw [← resource]
  rfl

end BootstrapScript

/-! What is read from the stack's outputs. -/

theorem stackOutput_null (stack key : String) :
    stackOutput stack .null key = .error (.malformedStackOutput stack key) := rfl

theorem stackOutput_map (stack key : String) (es : Entries Json) :
    stackOutput stack (.map es) key =
      match Entries.get? es key with
      | some v => .ok v
      | none => .error (.malformedStackOutput stack key) := by
  cases es with
  | nil => rfl
  | cons e es => rfl

namespace StackGroup

variable {name : String} {x : ClusterInput} {o : WorkerOptions} {placement : Placement} {s : Site}

theorem userData_of_script (hscript : o.startup.override.isTruthy = false) {p : Preparation}
    {cluster : Deferred Cluster} {stack : String} {d : Deferred Json}
    (h : (userData p o cluster placement stack s).answer = .ok d) :
    ∃ region, d = do return .text (← p.script o cluster stack (some (stack, region))) := by
  simp only [userData, hscript, Bool.false_eq_true, if_false] at h
  obtain ⟨region, _, h⟩ := answer_bind_eq_ok.1 h
  cases h
  exact ⟨region, rfl⟩

/-- The drafts of a group in a stack, from the values that they are made of. -/
theorem drafts_eq_ok {cluster : Deferred Cluster} {d : FleetDrafts}
    (h : ((Fleet.stack o).drafts name cluster placement s).answer = .ok d) :
    ∃ p here script rootDevice,
      (Preparation.make name o cluster placement s).answer = .ok p ∧
      (userData p o cluster placement (stackName s.project s.stack name) here).answer =
        .ok script ∧
      rootDeviceProperty o.volume = .ok rootDevice ∧
      d = ⟨p.pair, configurationDraft name o p placement rootDevice script,
        stackDraft name (stackName s.project s.stack name) o p cluster placement⟩ := by
  obtain ⟨p, hp, h⟩ := answer_bind_eq_ok.1 h
  obtain ⟨here, hhere, h⟩ := answer_bind_eq_ok.1 h
  cases hhere
  obtain ⟨script, hscript, h⟩ := answer_bind_eq_ok.1 h
  obtain ⟨rootDevice, hroot, h⟩ := answer_bind_eq_ok.1 h
  cases h
  refine ⟨p, _, script, rootDevice, hp, hscript, ?_, rfl⟩
  cases hr : rootDeviceProperty o.volume with
  | ok v =>
      rw [hr] at hroot
      exact hroot
  | error e =>
      rw [hr] at hroot
      cases hroot

theorem isWellKeyed_configurationDraft (p : Preparation) (rootDevice : Json)
    (script : Deferred Json) :
    (configurationDraft name o p placement rootDevice script).IsWellKeyed :=
  .of_keys "aws:ec2/launchConfiguration:LaunchConfiguration"
    ["associatePublicIpAddress", "imageId", "instanceType", "iamInstanceProfile", "keyName",
      "securityGroups", "spotPrice", "rootBlockDevice", "userData"]
    rfl rfl (by decide) (by decide) (by decide) rfl

theorem isWellKeyed_stackDraft (stack : String) (p : Preparation) (cluster : Deferred Cluster)
    (m : Resource) : (stackDraft name stack o p cluster placement m).IsWellKeyed :=
  .of_keys "aws:cloudformation/stack:Stack" ["name", "templateBody", "tags"]
    rfl rfl (by decide) (by decide) (by decide) rfl

theorem outcome_templateBody {p : Preparation} {cluster : Deferred Cluster} {m : Resource}
    {v : Json} (h : (templateBody o p cluster m).outcome = .ok v) :
    ∃ t : GroupTemplate, v = .text t.text ∧
      (m.output "name").outcome = .ok t.launchConfiguration ∧ t.capacity = p.capacity ∧
      (∃ subnets, p.subnets.outcome = .ok subnets ∧ subnets.items? = some t.subnets) ∧
      (Preparation.workerTags o cluster).outcome = .ok t.tags := by
  obtain ⟨own, hown, h⟩ := outcome_bind_eq_ok.1 h
  obtain ⟨subnets, hsubnets, h⟩ := outcome_bind_eq_ok.1 h
  obtain ⟨tags, htags, h⟩ := outcome_bind_eq_ok.1 h
  obtain ⟨ids, hids, h⟩ := outcome_bind_eq_ok.1 h
  cases h
  refine ⟨⟨own, p.capacity, ids, tags⟩, rfl, hown, rfl, ⟨subnets, hsubnets, ?_⟩, htags⟩
  cases hitems : subnets.items? with
  | some vs =>
      rw [hitems] at hids
      cases hids
      rfl
  | none =>
      rw [hitems] at hids
      cases hids

/-- A group in a stack as it is given back, from the resources that it is planned with. -/
def ofPlanned (o : WorkerOptions) (stack : String) (p : GroupPair × Resource × Resource) :
    StackGroup where
  group := p.1.group
  extraGroups := o.firewall.extraGroups
  stack := p.2.2
  scalingGroupName := do
    Deferred.ofExcept (stackOutput stack (← p.2.2.output "outputs") groupKey)

theorem answer_create {p : GroupPair × Resource × Resource}
    (h : ((Fleet.stack o).plan name x placement s).answer = .ok p) :
    (create name x o placement s).answer =
      .ok (ofPlanned o (stackName s.project s.stack name) p) := by
  have same : create name x o placement s = ((Fleet.stack o).plan name x placement >>= fun p =>
      Pure.pure (ofPlanned o (stackName s.project s.stack name) p)) s := by
    simp only [create, Fleet.plan, Fleet.drafts, Fleet.registerBoth, Fleet.options, bind_assoc,
      Plan.pure_bind]
    refine bind_congr_at fun _ _ => bind_congr_at fun _ _ => ?_
    rw [site_bind, site_bind]
    rfl
  rw [same]
  exact answer_bind_eq_ok.2 ⟨p, h, rfl⟩

/-- A group in a stack as it is given back, in either form. -/
def planned (name : String) (x : ClusterInput) (o : WorkerOptions) (s : Site) :
    GroupForm → Except Failure StackGroup
  | .placed placement => (create name x o placement s).answer
  | .component provider => (component name x o provider s).answer.map (·.2)

theorem planned_of_create {form : GroupForm} {g : StackGroup}
    (hnamed : ∀ provider, form = .component provider → name ≠ "") (hchecked : o.check name = .ok ())
    (h : (create name x o (form.placement ((Fleet.stack o).self name) s)
      (form.site ((Fleet.stack o).self name) s)).answer = .ok g) :
    planned name x o s form = .ok g := by
  cases form with
  | placed placement => exact h
  | component provider =>
      have whole : (component name x o provider s).answer =
          .ok (((Fleet.stack o).self name).resource s, g) :=
        answer_componentPlan hchecked (hnamed provider rfl) h
      rw [planned, whole]
      rfl

/-- How the parts of a group in a stack refer to each other: `m` describes the machines and `r` is
the stack. -/
structure NamesAgree (name : String) (s : Site) (m r : Registration) (g : StackGroup) : Prop where
  /-- The last line of the machines' script signals the stack about the group. -/
  signal : ∃ front region, Entries.get? m.inputs "userData" = some (.text (front ++ "\n" ++
    ("/opt/aws/bin/cfn-signal --exit-code $? --stack " ++ stackName s.project s.stack name ++
      (" --resource " ++ groupKey ++ " --region ") ++ region ++ "\n")))
  stack : Entries.get? r.inputs "name" = some (.text (stackName s.project s.stack name))
  /-- The template declares one scaling group, one output that refers to it, and the machines by
  the name that the cloud gave to their description. -/
  template : ∃ body v, Entries.get? r.inputs "templateBody" = some (.text body) ∧
    Json.read? body = some v ∧
    (∀ key, v.along ["Resources", key, "Type"] = .text "AWS::AutoScaling::AutoScalingGroup" ↔
      key = groupKey) ∧
    v.along ["Outputs", groupKey, "Value"] = .map [("Ref", .text groupKey)] ∧
    GroupTemplate.property v "LaunchConfigurationName" = Json.reread (m.putOut s.cloud "name")
  noOutputs : r.putOut s.cloud "outputs" = .null → g.scalingGroupName.outcome =
    .error (.malformedStackOutput (stackName s.project s.stack name) groupKey)
  outputs : ∀ es, r.putOut s.cloud "outputs" = .map es → g.scalingGroupName.outcome =
    match Entries.get? es groupKey with
    | some v => .ok v
    | none => .error (.malformedStackOutput (stackName s.project s.stack name) groupKey)

theorem scalingGroupName_null {stack : String} {p : GroupPair × Resource × Resource}
    (h : (p.2.2.output "outputs").outcome = .ok .null) :
    (ofPlanned o stack p).scalingGroupName.outcome =
      .error (.malformedStackOutput stack groupKey) := by
  rw [ofPlanned, outcome_bind_of_ok h, stackOutput_null]
  rfl

theorem scalingGroupName_map {stack : String} {p : GroupPair × Resource × Resource}
    {es : Entries Json} (h : (p.2.2.output "outputs").outcome = .ok (.map es)) :
    (ofPlanned o stack p).scalingGroupName.outcome =
      match Entries.get? es groupKey with
      | some v => .ok v
      | none => .error (.malformedStackOutput stack groupKey) := by
  rw [ofPlanned, outcome_bind_of_ok h, stackOutput_map]
  rfl

theorem along_type (t : GroupTemplate) (key : String) :
    t.toJson.along ["Resources", key, "Type"] = .text "AWS::AutoScaling::AutoScalingGroup" ↔
      key = groupKey := by
  by_cases h : groupKey = key
  · subst h
    simp [GroupTemplate.toJson, Json.along, Value.member, Entries.get?, Value.ofOption]
  · simp [GroupTemplate.toJson, Json.along, Value.member, Entries.get?, Value.ofOption, h,
      Ne.symm h]

variable {p : Preparation} {cluster : Deferred Cluster} {stack : String} {past : History}
  {form : GroupForm} {m r : Registration}

theorem signal_of_settle {rootDevice : Json} {region : Deferred Json}
    (h : (configurationDraft name o p placement rootDevice
      (do return .text (← p.script o cluster stack (some (stack, region))))).settle past = .ok m) :
    ∃ front region, Entries.get? m.inputs "userData" = some (.text (front ++ "\n" ++
      ("/opt/aws/bin/cfn-signal --exit-code $? --stack " ++ stack ++
        (" --resource " ++ groupKey ++ " --region ") ++ region ++ "\n"))) := by
  obtain ⟨v, hv, _⟩ := (isWellKeyed_configurationDraft p rootDevice _).exists_input h "userData" rfl
  obtain ⟨t, ht, hvt⟩ := outcome_bind_eq_ok.1 hv
  cases hvt
  have found := (isWellKeyed_configurationDraft p rootDevice _).input_text h "userData" rfl hv
  obtain ⟨_, _, _, _, there, _, _, _, _, _, rfl⟩ := Preparation.outcome_script ht
  obtain ⟨front, rendered⟩ := BootstrapScript.render_eq _
  refine ⟨front, there.display, found.trans ?_⟩
  rw [rendered]
  exact congrArg (fun line => some (Value.text (front ++ "\n" ++ line)))
    (BootstrapScript.signalLine_eq stack there)

/-- Neither form changes the project and the stack that the name is made of. -/
theorem stackName_site (form : GroupForm) (d : Draft) (s : Site) (name : String) :
    stackName (form.site d s).project (form.site d s).stack name =
      stackName s.project s.stack name := by
  cases form <;> rfl

theorem outcome_configurationName {rootDevice : Json} {script : Deferred Json}
    (h : (configurationDraft name o p placement rootDevice script).settle s.past = .ok m) :
    (((configurationDraft name o p placement rootDevice script).resource s).output "name").outcome =
      .ok (m.putOut s.cloud "name") :=
  Draft.outcome_output h rfl (by decide) List.not_mem_nil

theorem outcome_outputs {configuration : Resource}
    (h : (stackDraft name stack o p cluster placement configuration).settle s.past = .ok r) :
    (((stackDraft name stack o p cluster placement configuration).resource s).output
      "outputs").outcome = .ok (r.putOut s.cloud "outputs") :=
  Draft.outcome_output h rfl (by decide) List.not_mem_nil

theorem template_of_settle {configuration : Resource} {own : Json}
    (h : (stackDraft name stack o p cluster placement configuration).settle past = .ok r)
    (hown : (configuration.output "name").outcome = .ok own) :
    ∃ body v, Entries.get? r.inputs "templateBody" = some (.text body) ∧
      Json.read? body = some v ∧
      (∀ key, v.along ["Resources", key, "Type"] = .text "AWS::AutoScaling::AutoScalingGroup" ↔
        key = groupKey) ∧
      v.along ["Outputs", groupKey, "Value"] = .map [("Ref", .text groupKey)] ∧
      GroupTemplate.property v "LaunchConfigurationName" = Json.reread own := by
  obtain ⟨_, hv, _⟩ := (isWellKeyed_stackDraft stack p cluster _).exists_input h "templateBody" rfl
  obtain ⟨t, rfl, hname, _⟩ := outcome_templateBody hv
  have found := (isWellKeyed_stackDraft stack p cluster _).input_text h "templateBody" rfl hv
  rw [hown] at hname
  cases hname
  exact ⟨_, _, found, GroupTemplate.read?_text t, along_type _, rfl, rfl⟩

/-- The parts of a group in a stack that is planned to the end refer to each other by the same
names. -/
theorem names_agree (name : String) (x : ClusterInput) (o : WorkerOptions) (s : Site)
    (form : GroupForm) (m r : Registration)
    (hcompletes : (Fleet.stack o).Completes name x s form m r)
    (hscript : o.startup.override.isTruthy = false) :
    ∃ g, planned name x o s form = .ok g ∧ NamesAgree name s m r g := by
  obtain ⟨d, here, at_, machine, stack, checked, plan⟩ := hcompletes.exists_plan
  obtain ⟨p, _, script, rootDevice, _, hmade, _, rfl⟩ := drafts_eq_ok at_.drafted
  obtain ⟨region, rfl⟩ := userData_of_script hscript hmade
  dsimp only at machine stack plan
  have cloud : here.cloud = s.cloud := by
    rw [at_.behind]
    exact Fleet.cloud_site form
  have created := answer_create plan
  have put := outcome_outputs (s := here.after [_]) stack
  rw [show (here.after _).cloud = s.cloud from cloud] at put
  rw [stackName_site] at machine stack created put
  refine ⟨_, planned_of_create ?_ checked created, signal_of_settle machine, ?_, ?_, ?_, ?_⟩
  · rintro provider rfl unnamed
    have nothing := hcompletes.scaler
    rw [Fleet.history, Fleet.componentRun_nil fun h => h.2 unnamed] at nothing
    cases nothing
  · exact (isWellKeyed_stackDraft _ _ _ _).input_text stack "name" rfl rfl
  · exact template_of_settle stack (cloud ▸ outcome_configurationName machine)
  · exact fun h => scalingGroupName_null (put.trans (congrArg Except.ok h))
  · exact fun es h => scalingGroupName_map (put.trans (congrArg Except.ok h))

theorem names_agree_smallOptions :
    ∃ m r, (Fleet.stack (smallOptions smallProfile 20)).Completes "workers"
        (.descriptor smallCluster) smallSite (.component none) m r ∧
      (smallOptions smallProfile 20).startup.override.isTruthy = false ∧
      ∃ g, planned "workers" (.descriptor smallCluster) (smallOptions smallProfile 20) smallSite
          (.component none) = .ok g ∧ NamesAgree "workers" smallSite m r g := by
  have known : (TextInput.value smallProfile.arn).Holds Json.IsTextOrNull :=
    ⟨_, rfl, Json.isTextOrNull_text _⟩
  obtain ⟨m, r, completes⟩ := (smallOptions_isReady known).exists_completes
    (not_lacksProfile_smallProfile _ _) (not_groupConflicts_smallOptions _ _ _)
  exact ⟨m, r, completes, rfl, names_agree _ _ _ _ _ m r completes rfl⟩

end StackGroup
end FleetPlan
