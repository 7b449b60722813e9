import FleetPlan.Proofs.BootstrapParts
import FleetPlan.Proofs.GroupInventory
import FleetPlan.Proofs.OptionRules

/-!
What becomes of the settings with which the nodes of a group of one's own are started.

The checks leave two kinds of options: those with an override and no other setting of the bootstrap,
and those without an override. A group that is planned to the end starts its nodes with the override
as it is, or else with a script in which every setting is found; and its machines go by a new key pair
if a public key is given, and otherwise by the key that is named.
-/
namespace FleetPlan

open Plan Deferred

/-- A script that is made of the parts of a cluster and the settings of a bootstrap. -/
structure BootstrapScript.IsOf (b : BootstrapScript) (cluster : Deferred Cluster) (u : Startup) :
    Prop where
  name : (cluster.part Cluster.name).outcome = .ok b.cluster
  endpoint : (cluster.part Cluster.endpoint).outcome = .ok b.endpoint
  authority : (cluster.part Cluster.authority).outcome = .ok b.authority
  tail : b.tail = bootstrapTail u.bootstrapArgs u.agent.args
  userScript : u.userScript.value.outcome = .ok b.userScript

namespace Fleet

/-- What the machines of a group are started with: it is registered as it is in a stack, and has to be
a text and is encoded in a template. -/
def IsStartedBy (m : Registration) (v : Json) : Fleet → Prop
  | stack _ => m.input "userData" = v
  | template _ => ∃ script encoded, v = .text script ∧ m.input "userData" = .text encoded ∧
    Text.Base64.decodeText? encoded = some script

/-- Machines are started with the override, or with a script that shows every setting. -/
structure Starts (cluster : Deferred Cluster) (m : Registration) (f : Fleet) : Prop where
  override : f.options.startup.override.isTruthy = true → ∃ v,
    f.options.startup.override.value.outcome = .ok v ∧ f.IsStartedBy m v.wire
  bootstrap : f.options.startup.override.isTruthy = false → ∃ b : BootstrapScript,
    b.IsOf cluster f.options.startup ∧ f.options.startup.ShowsIn b.render ∧
      f.IsStartedBy m (.text b.render)

/-- Machines go by a new key pair, made of the public key, or by the key that is named. -/
structure Admits (name : String) (c : Cloud) (past : History) (m : Registration) (f : Fleet) :
    Prop where
  newKey : f.options.access.publicKey.isTruthy = true → ∃ k : Registration,
    .registered k ∈ past ∧ k.ref = Access.keyPair.ref name ∧
      k.Carries "publicKey" f.options.access.publicKey.value ∧
      m.input "keyName" = (k.putOut c "keyName").wire
  namedKey : f.options.access.publicKey.isTruthy = false →
    m.Carries "keyName" f.options.access.keyName.value

/-- No setting is lost: what the machines `m` are started with and the key that they go by leave out
nothing that is given. -/
structure Keeps (name : String) (x : ClusterInput) (s : Site) (past : History) (m : Registration)
    (f : Fleet) : Prop where
  starts : f.Starts x.cluster m
  whole : f.options.startup.override.isTruthy = true →
    ∀ setting : BootstrapSetting, ¬ setting.IsGiven f.options.startup
  admits : f.Admits name s.cloud past m
  single : f.options.access.publicKey.isTruthy = true →
    f.options.access.keyName.isTruthy = false

end Fleet

/-! The key that machines go by. -/

namespace Preparation

/-- What a new key pair is made of. -/
def keyDraft (name : String) (access : Access) (placement : Placement) : Draft where
  type := "aws:ec2/keyPair:KeyPair"
  name := name ++ "-keyPair"
  placement := placement
  properties := [("publicKey", access.publicKey.value)]

variable {name : String} {access : Access} {placement : Placement} {s : Site}

theorem isWellKeyed_keyDraft : (keyDraft name access placement).IsWellKeyed :=
  .of_keys "aws:ec2/keyPair:KeyPair" ["publicKey"] rfl rfl (by decide) (by decide) (by decide) rfl

theorem carries_publicKey {past : History} {k : Registration}
    (h : (keyDraft name access placement).settle past = .ok k) :
    k.Carries "publicKey" access.publicKey.value :=
  isWellKeyed_keyDraft.carries h "publicKey" rfl fun v _ =>
    Shape.spelledAs_of_get? (s := .single) rfl (Shape.spell_single v)

/-- The name of a new pair is known only if the pair is registered. -/
theorem registered_of_keyOf (hnew : access.publicKey.isTruthy = true) {key : Deferred Json}
    (h : (keyOf name access placement s).answer = .ok key) {v : Json} (hv : key.outcome = .ok v) :
    ∃ k : Registration, .registered k ∈ (keyOf name access placement s).trace ∧
      k.ref = Access.keyPair.ref name ∧ k.Carries "publicKey" access.publicKey.value ∧
      v = k.putOut s.cloud "keyName" := by
  have new : keyOf name access placement = do
      return (← register (keyDraft name access placement)).output "keyName" := if_pos hnew
  rw [new] at h ⊢
  obtain ⟨pair, hpair, h⟩ := answer_bind_eq_ok.mp h
  cases h
  obtain ⟨k, settled, rfl, registered⟩ := registered_of_answer hpair hv
  refine ⟨k, mem_trace_bind registered, Draft.ref_of_settle settled, carries_publicKey settled, ?_⟩
  have put := Draft.outcome_output settled rfl (by decide : "keyName" ≠ "urn") List.not_mem_nil
  exact Except.ok.inj (hv.symm.trans put)

theorem keyOf_of_make {o : WorkerOptions} {cluster : Deferred Cluster} {p : Preparation}
    (h : (make name o cluster placement s).answer = .ok p) :
    p.tail = bootstrapTail o.startup.bootstrapArgs o.startup.agent.args ∧
      ∃ here, here.cloud = s.cloud ∧ (keyOf name o.access placement here).answer = .ok p.keyName ∧
        ∀ e ∈ (keyOf name o.access placement here).trace,
          e ∈ (make name o cluster placement s).trace := by
  obtain ⟨pair, hpair, h⟩ := answer_bind_eq_ok.mp h
  obtain ⟨keyName, hkey, h⟩ := answer_bind_eq_ok.mp h
  obtain ⟨imageId, _, h⟩ := answer_bind_eq_ok.mp h
  obtain ⟨subnets, _, h⟩ := answer_bind_eq_ok.mp h
  cases h
  refine ⟨rfl, _, ?_, hkey, fun e he => mem_trace_bind_right hpair (mem_trace_bind he)⟩
  rfl

end Preparation

/-! What machines are started with. -/

theorem Preparation.isOf_of_script {p : Preparation} {o : WorkerOptions}
    {cluster : Deferred Cluster} {marker t : String} {signal : Option (String × Deferred Json)}
    (htail : p.tail = bootstrapTail o.startup.bootstrapArgs o.startup.agent.args)
    (h : (p.script o cluster marker signal).outcome = .ok t) :
    ∃ b : BootstrapScript, b.IsOf cluster o.startup ∧ o.startup.ShowsIn b.render ∧
      t = b.render := by
  obtain ⟨_, _, _, _, _, hname, hendpoint, hauthority, huser, _, rfl⟩ := outcome_script h
  exact ⟨_, ⟨hname, hendpoint, hauthority, htail, huser⟩,
    BootstrapScript.showsIn_render htail huser, rfl⟩

section Starts

variable {name stack : String} {cluster : Deferred Cluster} {placement : Placement}
  {p : Preparation} {past : History} {m : Registration}

theorem StackGroup.starts_of_settle {o : WorkerOptions} {here : Site} {rootDevice : Json}
    {script : Deferred Json}
    (htail : p.tail = bootstrapTail o.startup.bootstrapArgs o.startup.agent.args)
    (hmade : (userData p o cluster placement stack here).answer = .ok script)
    (hm : (configurationDraft name o p placement rootDevice script).settle past = .ok m) :
    (Fleet.stack o).Starts cluster m := by
  obtain ⟨v, known, sent⟩ := carries_configuration hm "userData" rfl
  constructor
  case override =>
    intro (given : o.startup.override.isTruthy = true)
    have whole : script = o.startup.override.value := by
      rw [userData, if_pos given] at hmade
      exact (Except.ok.inj hmade).symm
    exact ⟨v, whole ▸ known, sent⟩
  case bootstrap =>
    intro given
    obtain ⟨region, rfl⟩ := userData_of_script given hmade
    obtain ⟨t, ht, known⟩ := outcome_bind_eq_ok.mp known
    cases known
    obtain ⟨b, isOf, shows, rfl⟩ := Preparation.isOf_of_script htail ht
    exact ⟨b, isOf, shows, sent.trans (Json.wire_text _)⟩

theorem TemplateGroup.starts_of_settle {o : TemplateOptions} {device : Deferred Json}
    (htail : p.tail = bootstrapTail o.startup.bootstrapArgs o.startup.agent.args)
    (hm : (templateDraft name o p placement device (userData name p o cluster)).settle past =
      .ok m) : (Fleet.template o).Starts cluster m := by
  obtain ⟨_, known, sent⟩ := carries_template hm (by decide : "userData" ∈ _)
    (x := userData name p o cluster) rfl
  obtain ⟨t, rfl, own, boot⟩ := outcome_userData known
  have started : (Fleet.template o).IsStartedBy m (.text t) :=
    ⟨t, _, rfl, sent.trans (Json.wire_text _), Text.Base64.decodeText?_encodeText t⟩
  constructor
  case override =>
    intro given
    refine ⟨_, own given, ?_⟩
    rw [Json.wire_text]
    exact started
  case bootstrap =>
    intro given
    obtain ⟨b, isOf, shows, rfl⟩ := Preparation.isOf_of_script htail (boot given)
    exact ⟨b, isOf, shows, started⟩

end Starts

namespace Fleet

variable {name : String} {x : ClusterInput} {s : Site} {f : Fleet} {form : GroupForm}
  {m r : Registration}

/-- What a group is prepared with, and how its machines are started, once they are described. -/
theorem exists_make {cluster : Deferred Cluster} {placement : Placement} {d : FleetDrafts}
    {past : History} (h : (f.drafts name cluster placement s).answer = .ok d)
    (hm : d.machine.settle past = .ok m) :
    ∃ p, (Preparation.make name f.options cluster placement s).answer = .ok p ∧
      (∀ e ∈ (Preparation.make name f.options cluster placement s).trace,
        e ∈ (f.drafts name cluster placement s).trace) ∧
      m.Carries "keyName" p.keyName ∧ f.Starts cluster m := by
  cases f with
  | stack o =>
      obtain ⟨p, _, script, rootDevice, hp, hmade, _, rfl⟩ := StackGroup.drafts_eq_ok h
      refine ⟨p, hp, fun e he => mem_trace_bind he, ?_, ?_⟩
      · exact StackGroup.carries_configuration hm "keyName" rfl
      · exact StackGroup.starts_of_settle (Preparation.keyOf_of_make hp).1 hmade hm
  | template o =>
      obtain ⟨p, root, device, hp, _, rfl⟩ := TemplateGroup.drafts_eq_ok h
      refine ⟨p, hp, fun e he => mem_trace_bind he, ?_, ?_⟩
      · exact TemplateGroup.carries_template hm (by decide : "keyName" ∈ _) rfl
      · exact TemplateGroup.starts_of_settle (Preparation.keyOf_of_make hp).1 hm

theorem admits_of_make {cluster : Deferred Cluster} {placement : Placement} {p : Preparation}
    (hp : (Preparation.make name f.options cluster placement s).answer = .ok p)
    (hkey : m.Carries "keyName" p.keyName) :
    f.Admits name s.cloud (Preparation.make name f.options cluster placement s).trace m := by
  obtain ⟨_, here, hcloud, made, within⟩ := Preparation.keyOf_of_make hp
  constructor
  case newKey =>
    intro new
    obtain ⟨v, known, sent⟩ := hkey
    obtain ⟨k, registered, href, carries, rfl⟩ := Preparation.registered_of_keyOf new made known
    exact ⟨k, within _ registered, href, carries, hcloud ▸ sent⟩
  case namedKey =>
    intro old
    have named : p.keyName = f.options.access.keyName.value := by
      rw [Preparation.keyOf, if_neg (by simp [old])] at made
      exact (Except.ok.inj made).symm
    exact named ▸ hkey

theorem Admits.imp {c : Cloud} {past past' : History} (h : f.Admits name c past m)
    (within : ∀ e ∈ past, e ∈ past') : f.Admits name c past' m where
  newKey new := by
    obtain ⟨k, registered, rest⟩ := h.newKey new
    exact ⟨k, within _ registered, rest⟩
  namedKey := h.namedKey

/-- What happens before the drafts of a complete group are registered is part of its history. -/
theorem Completes.mem_history_of_drafts (h : f.Completes name x s form m r) {e : Event}
    (he : e ∈ (f.drafts name x.cluster (form.placement (f.self name) s)
      (form.site (f.self name) s)).trace) : e ∈ f.history name x s form := by
  obtain ⟨_, _, _, _, _, checked, _⟩ := h.exists_plan
  refine (of_registered_history h.machine (h.machineRef ▸ .head _)).2 e ?_
  rw [run_eq, plan, checked, ofExcept_ok, Plan.pure_bind]
  exact mem_trace_bind he

theorem Completes.keeps (h : f.Completes name x s form m r) :
    f.Keeps name x s (f.history name x s form) m := by
  obtain ⟨d, here, at_, machine, _, checked, _⟩ := h.exists_plan
  obtain ⟨p, hp, before, hkey, starts⟩ := exists_make at_.drafted machine
  have kept := WorkerOptions.check_eq_ok.mp checked
  constructor
  case starts => exact starts
  case whole => exact fun given setting isGiven => kept .wholeOverride ⟨given, setting, isGiven⟩
  case admits =>
    rw [← cloud_site form]
    exact (admits_of_make hp hkey).imp fun e he => h.mem_history_of_drafts (before e he)
  case single =>
    exact fun new => Bool.eq_false_iff.mpr fun named => kept .singleKey ⟨new, named⟩

end Fleet

/-- Options are accepted exactly if they keep every rule, and otherwise the first broken rule is
reported; and a group that is planned to the end keeps all its settings. -/
theorem settings_kept (f : Fleet) (name : String) (x : ClusterInput) (s : Site)
    (form : GroupForm) :
    (f.options.check name = .ok () ↔ ∀ rule : OptionRule, ¬ rule.IsBroken f.options) ∧
      (∀ e, f.options.check name = .error e ↔
        ∃ rule : OptionRule, rule.IsFirstBroken f.options ∧ rule.Reports name f.options e) ∧
      ∀ m r, f.Completes name x s form m r → f.Keeps name x s (f.history name x s form) m := by
  refine ⟨WorkerOptions.check_eq_ok, fun e => ?_, fun m r completes => ?_⟩
  · exact WorkerOptions.check_eq_error
  · exact completes.keeps

/-- Options of a group that is started with settings of every sort and goes by a new key pair. -/
def keyedOptions : TemplateOptions :=
  { sizedOptions ⟨none, none, none⟩ with
    access := ⟨.now (some "ssh-ed25519 AAAA"), .absent⟩
    startup := {
      userScript := .now (some "echo ready")
      override := .absent
      agent := ⟨some "--v=2", some [("role", "web")], some [("only", ⟨"web", .noSchedule⟩)]⟩
      bootstrapArgs := some "--use-max-pods false" } }

/-- A group with these options, planned as a component. -/
def keyedRun (f : Fleet) : Traced Event (Except Failure (Option Resource)) :=
  f.group.planAs "workers" (.descriptor smallCluster) (.component none) smallSite

/-- A group whose run has gone well is complete. -/
theorem exists_completes_keyedRun {f : Fleet}
    (h : (keyedRun f).answer.toOption.isSome = true ∧
      (History.attempts (keyedRun f).trace).all (·.failure.isNone) = true) :
    ∃ m r, f.Completes "workers" (.descriptor smallCluster) smallSite (.component none) m r := by
  obtain ⟨⟨group, hgroup⟩, unfailed⟩ := unfailed_of_done h
  exact completes_of_unfailed hgroup unfailed

theorem settings_kept_keyedOptions :
    (∀ rule : OptionRule, ¬ rule.IsBroken keyedOptions.toWorkerOptions) ∧
    (∃ m r, (Fleet.stack keyedOptions.toWorkerOptions).Completes "workers"
        (.descriptor smallCluster) smallSite (.component none) m r ∧
      (Fleet.stack keyedOptions.toWorkerOptions).Keeps "workers" (.descriptor smallCluster)
        smallSite (keyedRun (.stack keyedOptions.toWorkerOptions)).trace m) ∧
    ∃ m r, (Fleet.template keyedOptions).Completes "workers" (.descriptor smallCluster) smallSite
        (.component none) m r ∧
      (Fleet.template keyedOptions).Keeps "workers" (.descriptor smallCluster) smallSite
        (keyedRun (.template keyedOptions)).trace m := by
  have kept (f : Fleet) := settings_kept f "workers" (.descriptor smallCluster) smallSite
    (.component none)
  obtain ⟨m, r, stack⟩ := exists_completes_keyedRun (f := .stack keyedOptions.toWorkerOptions)
    (by decide +kernel)
  obtain ⟨t, g, template⟩ := exists_completes_keyedRun (f := .template keyedOptions)
    (by decide +kernel)
  refine ⟨(kept (.template keyedOptions)).1.mp rfl, ⟨m, r, stack, ?_⟩, t, g, template, ?_⟩
  · rw [keyedRun, trace_planAs]
    exact (kept _).2.2 m r stack
  · rw [keyedRun, trace_planAs]
    exact (kept _).2.2 t g template

end FleetPlan
