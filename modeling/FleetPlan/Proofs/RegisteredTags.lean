import FleetPlan.Proofs.CreationOrder
import FleetPlan.Proofs.KeptSettings
import FleetPlan.Proofs.LayeredTags

/-!
The tags with which the resources of a group are registered.

The scaling group of a complete group, its stack and the security group that is made for it are
registered with tags that are composed of the layers that belong there, whatever those hold and
whenever they are known. The scaling group has the same tags in the text of a stack's template and
in a list. The carrier leaves out tags of its own and those that are null; what it makes of the rest
is not said.
-/
namespace FleetPlan

open Plan Deferred

/-- A value that adds these entries to tags once it is known. -/
def Deferred.Adds (d : Deferred Json) (es : Entries Json) : Prop :=
  ∃ v, d.outcome = .ok v ∧ v.Adds es

theorem Deferred.outcome_ofOption_eq_ok {α : Type} {o : Option α} {a : α} :
    (Deferred.ofOption o).outcome = .ok a ↔ o = some a := by
  cases o <;> simp [Deferred.ofOption, Deferred.fail, Deferred.pure]

namespace Tags

/-! Tags whose layers are parts of a cluster and of options. -/

section Known

variable (name : String) (o : WorkerOptions) (cluster : Deferred Cluster) {t : Entries Json}

def AreForWorkers (t : Entries Json) : Prop :=
  ∃ clusterName es, (cluster.part Cluster.name).outcome = .ok clusterName ∧
    o.groupTags.value.Adds es ∧ Entries.IsLayered (workerLayers clusterName.display es) t

def AreForStack (t : Entries Json) : Prop :=
  ∃ es fs, o.stackTags.value.Adds es ∧ (cluster.part Cluster.tags).Adds fs ∧
    Entries.IsLayered (stackLayers name es fs) t

def AreForGroup (t : Entries Json) : Prop :=
  ∃ clusterName es fs, (cluster.part Cluster.name).outcome = .ok clusterName ∧
    (cluster.part Cluster.nodeGroupTags).Adds es ∧ (cluster.part Cluster.tags).Adds fs ∧
      Entries.IsLayered (groupLayers name clusterName.display es fs) t

variable {name o cluster}

theorem areForWorkers_of_outcome (h : (Preparation.workerTags o cluster).outcome = .ok t) :
    AreForWorkers o cluster t := by
  obtain ⟨clusterName, hname, h⟩ := outcome_bind_eq_ok.mp h
  obtain ⟨v, hv, h⟩ := outcome_bind_eq_ok.mp h
  have composed := outcome_ofOption_eq_ok.mp h
  obtain ⟨es, hes⟩ := Json.exists_adds composed
  obtain ⟨t', ht', layered⟩ := exists_workers clusterName.display hes
  obtain rfl : t' = t := Option.some.inj (ht'.symm.trans composed)
  exact ⟨clusterName, es, hname, ⟨v, hv, hes⟩, layered⟩

theorem areForStack_of_composed {v w : Json} (hv : o.stackTags.value.outcome = .ok v)
    (hw : (cluster.part Cluster.tags).outcome = .ok w) (h : stack name v w = some t) :
    AreForStack name o cluster t := by
  obtain ⟨base, hbase, hall⟩ := Option.bind_eq_some_iff.mp h
  obtain ⟨es, hes⟩ := Json.exists_adds hbase
  obtain ⟨fs, hfs⟩ := Json.exists_adds hall
  obtain ⟨t', ht', layered⟩ := exists_stack name hes hfs
  obtain rfl : t' = t := Option.some.inj (ht'.symm.trans h)
  exact ⟨es, fs, ⟨v, hv, hes⟩, ⟨w, hw, hfs⟩, layered⟩

theorem areForGroup_of_outcome {clusterName : Json}
    (hname : (cluster.part Cluster.name).outcome = .ok clusterName)
    (h : (GroupPair.clusterTags cluster).outcome = .ok t) :
    AreForGroup name cluster (securityGroup name clusterName.display t) := by
  obtain ⟨v, hv, h⟩ := outcome_bind_eq_ok.mp h
  obtain ⟨w, hw, h⟩ := outcome_bind_eq_ok.mp h
  have composed := outcome_ofOption_eq_ok.mp h
  obtain ⟨base, hbase, hall⟩ := Option.bind_eq_some_iff.mp composed
  obtain ⟨es, hes⟩ := Json.exists_adds hbase
  obtain ⟨fs, hfs⟩ := Json.exists_adds hall
  obtain ⟨t', ht', layered⟩ := exists_securityGroup name clusterName.display hes hfs
  obtain rfl : t' = t := Option.some.inj (ht'.symm.trans composed)
  exact ⟨clusterName, es, fs, hname, ⟨v, hv, hes⟩, ⟨w, hw, hfs⟩, layered⟩

end Known
end Tags

theorem Shape.spell_table (es : Entries Json) : spell (.map es) table = .map es := by
  have values : spellValues es single = es := by
    induction es with
    | nil => rfl
    | cons e es ih => rw [spellValues, spell_single, ih]
  rw [table, spell, values]

/-! The security group that is made for a group. -/

namespace GroupPair

variable {name : String} {firewall : Firewall} {cluster : Deferred Cluster} {placement : Placement}
  {s : Site}

theorem isWellKeyed_groupDraft : (groupDraft name cluster placement).IsWellKeyed :=
  .of_keys ResourceRef.securityGroupType ["vpcId", "revokeRulesOnDelete", "description", "tags"]
    rfl rfl (by decide) (by decide) (by decide) rfl

theorem tags_of_settle {past : History} {g : Registration}
    (h : (groupDraft name cluster placement).settle past = .ok g) :
    ∃ t, Tags.AreForGroup name cluster t ∧ g.input "tags" = Json.wire (.map t) := by
  obtain ⟨_, known, sent⟩ := isWellKeyed_groupDraft.exists_input h "tags" rfl
  obtain ⟨clusterName, hname, known⟩ := outcome_bind_eq_ok.mp known
  obtain ⟨tags, htags, known⟩ := outcome_bind_eq_ok.mp known
  cases known
  refine ⟨_, Tags.areForGroup_of_outcome hname htags, sent.trans ?_⟩
  exact congrArg Json.wire (Shape.spelledAs_of_get? rfl (Shape.spell_table _))

/-- A group of nodes that brings no security group has a new one, registered if its id is known. -/
theorem registered_of_obtain (hnew : firewall.group = none) {pair : GroupPair}
    (h : (obtain name firewall cluster placement s).answer = .ok pair) {id : Json}
    (hid : pair.group.id.outcome = .ok id) :
    ∃ g : Registration, .registered g ∈ (obtain name firewall cluster placement s).trace ∧
      g.ref = firewall.groupRef name ∧
      ∃ t, Tags.AreForGroup name cluster t ∧ g.input "tags" = Json.wire (.map t) := by
  have new : obtain name firewall cluster placement = create name cluster placement := by
    rw [obtain, hnew]
  rw [new] at h ⊢
  obtain ⟨group, hgroup, h⟩ := answer_bind_eq_ok.mp h
  obtain ⟨_, _, h⟩ := answer_bind_eq_ok.mp h
  obtain ⟨rule, _, h⟩ := answer_bind_eq_ok.mp h
  cases h
  obtain ⟨g, settled, _, registered⟩ := registered_of_answer hgroup hid
  refine ⟨g, mem_trace_bind registered, ?_, tags_of_settle settled⟩
  rw [Draft.ref_of_settle settled, Firewall.groupRef, hnew]
  rfl

end GroupPair

/-! What scales a group. -/

/-- The tags that a scaling group gives its machines, declared in the text of a template or listed
in its own inputs. -/
def Fleet.ScalesWith (r : Registration) (t : Entries Json) : Fleet → Prop
  | stack _ => ∃ body v, r.input "templateBody" = .text body ∧ Json.read? body = some v ∧
    GroupTemplate.property v "Tags" = .list (t.map fun e => GroupTemplate.tag (e.1, Json.reread e.2))
  | template _ => r.input "tags" = Json.wire (.list ((Tags.propagated t).map .map))

theorem StackGroup.tags_of_settle {name stack : String} {o : WorkerOptions} {p : Preparation}
    {cluster : Deferred Cluster} {placement : Placement} {configuration : Resource} {past : History}
    {r : Registration}
    (h : (stackDraft name stack o p cluster placement configuration).settle past = .ok r) :
    (∃ t, Tags.AreForWorkers o cluster t ∧ (Fleet.stack o).ScalesWith r t) ∧
      ∃ t, Tags.AreForStack name o cluster t ∧ r.input "tags" = Json.wire (.map t) := by
  have keyed : (stackDraft name stack o p cluster placement configuration).IsWellKeyed :=
    isWellKeyed_stackDraft stack p cluster configuration
  constructor
  · obtain ⟨_, hv, _⟩ := keyed.exists_input h "templateBody" rfl
    obtain ⟨t, rfl, _, _, _, htags⟩ := outcome_templateBody hv
    have found := keyed.input_text h "templateBody" rfl hv
    refine ⟨t.tags, Tags.areForWorkers_of_outcome htags, _, _, congrArg Value.ofOption found,
      GroupTemplate.read?_text t, ?_⟩
    show Value.list ((Entries.mapValues Json.reread t.tags).map GroupTemplate.tag) = _
    rw [Entries.mapValues, List.map_map]
    rfl
  · obtain ⟨_, known, sent⟩ := keyed.exists_input h "tags" rfl
    obtain ⟨w, hw, known⟩ := outcome_bind_eq_ok.mp known
    obtain ⟨v, hv, known⟩ := outcome_bind_eq_ok.mp known
    obtain ⟨t, ht, known⟩ := outcome_bind_eq_ok.mp known
    cases known
    refine ⟨t, Tags.areForStack_of_composed hv hw (outcome_ofOption_eq_ok.mp ht), sent.trans ?_⟩
    exact congrArg Json.wire (Shape.spelledAs_of_get? rfl (Shape.spell_table _))

namespace Fleet

variable {name : String} {x : ClusterInput} {s : Site} {f : Fleet} {form : GroupForm}
  {m r : Registration}

/-- The pair that drafts are made for is obtained first. -/
theorem obtain_of_drafts {cluster : Deferred Cluster} {placement : Placement} {d : FleetDrafts}
    (h : (f.drafts name cluster placement s).answer = .ok d) :
    (GroupPair.obtain name f.options.firewall cluster placement s).answer = .ok d.pair ∧
      ∀ e ∈ (GroupPair.obtain name f.options.firewall cluster placement s).trace,
        e ∈ (f.drafts name cluster placement s).trace := by
  cases f with
  | stack o =>
      obtain ⟨p, _, _, _, hp, _, _, rfl⟩ := StackGroup.drafts_eq_ok h
      exact ⟨obtained_of_make hp, fun e he => mem_trace_bind (mem_trace_bind he)⟩
  | template o =>
      obtain ⟨p, _, _, hp, _, rfl⟩ := TemplateGroup.drafts_eq_ok h
      exact ⟨obtained_of_make hp, fun e he => mem_trace_bind (mem_trace_bind he)⟩

/-- The id of a new security group is known once the machines are described. -/
theorem AreAt.exists_groupId {placement : Placement} {d : FleetDrafts} {here : Site}
    {past : History} (h : f.AreAt name x placement s d here) (hm : d.machine.settle past = .ok m)
    (hnew : f.options.firewall.group = none) : ∃ id, d.pair.group.id.outcome = .ok id := by
  obtain ⟨p, hp, starts, _⟩ := h.serves.groups
  obtain ⟨v, hv⟩ := Draft.outcome_of_settle hm hp
  obtain ⟨_, hids⟩ := starts.exists_ok hv
  obtain ⟨_, hall, _⟩ := outcome_bind_eq_ok.mp hids
  obtain ⟨id, hid, _⟩ := outcome_bind_eq_ok.mp hall
  have unchecked : d.pair.nodeGroupId f.options.firewall x.cluster = d.pair.groupId := by
    rw [GroupPair.nodeGroupId, hnew]
    rfl
  rw [unchecked] at hid
  obtain ⟨own, hown, _⟩ := outcome_bind_eq_ok.mp hid
  exact ⟨own, hown⟩

/-- The tags of a complete group: those of its scaling group, of its stack if it has one, and of its
security group if that is made for it. -/
structure IsTagged (name : String) (x : ClusterInput) (past : History) (r : Registration)
    (f : Fleet) : Prop where
  workers : ∃ t, Tags.AreForWorkers f.options x.cluster t ∧ f.ScalesWith r t
  stack : ∀ o, f = .stack o →
    ∃ t, Tags.AreForStack name o x.cluster t ∧ r.input "tags" = Json.wire (.map t)
  group : f.options.firewall.group = none → ∃ g : Registration, .registered g ∈ past ∧
    g.ref = f.options.firewall.groupRef name ∧
    ∃ t, Tags.AreForGroup name x.cluster t ∧ g.input "tags" = Json.wire (.map t)

theorem Completes.isTagged (h : f.Completes name x s form m r) :
    f.IsTagged name x (f.history name x s form) r := by
  obtain ⟨d, here, at_, machine, scaler⟩ := h.exists_drafts
  obtain ⟨hpair, within⟩ := obtain_of_drafts at_.drafted
  have group (hnew : f.options.firewall.group = none) : ∃ g : Registration,
      .registered g ∈ f.history name x s form ∧ g.ref = f.options.firewall.groupRef name ∧
      ∃ t, Tags.AreForGroup name x.cluster t ∧ g.input "tags" = Json.wire (.map t) := by
    obtain ⟨id, hid⟩ := at_.exists_groupId machine hnew
    obtain ⟨g, registered, rest⟩ := GroupPair.registered_of_obtain hnew hpair hid
    exact ⟨g, h.mem_history_of_drafts (within _ registered), rest⟩
  cases f with
  | stack o =>
      obtain ⟨p, _, script, rootDevice, _, _, _, rfl⟩ := StackGroup.drafts_eq_ok at_.drafted
      obtain ⟨workers, own⟩ := StackGroup.tags_of_settle scaler
      refine ⟨workers, ?_, group⟩
      rintro _ ⟨⟩
      exact own
  | template o =>
      obtain ⟨p, _, _, _, _, rfl⟩ := TemplateGroup.drafts_eq_ok at_.drafted
      obtain ⟨t, ht, sent⟩ := TemplateGroup.tags_of_settle scaler
      refine ⟨⟨t, Tags.areForWorkers_of_outcome ht, sent⟩, ?_, group⟩
      rintro _ ⟨⟩

end Fleet

/-- A provider whose tags are a map is registered with tags that are composed of the standard ones
and those. -/
theorem ProviderSettings.exists_create (p : ProviderSettings) {es : Entries Setting}
    (h : p.tags = .map es) (s : Site) : ∃ t, p.defaultTags s.stack = .ok t ∧
      Entries.IsLayered (Tags.providerLayers s.stack p.clusterStack es) t ∧
      p.create s = Plan.register (p.draft s.stack t) s := by
  obtain ⟨t, ht, layered⟩ := Tags.exists_defaultTags s.stack h
  refine ⟨t, ht, layered, ?_⟩
  rw [create, site_bind, ht]
  exact congrFun (Plan.pure_bind t _) s

/-- Options with tags for the machines, one of which is known only later and takes the place of a
standard one, and with tags for the stack that are all known only later. -/
def taggedOptions : TemplateOptions :=
  { keyedOptions with
    groupTags := .now (some [("team", .now "green"), ("Name", .later (Pure.pure (.text "mine")))])
    stackTags := .later (Pure.pure (.map [("Name", .text "ours"), ("cost", .text "42")])) }

end FleetPlan
