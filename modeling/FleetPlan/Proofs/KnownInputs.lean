import FleetPlan.Fleet.Preparation
import FleetPlan.Proofs.Settling

/-!
Inputs that are known, and of the kinds that they are declared with.

A deferred input may turn out to be anything; here are those that come to what their place is
declared for. Data of these kinds is taken by every property that is meant for it, and so is what is
made of it: tags that are laid over each other, and what a resource puts out.
-/
namespace FleetPlan

namespace Json

/-- A text, or null for one that is absent. -/
def IsTextOrNull (v : Json) : Prop := ∃ o, v = .ofText o

/-- A list of texts. -/
def IsTexts (v : Json) : Prop := ∃ vs, v = .list vs ∧ ∀ w ∈ vs, IsTextOrNull w

/-- A map whose values are texts. -/
def IsTags (v : Json) : Prop := ∃ es, v = .map es ∧ ∀ e ∈ es, IsTextOrNull e.2

/-- Data that every property takes: there is no list in it, and it can be sent. -/
structure IsTakenAnywhere (v : Json) : Prop where
  listFree : isListFree v = true
  sendable : isSendable v = true

theorem isTextOrNull_text (s : String) : IsTextOrNull (.text s) := ⟨some s, rfl⟩

theorem isTextOrNull_null : IsTextOrNull .null := ⟨none, rfl⟩

theorem isTextOrNull_wire {v : Json} (h : IsTextOrNull v) : IsTextOrNull v.wire := by
  obtain ⟨o, rfl⟩ := h
  refine ⟨o, ?_⟩
  cases o with
  | none => exact wire_null
  | some s => exact wire_text s

theorem isTextOrNull_integerPart {v : Json} (h : IsTextOrNull v) : IsTextOrNull v.integerPart := by
  obtain ⟨o, rfl⟩ := h
  refine ⟨o, ?_⟩
  cases o <;> rfl

theorem isTakenAnywhere_textOrNull {v : Json} (h : IsTextOrNull v) : IsTakenAnywhere v := by
  obtain ⟨o, rfl⟩ := h
  exact ⟨isListFree_ofText o, isSendable_ofText o⟩

theorem isTakenAnywhere_map {es : Entries Json} (h : ∀ e ∈ es, IsTakenAnywhere e.2) :
    IsTakenAnywhere (.map es) := by
  constructor
  · rw [isListFree, membersListFree_eq_all, List.all_eq_true]
    exact fun e he => (h e he).listFree
  · rw [isSendable, entriesSendable_eq_all, List.all_eq_true]
    exact fun e he => (h e he).sendable

theorem isTakenAnywhere_tags {es : Entries Json} (h : ∀ e ∈ es, IsTextOrNull e.2) :
    IsTakenAnywhere (.map es) :=
  isTakenAnywhere_map fun e he => isTakenAnywhere_textOrNull (h e he)

end Json

namespace Tags

open Json

theorem layer?_isSome {base : Entries Json} {top : Json} (hb : ∀ e ∈ base, IsTextOrNull e.2)
    (ht : top = .null ∨ IsTags top) :
    ∃ es, layer? base top = some es ∧ ∀ e ∈ es, IsTextOrNull e.2 := by
  rcases ht with rfl | ⟨es, rfl, hes⟩
  · exact ⟨base, rfl, hb⟩
  · exact ⟨_, layer?_map base es, Entries.forall_overlay hb hes⟩

theorem workers_isSome (cluster : String) {tags : Json} (h : tags = .null ∨ IsTags tags) :
    ∃ es, workers cluster tags = some es ∧ ∀ e ∈ es, IsTextOrNull e.2 := by
  rw [workers]
  refine layer?_isSome (Entries.forall_ofPairs ?_) h
  refine List.forall_mem_cons.mpr ⟨isTextOrNull_text _, ?_⟩
  exact List.forall_mem_singleton.mpr (isTextOrNull_text _)

theorem ofCluster_isSome {forGroups own : Json} (hg : forGroups = .null ∨ IsTags forGroups)
    (ho : own = .null ∨ IsTags own) :
    ∃ es, ofCluster forGroups own = some es ∧ ∀ e ∈ es, IsTextOrNull e.2 := by
  have empty : ∀ e ∈ ([] : Entries Json), IsTextOrNull e.2 := List.forall_mem_nil _
  obtain ⟨base, hbase, known⟩ := layer?_isSome empty hg
  obtain ⟨es, hes, hall⟩ := layer?_isSome known ho
  refine ⟨es, ?_, hall⟩
  rw [ofCluster, hbase]
  exact hes

theorem stack_isSome (group : String) {asked cluster : Json} (ha : asked = .null ∨ IsTags asked)
    (hc : cluster = .null ∨ IsTags cluster) :
    ∃ es, stack group asked cluster = some es ∧ ∀ e ∈ es, IsTextOrNull e.2 := by
  have first : ∀ e ∈ [("Name", (.text (group ++ "-nodes") : Json))], IsTextOrNull e.2 :=
    List.forall_mem_singleton.mpr (isTextOrNull_text _)
  obtain ⟨base, hbase, known⟩ := layer?_isSome first ha
  obtain ⟨es, hes, hall⟩ := layer?_isSome known hc
  refine ⟨es, ?_, hall⟩
  rw [stack, hbase]
  exact hes

theorem forall_securityGroup (group cluster : String) {tags : Entries Json}
    (h : ∀ e ∈ tags, IsTextOrNull e.2) :
    ∀ e ∈ securityGroup group cluster tags, IsTextOrNull e.2 := by
  rw [securityGroup]
  refine Entries.forall_overlay (Entries.forall_ofPairs ?_) h
  refine List.forall_mem_cons.mpr ⟨isTextOrNull_text _, ?_⟩
  exact List.forall_mem_singleton.mpr (isTextOrNull_text _)

end Tags

namespace Draft

open Json

variable {d : Draft} {key : String}

theorem takes_anywhere {v : Json} (h : IsTakenAnywhere v) : d.Takes key v :=
  ⟨Shape.takes_listFree h.listFree _ key, h.sendable⟩

theorem takes_textOrNull {v : Json} (h : IsTextOrNull v) : d.Takes key v :=
  takes_anywhere (isTakenAnywhere_textOrNull h)

theorem takes_list {shape : Shape} (hslot : Shape.slot d.ref.properties key = some (.list shape))
    {vs : List Json} (h : ∀ v ∈ vs, IsTakenAnywhere v) : d.Takes key (.list vs) := by
  refine ⟨Shape.takes_list hslot fun v hv => Shape.fits_spell v (h v hv).listFree shape, ?_⟩
  rw [Json.isSendable, areSendable_eq_all, List.all_eq_true]
  exact fun v hv => (h v hv).sendable

theorem takes_texts (hslot : Shape.slot d.ref.properties key = some Shape.singles) {v : Json}
    (h : IsTexts v) : d.Takes key v := by
  obtain ⟨vs, rfl, hvs⟩ := h
  exact takes_list hslot fun w hw => isTakenAnywhere_textOrNull (hvs w hw)

end Draft

/-- The outputs of a resource that name it. -/
def namingOutputs : List String := ["id", "name", "keyName"]

/-- A resource that exists, and whose names are texts. -/
def Resource.Exists (r : Resource) : Prop :=
  ∃ es, r.outputs = .ok es ∧
    ∀ key ∈ namingOutputs, Json.IsTextOrNull (.ofOption (Entries.get? es key))

namespace Resource.Exists

variable {r : Resource} (h : r.Exists)

include h

theorem output (key : String) : (r.output key).Holds fun _ => True := by
  obtain ⟨es, hes, _⟩ := h
  refine ⟨.ofOption (Entries.get? es key), ?_, trivial⟩
  simp only [Resource.output, hes]
  rfl

theorem naming {key : String} (hkey : key ∈ namingOutputs) :
    (r.output key).Holds Json.IsTextOrNull := by
  obtain ⟨es, hes, named⟩ := h
  refine ⟨.ofOption (Entries.get? es key), ?_, named key hkey⟩
  simp only [Resource.output, hes]
  rfl

end Resource.Exists

/-- A cloud whose new resources have texts as their names. -/
def Cloud.NamesByTexts (c : Cloud) : Prop :=
  ∀ ref inputs, ∀ e ∈ c.outputs ref inputs, e.1 ∈ namingOutputs → Json.IsTextOrNull e.2

theorem Json.mem_of_mem_wireEntries {es : Entries Json} {e : String × Json}
    (h : e ∈ wireEntries es) : ∃ v, (e.1, v) ∈ es ∧ e.2 = v.wire := by
  induction es with
  | nil => cases h
  | cons e' es ih =>
      obtain ⟨k, v⟩ := e'
      rw [wireEntries] at h
      have later (h : e ∈ wireEntries es) : ∃ w, (e.1, w) ∈ (k, v) :: es ∧ e.2 = w.wire := by
        obtain ⟨w, hw, he⟩ := ih h
        exact ⟨w, .tail _ hw, he⟩
      split at h
      · exact later h
      · cases h with
        | head => exact ⟨v, .head _, rfl⟩
        | tail _ h => exact later h

/-- What a type puts out under a name is a text, whether it stays as it is or loses a fraction. -/
theorem Draft.isTextOrNull_output {d : Draft} {sent : Entries Json} {key : String}
    (hkey : key ∈ namingOutputs)
    (h : ∀ e ∈ sent, e.1 ∈ namingOutputs → Json.IsTextOrNull e.2) (urn : String) :
    Json.IsTextOrNull (.ofOption (Entries.get? (d.outputs urn sent) key)) := by
  have noUrn : ("urn" : String) ≠ key := by
    rintro rfl
    simp [namingOutputs] at hkey
  rw [Draft.outputs, Entries.get?_put, if_neg noUrn]
  cases hv : Entries.get? _ key with
  | none => exact Json.isTextOrNull_null
  | some v =>
      have arrived := Entries.mem_of_get? hv
      have kept : (key, v) ∈ (Json.wireEntries sent).map fun e =>
          (e.1, if d.ref.integerOutputs.contains e.1 then e.2.integerPart else e.2) := by
        split at arrived
        · exact List.mem_of_mem_filter arrived
        · exact arrived
      obtain ⟨e, he, hev⟩ := List.mem_map.mp kept
      cases hev
      obtain ⟨w, hw, hwire⟩ := Json.mem_of_mem_wireEntries he
      have named : Json.IsTextOrNull e.2 := by
        rw [hwire]
        exact Json.isTextOrNull_wire (h _ hw hkey)
      show Json.IsTextOrNull (if _ then _ else _)
      split
      · exact Json.isTextOrNull_integerPart named
      · exact named

theorem Draft.exists_resource {d : Draft} {s : Site} (h : ∃ r, d.settle s.past = .ok r)
    (hcloud : s.cloud.NamesByTexts) : (d.resource s).Exists := by
  obtain ⟨r, hr⟩ := h
  refine ⟨d.outputs (d.ref.urn s.project s.stack r.parent) (s.cloud.outputs d.ref r.inputs),
    ?_, fun key hkey => ?_⟩
  · rw [resource, hr]
    rfl
  · exact isTextOrNull_output hkey (hcloud _ _) _

/-! Inputs of a group. -/

namespace Cluster

/-- The parts of a description that are single texts. -/
def textParts : List (Cluster → Part) :=
  [name, endpoint, authority, version, network, controlGroup, profileArn, nodeGroup]

/-- The parts that are lists of texts. -/
def listParts : List (Cluster → Part) := [subnets, privateSubnets, publicSubnets]

/-- The parts that are tags. -/
def tagParts : List (Cluster → Part) := [nodeGroupTags, tags]

/-- Every part comes to data of its kind, or to null, and no resource to wait for has failed. -/
structure IsKnown (c : Cluster) : Prop where
  texts : ∀ get ∈ textParts, (get c).deferred.Holds Json.IsTextOrNull
  lists : ∀ get ∈ listParts, (get c).deferred.Holds fun v => v = .null ∨ Json.IsTexts v
  maps : ∀ get ∈ tagParts, (get c).deferred.Holds fun v => v = .null ∨ Json.IsTags v
  plugin : c.networkPlugin.Holds fun r => ∀ p ∈ r, p.failure? = none
  access : c.nodeAccess.Holds fun r => ∀ p ∈ r, p.failure? = none

end Cluster

namespace Deferred

variable {cluster : Deferred Cluster} (h : cluster.Holds Cluster.IsKnown) {get : Cluster → Part}

include h

theorem holds_textPart (hget : get ∈ Cluster.textParts) :
    (cluster.part get).Holds Json.IsTextOrNull := h.bind fun _ hc => hc.texts get hget

theorem holds_listPart (hget : get ∈ Cluster.listParts) :
    (cluster.part get).Holds fun v => v = .null ∨ Json.IsTexts v :=
  h.bind fun _ hc => hc.lists get hget

theorem holds_tagPart (hget : get ∈ Cluster.tagParts) :
    (cluster.part get).Holds fun v => v = .null ∨ Json.IsTags v :=
  h.bind fun _ hc => hc.maps get hget

theorem holds_fleetDependencies :
    (do (← cluster).fleetDependencies).Holds fun rs => ∀ r ∈ rs, r.failure? = none := by
  refine h.bind fun c hc => ?_
  refine hc.plugin.bind fun plugin hplugin => ?_
  refine hc.access.bind fun access haccess => ?_
  refine holds_pure fun r hr => ?_
  rcases List.mem_append.mp hr with hr | hr
  · exact hplugin r (Option.mem_toList.mp hr)
  · exact haccess r (Option.mem_toList.mp hr)

end Deferred

namespace WorkerOptions

/-- The options that are single texts, at hand or deferred. -/
def textInputs (o : WorkerOptions) : List TextInput :=
  [o.machine.type, o.machine.spotPrice, o.machine.image, o.machine.version, o.access.publicKey,
    o.access.keyName, o.startup.userScript, o.startup.override, o.profile.arn]

/-- A resource is among the security groups and rules that the user brings. -/
def Brings (o : WorkerOptions) (r : Resource) : Prop :=
  o.firewall.group = some r ∨ o.firewall.ingressRule = some r ∨ r ∈ o.firewall.extraGroups

/-- Every option comes to data of its kind, and the resources among the options exist. -/
structure IsKnown (o : WorkerOptions) : Prop where
  texts : ∀ x ∈ o.textInputs, TextInput.value x |>.Holds Json.IsTextOrNull
  override : o.startup.override.isTruthy = true →
    o.startup.override.value.Holds fun v => ∃ t, v = .text t
  subnets : ∀ d, o.placement.subnets.value? = some d → d.Holds Json.IsTexts
  tags : ∀ x ∈ [o.groupTags, o.stackTags],
    TagsInput.value x |>.Holds fun v => v = .null ∨ Json.IsTags v
  resources : ∀ r, o.Brings r → r.Exists
  group : ∀ g, o.firewall.group = some g → ∃ i, g.id.outcome = .ok (.text i)

end WorkerOptions

/-- The numbers of a volume are no larger than any that can be sent. -/
structure RootVolume.CanBeSent (v : RootVolume) : Prop where
  size : Json.isSendable (.int v.size) = true
  amounts : ∀ x, v.iops = some x ∨ v.throughput = some x →
    ∀ n, x.toInt = .ok n → Json.isSendable (.int n) = true

/-- The numbers among the options of a group that is launched from a template can be sent, and its
ready-made blocks come to data without lists. -/
structure TemplateOptions.CanBeSent (o : TemplateOptions) : Prop where
  volume : o.volume.CanBeSent
  least : Json.isSendable (.int (o.bounds.fill .small).least) = true
  most : Json.isSendable (.int (o.bounds.fill .small).most) = true
  desired : Json.isSendable (.int (o.bounds.fill .small).desired) = true
  healthyShare : (o.healthyShare.resolve fun n => pure (.int n)).Holds Json.IsTakenAnywhere
  blocks : ∀ bs ∈ o.tagSpecifications, ∀ b ∈ bs, b.body.Holds Json.IsTakenAnywhere

/-- A placement below nothing that has failed, and with no provider that has. -/
structure Placement.IsReady (p : Placement) : Prop where
  sound : p.isSound = true
  parent : p.parent.bind Resource.failure? = none
  server : p.server.bind Provider.failure = none

theorem Placement.IsReady.neededProvider {d : Draft} (h : d.placement.IsReady)
    (hc : d.isComponent = false) : d.neededProvider.bind Provider.failure = none := by
  simp only [Draft.neededProvider, hc, Bool.false_eq_true, if_false, Draft.server]
  split
  · exact h.server
  · rfl

/-- A site where nothing has failed, with a cloud that names its resources by texts. -/
structure Site.IsReady (s : Site) : Prop where
  past : s.past.Unfailed
  cloud : s.cloud.NamesByTexts

theorem Site.IsReady.after {s : Site} (h : s.IsReady) {t : History} (ht : t.Unfailed) :
    (s.after t).IsReady := ⟨History.unfailed_append h.past ht, h.cloud⟩

theorem Plan.succeeds_register {d : Draft} {s : Site} (hn : d.Named) (hd : d.ReadyBut [])
    (hs : s.IsReady) : Succeeds Resource.Exists (register d) s := by
  intro _
  have settled := Draft.exists_settle hd.toKnownBut (fun _ _ hk => nomatch hk) (hd.canWait hs.past)
  exact ⟨d.resource s, [d.event s.past], register_of_named hn s, Draft.unfailed_event settled,
    Draft.exists_resource settled hs.cloud⟩

/-- A cloud that answers every question. -/
def smallCloud : Cloud where
  region := .ok (.text "us-west-2")
  parameter _ := .ok (.text "ami-1")
  devices _ := .ok [.text "/dev/xvda"]
  routing := {
    tableOfSubnet := fun _ => .ok []
    networkOfSubnet := fun _ => .ok "vpc"
    mainTables := fun _ => .ok ["rtb"]
    table := fun _ => .ok [] }
  exports _ := []
  outputs ref _ := [("id", .text (ref.name ++ "_id")), ("name", .text ref.name)]

/-- The site of a program that starts. -/
def smallSite : Site := { project := "project", stack := "stack", cloud := smallCloud }

theorem smallCloud_answers (q : Question) : smallCloud.Answers q := by
  cases q with
  | region => exact ⟨_, rfl⟩
  | parameter _ => exact ⟨_, rfl⟩
  | image _ => exact ⟨_, _, rfl⟩
  | routing q =>
      cases q with
      | tableOfSubnet _ => exact ⟨_, rfl⟩
      | subnet _ => exact ⟨_, rfl⟩
      | mainTables _ => exact ⟨_, _, rfl⟩
      | table _ => exact ⟨_, rfl⟩

theorem smallSite_isReady : smallSite.IsReady := by
  refine ⟨fun e he => ?_, fun ref inputs => ?_⟩
  · cases he
  · refine List.forall_mem_cons.mpr ⟨fun _ => ⟨some _, rfl⟩, ?_⟩
    exact List.forall_mem_singleton.mpr fun _ => ⟨some _, rfl⟩

/-- Options of a group with a profile and a size of its volume, and nothing else given. -/
def smallOptions (profile : Profile) (size : Int) : WorkerOptions where
  placement := ⟨.absent, true⟩
  machine := ⟨.now (some "t2.medium"), .absent, .absent, none, false, .absent⟩
  firewall := ⟨none, none, []⟩
  access := ⟨.absent, .absent⟩
  volume := ⟨size, true, false, none, none, .gp2⟩
  startup := ⟨.absent, .absent, ⟨none, none, none⟩, none⟩
  bounds := ⟨none, none, none⟩
  profile := profile
  groupTags := .absent
  stackTags := .absent

/-- A profile of one's own. -/
def smallProfile : Profile := .address (.now (some "arn"))

theorem smallOptions_isKnown {profile : Profile}
    (h : (TextInput.value profile.arn).Holds Json.IsTextOrNull) (size : Int) :
    (smallOptions profile size).IsKnown := by
  have absent : (TextInput.value .absent).Holds Json.IsTextOrNull :=
    ⟨_, rfl, Json.isTextOrNull_null⟩
  have none : (TagsInput.value .absent).Holds fun v => v = .null ∨ Json.IsTags v :=
    ⟨_, rfl, .inl rfl⟩
  constructor
  · simp only [WorkerOptions.textInputs, List.forall_mem_cons]
    exact ⟨⟨_, rfl, Json.isTextOrNull_text _⟩, absent, absent, absent, absent, absent, absent,
      absent, h, List.forall_mem_nil _⟩
  · intro h
    cases h
  · intro d h
    cases h
  · exact List.forall_mem_cons.mpr ⟨none, List.forall_mem_singleton.mpr none⟩
  · rintro r (h | h | h) <;> cases h
  · intro g h
    cases h

end FleetPlan
