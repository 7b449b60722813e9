import FleetPlan.Proofs.Base64RoundTrip
import FleetPlan.Proofs.FleetInputs
import FleetPlan.Proofs.StagedScripts

/-!
The two sorts of groups of one's own agree.

Planned for one cluster from the same options, a group in a stack and a group that is launched from a
template have machines of the same description, scale alike and run the same script, but for the
marker around the user's script and the line that signals the stack. The bounds of the one stand in
a text, digit by digit, and those of the other travel as doubles, so they are the same only as far as
doubles tell. What else the two register is not compared.
-/
namespace FleetPlan

open Plan Deferred

/-- Root volumes of the same size and kind; the second has texts for truth values. -/
structure VolumesAgree (volume disk : Json) : Prop where
  sizes : ∀ key ∈ ["volumeSize", "volumeType", "iops", "throughput"],
    volume.member key = disk.member key
  flags : ∀ key ∈ ["encrypted", "deleteOnTermination"], ∃ b,
    volume.member key = .bool b ∧ disk.member key = TemplateGroup.flagText b

/-- Descriptions of the same machines, flat as `m` and as the template `t`, whose truth values are
texts. -/
structure MachinesAgree (o : WorkerOptions) (m t : Registration) : Prop where
  imageId : m.input "imageId" = t.input "imageId"
  instanceType : m.input "instanceType" = t.input "instanceType"
  keyName : m.input "keyName" = t.input "keyName"
  profile : m.input "iamInstanceProfile" = (t.input "iamInstanceProfile").member "arn"
  network : ∃ face, t.input "networkInterfaces" = .list [face] ∧
    m.input "securityGroups" = face.member "securityGroups" ∧
    ∃ b, m.input "associatePublicIpAddress" = .bool b ∧
      face.member "associatePublicIpAddress" = TemplateGroup.flagText b
  volume : ∃ mapping, t.input "blockDeviceMappings" = .list [mapping] ∧
    VolumesAgree (m.input "rootBlockDevice") (mapping.member "ebs")
  price : m.input "spotPrice" =
    ((t.input "instanceMarketOptions").member "spotOptions").member "maxPrice"
  unpriced : o.machine.spotPrice.isTruthy = false →
    m.input "spotPrice" = .null ∧ t.input "instanceMarketOptions" = .null

/-- An integer as it is read from a text and as it arrives. -/
structure SameSize (n : Int) (v w : Json) : Prop where
  read : v = .int n
  arrived : w = Json.wire (.int n)
  same : n.natAbs < Nat.pow 2 53 → Json.same v w = true

/-- Subnets as they are read from a text and as they arrive: ids that are texts stay as they are. -/
structure SameZones (zones v w : Json) : Prop where
  read : ∃ items, zones.items? = some items ∧ v = .list (items.map Json.reread)
  arrived : w = Json.wire zones
  same : ∀ ids : List String, w = .list (ids.map .text) → v = w

/-- The scaling group that a template declares, read as `v`, and a registered one. -/
structure ScalesAlike (o : WorkerOptions) (v : Json) (g : Registration) : Prop where
  desired : SameSize (o.bounds.fill .small).desired (GroupTemplate.property v "DesiredCapacity")
    (g.input "desiredCapacity")
  least : SameSize (o.bounds.fill .small).least (GroupTemplate.property v "MinSize")
    (g.input "minSize")
  most : SameSize (o.bounds.fill .small).most (GroupTemplate.property v "MaxSize")
    (g.input "maxSize")
  zones : ∃ zones, SameZones zones (GroupTemplate.property v "VPCZoneIdentifier")
    (g.input "vpcZoneIdentifiers")
  tags : ∃ tags : Entries Json, (Entries.keys tags).Nodup ∧
    GroupTemplate.property v "Tags" = .list (tags.map fun e => .map [
      ("Key", .text e.1), ("Value", Json.reread e.2), ("PropagateAtLaunch", .text "true")]) ∧
    g.input "tags" = .list (tags.map fun e => Json.wire (.map [
      ("key", .text e.1), ("value", e.2), ("propagateAtLaunch", .bool true)]))

/-- The script of a group in a stack and that of a group from a template: the same if it is the
user's own; otherwise the one that goes by another marker, but for the line that signals. -/
structure ScriptsAgree (name stack : String) (o : WorkerOptions) (script decoded : String) :
    Prop where
  own : o.startup.override.isTruthy = true → decoded = script
  boot : o.startup.override.isTruthy = false → ∃ (b : BootstrapScript) (region : Json),
    b.marker = .text stack ∧ b.signal = some ⟨.text stack, region⟩ ∧ script = b.render ∧
      decoded ++ BootstrapScript.signalLine b.signal =
        BootstrapScript.render { b with marker := .text name }

/-- What a group in a stack and a group from a template have in common: `m` describes the machines
of the one and `r` is its stack, `t` is the template of the other and `g` scales it. -/
structure Fleet.Agree (name : String) (s : Site) (o : WorkerOptions) (m r t g : Registration) :
    Prop where
  machines : MachinesAgree o m t
  scaling : ∃ body v, r.input "templateBody" = .text body ∧ Json.read? body = some v ∧
    ScalesAlike o v g
  scripts : ∃ script encoded decoded, m.input "userData" = .text script ∧
    t.input "userData" = .text encoded ∧ Text.Base64.decodeText? encoded = some decoded ∧
    ScriptsAgree name (stackName s.project s.stack name) o script decoded

theorem TextInput.eq_absent {x : TextInput} (h : x.isTruthy = false) (hne : x ≠ .now (some "")) :
    x = .absent := by
  match x with
  | .now none => rfl
  | .now (some s) =>
      have empty : s = "" := by simpa [isTruthy] using h
      exact absurd (by rw [empty]) hne
  | .later _ => cases h

theorem Draft.server_of_settle {d : Draft} {past : History} {r : Registration}
    (h : d.settle past = .ok r) (hcustom : d.isComponent = false) (hcloud : d.ref.isOfCloud = true) :
    d.placement.server.bind Provider.failure = none := by
  have needed : d.neededProvider = d.placement.server := by
    simp only [neededProvider, server, hcustom, hcloud, Bool.false_eq_true, if_false, if_true]
  exact needed ▸ (settle_eq_ok_iff.1 h).2.1

namespace RootVolume

theorem member_wire_entries (v : RootVolume) (flag : Bool → Json) (iops throughput : Option Int)
    {key : String} (hkey : Json.isReserved key = false) :
    (Json.wire (.map (v.entries flag iops throughput))).member key =
      Json.wire ((Value.map (v.entries flag iops throughput)).member key) := by
  refine Json.member_wire ?_ hkey
  exact (by decide : ["encrypted", "volumeSize", "volumeType", "iops", "throughput",
    "deleteOnTermination"].Nodup)

theorem volumesAgree (v : RootVolume) (iops throughput : Option Int) :
    VolumesAgree (Json.wire (.map (v.entries .bool iops throughput)))
      (Json.wire (.map (v.entries TemplateGroup.flagText iops throughput))) where
  sizes key hkey := by
    simp only [List.mem_cons, List.not_mem_nil, or_false] at hkey
    rcases hkey with rfl | rfl | rfl | rfl <;>
      rw [member_wire_entries _ _ _ _ (by decide), member_wire_entries _ _ _ _ (by decide)] <;> rfl
  flags key hkey := by
    simp only [List.mem_cons, List.not_mem_nil, or_false] at hkey
    rcases hkey with rfl | rfl
    · refine ⟨v.encrypted, ?_, ?_⟩ <;> rw [member_wire_entries _ _ _ _ (by decide)]
      · exact Json.wire_bool _
      · exact Json.wire_text _
    · refine ⟨v.deleteOnTermination, ?_, ?_⟩ <;> rw [member_wire_entries _ _ _ _ (by decide)]
      · exact Json.wire_bool _
      · exact Json.wire_text _

end RootVolume

section Machines

variable {name : String} {o : TemplateOptions} {placement placement' : Placement}
  {p q : Preparation} {rootDevice : Json} {root device script script' : Deferred Json}
  {past past' : History} {m t : Registration}

/-- A price that is not given is not registered; the empty text would be. -/
theorem price_of_settle (hprice : o.machine.spotPrice ≠ .now (some ""))
    (hm : (StackGroup.configurationDraft name o.toWorkerOptions p placement rootDevice
      script).settle past = .ok m) :
    m.Carries "spotPrice" o.machine.spotPrice.value ∧
      (o.machine.spotPrice.isTruthy = false → m.input "spotPrice" = .null) := by
  have bid : m.Carries "spotPrice" o.machine.spotPrice.value :=
    StackGroup.carries_configuration hm "spotPrice" rfl
  refine ⟨bid, fun given => ?_⟩
  obtain ⟨price, known, sent⟩ := bid
  rw [TextInput.eq_absent given hprice] at known
  cases known
  exact sent.trans Json.wire_null

theorem volume_of_settle (hroot : StackGroup.rootDeviceProperty o.volume = .ok rootDevice)
    (hdevice : TemplateGroup.blockDevice o.volume root = .ok device)
    (hm : (StackGroup.configurationDraft name o.toWorkerOptions p placement rootDevice
      script).settle past = .ok m)
    (ht : (TemplateGroup.templateDraft name o q placement' device script').settle past' = .ok t) :
    ∃ mapping, t.input "blockDeviceMappings" = .list [mapping] ∧
      VolumesAgree (m.input "rootBlockDevice") (mapping.member "ebs") := by
  obtain ⟨iops, throughput, hiops, hthroughput, rfl⟩ := StackGroup.rootDeviceProperty_eq_ok hroot
  obtain ⟨_, hdisk, sent⟩ := StackGroup.carries_configuration hm "rootBlockDevice" rfl
  cases hdisk
  obtain ⟨mapping, iops', throughput', hiops', hthroughput', mappings, disk⟩ :=
    TemplateGroup.mappings_of_settle hdevice ht
  obtain rfl := Except.ok.inj (hiops.symm.trans hiops')
  obtain rfl := Except.ok.inj (hthroughput.symm.trans hthroughput')
  refine ⟨mapping, mappings, ?_⟩
  rw [sent, disk]
  exact o.volume.volumesAgree iops throughput

theorem machinesAgree_of_settle (agree : p.Agrees q)
    (hprice : o.machine.spotPrice ≠ .now (some ""))
    (hroot : StackGroup.rootDeviceProperty o.volume = .ok rootDevice)
    (hdevice : TemplateGroup.blockDevice o.volume root = .ok device)
    (hm : (StackGroup.configurationDraft name o.toWorkerOptions p placement rootDevice
      script).settle past = .ok m)
    (ht : (TemplateGroup.templateDraft name o q placement' device script').settle past' = .ok t) :
    MachinesAgree o.toWorkerOptions m t := by
  have flat (key : String) {x : Deferred Json} (hx : Entries.get?
      (StackGroup.configurationDraft name o.toWorkerOptions p placement rootDevice
        script).properties key = some x) : m.Carries key x :=
    StackGroup.carries_configuration hm key hx
  have inside (key : String) (hkey : key ∈ ["imageId", "instanceType", "keyName", "userData"])
      {x : Deferred Json} (hx : Entries.get? (TemplateGroup.templateDraft name o q placement' device
        script').properties key = some x) : t.Carries key x :=
    TemplateGroup.carries_template ht hkey hx
  obtain ⟨bid, quiet⟩ := price_of_settle hprice hm
  obtain ⟨bidding, unpriced⟩ := TemplateGroup.market_of_settle ht
  constructor
  case imageId =>
    exact (flat "imageId" rfl).agree (inside "imageId" (by decide) rfl) agree.imageId
  case instanceType =>
    exact (flat "instanceType" rfl).agree (inside "instanceType" (by decide) rfl) (agrees_refl _)
  case keyName =>
    exact (flat "keyName" rfl).agree (inside "keyName" (by decide) rfl) agree.keyName
  case profile =>
    obtain ⟨arn, harn, sent⟩ := flat "iamInstanceProfile" rfl
    obtain ⟨arn', harn', sent'⟩ := TemplateGroup.profile_of_settle ht
    rw [sent, sent', agree.profileArn arn arn' harn harn']
  case network =>
    obtain ⟨groups, hgroups, sent⟩ := flat "securityGroups" rfl
    obtain ⟨_, hflag, flag⟩ := flat "associatePublicIpAddress" rfl
    cases hflag
    obtain ⟨groups', face, hgroups', faces, inner, flag'⟩ := TemplateGroup.interfaces_of_settle ht
    refine ⟨face, faces, ?_, _, flag.trans (Json.wire_bool _), flag'⟩
    rw [sent, inner, agree.groupIds groups groups' hgroups hgroups']
  case volume => exact volume_of_settle hroot hdevice hm ht
  case price =>
    obtain ⟨price, known, sent⟩ := bid
    cases given : o.machine.spotPrice.isTruthy with
    | true =>
        obtain ⟨price', known', inner⟩ := bidding given
        rw [sent, inner, agrees_refl _ price price' known known']
    | false =>
        rw [quiet given, unpriced given]
        rfl
  case unpriced => exact fun given => ⟨quiet given, unpriced given⟩

end Machines

section Scaling

variable {name stack : String} {o : TemplateOptions} {cluster : Deferred Cluster}
  {placement placement' : Placement} {p q : Preparation} {configuration template : Resource}
  {past past' : History} {r g : Registration}

theorem sameSize_int (n : Int) : SameSize n (.int n) (Json.wire (.int n)) where
  read := rfl
  arrived := rfl
  same h := by
    simp [Json.wire, Json.same, Json.sameNumber, Json.numbersAgree, Json.sameInt_wireNumber h]

theorem sameZones_items {zones : Json} {items : List Json} (h : zones.items? = some items) :
    SameZones zones (.list (items.map Json.reread)) (Json.wire zones) where
  read := ⟨items, h, rfl⟩
  arrived := rfl
  same ids hids := by
    obtain rfl := Json.eq_texts_of_wire hids
    obtain rfl : ids.map .text = items := Option.some.inj h
    rw [hids, List.map_map]
    exact congrArg Value.list (List.map_congr_left fun id _ => Json.reread_text id)

theorem nodup_keys_workerTags {o : WorkerOptions} {tags : Entries Json}
    (h : (Preparation.workerTags o cluster).outcome = .ok tags) : (Entries.keys tags).Nodup := by
  obtain ⟨clusterName, _, h⟩ := outcome_bind_eq_ok.1 h
  obtain ⟨asked, _, h⟩ := outcome_bind_eq_ok.1 h
  cases hw : Tags.workers clusterName.display asked with
  | none =>
      rw [hw] at h
      cases h
  | some found =>
      rw [hw] at h
      cases h
      unfold Tags.workers Json.layer? at hw
      split at hw
      · split at hw
        · cases hw
          exact Entries.nodup_keys_overlay (Entries.nodup_keys_ofPairs _) _
        · cases hw
      · cases hw
        exact Entries.nodup_keys_ofPairs _

theorem scalesAlike_of_settle (agree : p.Agrees q) (hrange : p.capacity.range = o.bounds.fill .small)
    (hr : (StackGroup.stackDraft name stack o.toWorkerOptions p cluster placement
      configuration).settle past = .ok r)
    (hg : (TemplateGroup.scalingDraft name o q cluster placement' template).settle past' = .ok g) :
    ∃ body v, r.input "templateBody" = .text body ∧ Json.read? body = some v ∧
      ScalesAlike o.toWorkerOptions v g := by
  obtain ⟨_, hv, _⟩ := (StackGroup.isWellKeyed_stackDraft stack p cluster _).exists_input hr
    "templateBody" rfl
  obtain ⟨t, rfl, _, hcapacity, ⟨subnets, hsubnets, hitems⟩, htags⟩ :=
    StackGroup.outcome_templateBody hv
  have found := (StackGroup.isWellKeyed_stackDraft stack p cluster _).input_text hr
    "templateBody" rfl hv
  have sizes : t.capacity.range = o.bounds.fill .small := by rw [hcapacity, hrange]
  have sizes' : q.capacity.range = o.bounds.fill .small := by rw [← agree.capacity, hrange]
  have size (key : String) (count : Range → Int)
      (hx : Entries.get? (TemplateGroup.scalingDraft name o q cluster placement'
        template).properties key = some (Pure.pure (.int (count q.capacity.range)))) :
      SameSize (count (o.bounds.fill .small)) (.int (count t.capacity.range)) (g.input key) := by
    rw [TemplateGroup.size_of_settle hg hx, sizes, sizes']
    exact sameSize_int _
  refine ⟨_, _, congrArg Value.ofOption found, GroupTemplate.read?_text t, ?_⟩
  constructor
  case desired => exact size "desiredCapacity" (·.desired) rfl
  case least => exact size "minSize" (·.least) rfl
  case most => exact size "maxSize" (·.most) rfl
  case zones =>
    obtain ⟨zones, hzones, sent⟩ := TemplateGroup.zones_of_settle hg
    obtain rfl := agree.subnets subnets zones hsubnets hzones
    exact ⟨subnets, sent ▸ sameZones_items hitems⟩
  case tags =>
    obtain ⟨tags, htags', sent⟩ := TemplateGroup.tags_of_settle hg
    obtain rfl : tags = t.tags := Except.ok.inj (htags'.symm.trans htags)
    refine ⟨t.tags, nodup_keys_workerTags htags, ?_, ?_⟩
    · show Value.list ((Entries.mapValues Json.reread t.tags).map GroupTemplate.tag) = _
      rw [Entries.mapValues, List.map_map]
      rfl
    · rw [sent, Json.wire, Json.wireList_eq_map, Tags.propagated, List.map_map, List.map_map]
      rfl

end Scaling

section Scripts

variable {name stack : String} {o : TemplateOptions} {cluster : Deferred Cluster}
  {placement placement' : Placement} {p q : Preparation} {here : Site} {rootDevice : Json}
  {device script : Deferred Json} {past past' : History} {m t : Registration}

theorem boot_of_outcome (agree : p.Agrees q) {region : Deferred Json} {legacy decoded : String}
    (hlegacy : (p.script o.toWorkerOptions cluster stack (some (stack, region))).outcome =
      .ok legacy)
    (hdecoded : (q.script o.toWorkerOptions cluster name none).outcome = .ok decoded) :
    ∃ (b : BootstrapScript) (region : Json), b.marker = .text stack ∧
      b.signal = some ⟨.text stack, region⟩ ∧ legacy = b.render ∧
      decoded ++ BootstrapScript.signalLine b.signal =
        BootstrapScript.render { b with marker := .text name } := by
  obtain ⟨clusterName, endpoint, authority, user, there, hname, hendpoint, hauthority, huser, _, rfl⟩ :=
    Preparation.outcome_script hlegacy
  obtain ⟨_, _, _, _, _, hname', hendpoint', hauthority', huser', _, rfl⟩ :=
    Preparation.outcome_script hdecoded
  obtain rfl := agrees_refl _ _ _ hname hname'
  obtain rfl := agrees_refl _ _ _ hendpoint hendpoint'
  obtain rfl := agrees_refl _ _ _ hauthority hauthority'
  obtain rfl := agrees_refl _ _ _ huser huser'
  refine ⟨_, there, rfl, rfl, rfl, ?_⟩
  rw [agree.tail]
  exact BootstrapScript.render_append
    ⟨clusterName, endpoint, authority, q.tail, user, .text name, none⟩ _

theorem scriptsAgree_of_settle (agree : p.Agrees q)
    (hmade : (StackGroup.userData p o.toWorkerOptions cluster placement stack here).answer =
      .ok script)
    (hm : (StackGroup.configurationDraft name o.toWorkerOptions p placement rootDevice
      script).settle past = .ok m)
    (ht : (TemplateGroup.templateDraft name o q placement' device
      (TemplateGroup.userData name q o cluster)).settle past' = .ok t) :
    ∃ script encoded decoded, m.input "userData" = .text script ∧
      t.input "userData" = .text encoded ∧ Text.Base64.decodeText? encoded = some decoded ∧
      ScriptsAgree name stack o.toWorkerOptions script decoded := by
  obtain ⟨_, known, sent⟩ := StackGroup.carries_configuration hm "userData" rfl
  obtain ⟨_, known', sent'⟩ := TemplateGroup.carries_template ht (by decide : "userData" ∈ _)
    (x := TemplateGroup.userData name q o cluster) rfl
  obtain ⟨decoded, rfl, own, boot⟩ := TemplateGroup.outcome_userData known'
  have decodes := Text.Base64.decodeText?_encodeText decoded
  cases given : o.startup.override.isTruthy with
  | true =>
      have whole : script = o.startup.override.value := by
        rw [StackGroup.userData, if_pos given] at hmade
        exact (Except.ok.inj hmade).symm
      rw [whole, own given] at known
      cases known
      refine ⟨decoded, _, decoded, sent.trans (Json.wire_text _), sent'.trans (Json.wire_text _),
        decodes, fun _ => rfl, fun other => ?_⟩
      rw [given] at other
      cases other
  | false =>
      obtain ⟨region, rfl⟩ := StackGroup.userData_of_script given hmade
      obtain ⟨legacy, hlegacy, known⟩ := outcome_bind_eq_ok.1 known
      cases known
      refine ⟨legacy, _, decoded, sent.trans (Json.wire_text _), sent'.trans (Json.wire_text _),
        decodes, fun other => ?_, fun _ => boot_of_outcome agree hlegacy (boot given)⟩
      rw [given] at other
      cases other

end Scripts

theorem Fleet.isOfCloud_machineRef (name : String) (f : Fleet) :
    (f.machineRef name).isOfCloud = true := by
  cases f <;> (simp only [machineRef, ResourceRef.isOfCloud]; decide)

theorem Site.Alike.site {s t : Site} (h : s.Alike t) (form form' : GroupForm) (d d' : Draft) :
    (form.site d s).Alike (form'.site d' t) := by
  cases form <;> cases form' <;> exact ⟨h.project, h.stack, h.cloud⟩

section Twins

variable {name : String} {x : ClusterInput} {o : TemplateOptions} {s s' : Site}
  {form form' : GroupForm} {m r t g : Registration}

/-- What both sorts of groups are prepared with agrees, once their machines are described. -/
theorem agrees_of_settle {cluster : Deferred Cluster} {placement placement' : Placement}
    {p q : Preparation} {rootDevice : Json} {device script script' : Deferred Json}
    {past past' : History} (hsites : s.Alike s')
    (hp : (Preparation.make name o.toWorkerOptions cluster placement s).answer = .ok p)
    (hq : (Preparation.make name o.toWorkerOptions cluster placement' s').answer = .ok q)
    (hm : (StackGroup.configurationDraft name o.toWorkerOptions p placement rootDevice
      script).settle past = .ok m)
    (ht : (TemplateGroup.templateDraft name o q placement' device script').settle past' = .ok t) :
    p.Agrees q :=
  have server := Draft.server_of_settle hm rfl
    (Fleet.isOfCloud_machineRef name (.stack o.toWorkerOptions))
  have server' := Draft.server_of_settle ht rfl (Fleet.isOfCloud_machineRef name (.template o))
  Preparation.agrees_make server server' name o.toWorkerOptions cluster _ _ hsites p q hp hq

theorem scaling_of_completes (hsites : s.Alike s')
    (hstack : (Fleet.stack o.toWorkerOptions).Completes name x s form m r)
    (htemplate : (Fleet.template o).Completes name x s' form' t g) :
    ∃ body v, r.input "templateBody" = .text body ∧ Json.read? body = some v ∧
      ScalesAlike o.toWorkerOptions v g := by
  obtain ⟨_, here, at_, machine, stack⟩ := hstack.exists_drafts
  obtain ⟨p, _, script, rootDevice, hp, _, _, rfl⟩ := StackGroup.drafts_eq_ok at_.drafted
  obtain ⟨_, here', at', template, group⟩ := htemplate.exists_drafts
  obtain ⟨q, root, device, hq, _, rfl⟩ := TemplateGroup.drafts_eq_ok at'.drafted
  have agree := agrees_of_settle (hsites.site form form' _ _) hp hq machine template
  have serves := (ensures_serves name o.toWorkerOptions x.cluster).2 p hp
  exact scalesAlike_of_settle agree serves.range stack group

end Twins

/-- Options of a group with a profile and bounds of its own, and nothing else given. -/
def sizedOptions (bounds : Bounds) : TemplateOptions :=
  { smallOptions smallProfile 20 with
    bounds := bounds
    healthyShare := .now 50
    tagSpecifications := none }

theorem sizedOptions_isKnown (bounds : Bounds) : (sizedOptions bounds).IsKnown :=
  have known : (smallOptions smallProfile 20).IsKnown :=
    smallOptions_isKnown ⟨_, rfl, Json.isTextOrNull_text _⟩ 20
  ⟨known.texts, known.override, known.subnets, known.tags, known.resources, known.group⟩

/-- Whatever its bounds are, as long as they can be sent, such a group is complete. -/
theorem exists_completes_sizedOptions {b : Bounds}
    (hleast : Json.isSendable (.int (b.fill .small).least) = true)
    (hmost : Json.isSendable (.int (b.fill .small).most) = true)
    (hdesired : Json.isSendable (.int (b.fill .small).desired) = true) :
    (∃ m r, (Fleet.stack (sizedOptions b).toWorkerOptions).Completes "workers"
      (.descriptor smallCluster) smallSite (.component none) m r) ∧
    ∃ t g, (Fleet.template (sizedOptions b)).Completes "workers" (.descriptor smallCluster)
      smallSite (.component none) t g := by
  have volume : (sizedOptions b).volume.CanBeSent :=
    ⟨(by decide : Json.isSendable (.int 20) = true), by rintro x (hx | hx) <;> cases hx⟩
  have ready (f : Fleet) (hf : f.options = (sizedOptions b).toWorkerOptions)
      (numbers : f.CanBeSent) :
      f.IsReady "workers" (.descriptor smallCluster) smallSite (.component none) := {
    named := by decide
    accepted := by rw [hf]; rfl
    options := hf ▸ sizedOptions_isKnown b
    numbers := numbers
    cluster := ⟨smallCluster, rfl, smallCluster_isKnown⟩
    placed := ⟨rfl, rfl, rfl⟩
    site := smallSite_isReady
    answered := fun c _ => smallCloud_answers c.question }
  have complete (f : Fleet) (hf : f.options = (sizedOptions b).toWorkerOptions)
      (numbers : f.CanBeSent) :
      ∃ m r, f.Completes "workers" (.descriptor smallCluster) smallSite (.component none) m r := by
    refine (ready f hf numbers).exists_completes ?_ ?_
    · rintro ⟨given, _⟩
      rw [hf] at given
      cases given
    · rintro ⟨_, _, _, _, given, _⟩
      rw [hf] at given
      cases given
  refine ⟨complete (.stack _) rfl volume, complete (.template _) rfl ?_⟩
  exact ⟨volume, hleast, hmost, hdesired, ⟨_, rfl, rfl, by decide⟩, fun _ h => nomatch h⟩

/-- A number of nodes that is no double. -/
def oddSize : Int := 9007199254740993

end FleetPlan
