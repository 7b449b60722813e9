import FleetPlan.Proofs.StackNames
import FleetPlan.Proofs.TravelledValues
import FleetPlan.Proofs.TwinRuns

/-!
What the two sorts of groups are registered with.

A property is registered as it travels, its keys being spelled already as its type declares them. A
launch configuration has its values flat, a launch template has some of them inside maps and lists,
and of these every member is found where it was put.
-/
namespace FleetPlan

open Plan Deferred

namespace Shape

theorem spell_single (v : Json) : spell v .single = v := by
  cases v <;> rfl

theorem spell_singles (v : Json) : spell v singles = v := by
  cases v with
  | list vs =>
      have elements : spellAll vs .single = vs := by
        induction vs with
        | nil => rfl
        | cons v vs ih => rw [spellAll, spell_single, ih]
      rw [singles, spell, elements]
  | null | bool _ | number _ | text _ | map _ => rfl
  | leaf a => cases a

theorem spelledAs_of_forall {fields : List (String × Shape)} {key : String} {v : Json}
    (h : ∀ e ∈ fields, e.1 = key → spell v e.2 = v) : spelledAs fields key v = v := by
  unfold spelledAs
  split
  case h_1 s hs => exact h _ (Entries.mem_of_get? hs) rfl
  case h_2 => rfl

theorem spelledAs_of_get? {fields : List (String × Shape)} {key : String} {s : Shape} {v : Json}
    (h : Entries.get? fields key = some s) (hv : spell v s = v) : spelledAs fields key v = v := by
  rw [spelledAs, h]
  exact hv

theorem spell_record {fields : List (String × Shape)} {es : Entries Json}
    (hkeys : ∀ key ∈ Entries.keys es, keyOf fields key = key)
    (hvalues : ∀ e ∈ es, spelledAs fields e.1 e.2 = e.2) :
    spell (.map es) (.record fields) = .map es := by
  rw [spell, spellMembers_eq_map fun e he => hkeys e.1 (List.mem_map_of_mem he)]
  refine congrArg Value.map ((List.map_congr_left fun e he => ?_).trans (List.map_id es))
  rw [hvalues e he]
  rfl

theorem spell_list {s : Shape} {vs : List Json} (h : ∀ v ∈ vs, spell v s = v) :
    spell (.list vs) (.list s) = .list vs := by
  have elements : spellAll vs s = vs := by
    induction vs with
    | nil => rfl
    | cons v vs ih =>
        rw [spellAll, h v (.head _), ih fun w hw => h w (.tail _ hw)]
  rw [spell, elements]

theorem spelledAs_int (fields : List (String × Shape)) (key : String) (n : Int) :
    spelledAs fields key (.int n) = .int n :=
  spelledAs_of_forall fun e _ _ => by cases e.2 <;> rfl

end Shape

/-- What a resource is registered with under a key, null if with nothing. -/
def Registration.input (r : Registration) (key : String) : Json :=
  .ofOption (Entries.get? r.inputs key)

/-- A value is known, and registered under a key as it travels. -/
def Registration.Carries (r : Registration) (key : String) (x : Deferred Json) : Prop :=
  ∃ v, x.outcome = .ok v ∧ r.input key = v.wire

theorem Registration.Carries.agree {r r' : Registration} {key key' : String} {x y : Deferred Json}
    (h : r.Carries key x) (h' : r'.Carries key' y) (agree : x.Agrees y) :
    r.input key = r'.input key' := by
  obtain ⟨v, hv, sent⟩ := h
  obtain ⟨w, hw, sent'⟩ := h'
  rw [sent, sent', agree v w hv hw]

theorem Draft.IsWellKeyed.carries {d : Draft} {past : History} {r : Registration}
    (hd : d.IsWellKeyed) (h : d.settle past = .ok r) (key : String) {x : Deferred Json}
    (hx : Entries.get? d.properties key = some x)
    (hspelled : ∀ v, x.outcome = .ok v → Shape.spelledAs d.ref.properties key v = v) :
    r.Carries key x := by
  obtain ⟨v, hv, sent⟩ := hd.exists_input h key hx
  rw [hspelled v hv] at sent
  exact ⟨v, hv, sent⟩

/-- The properties of a root volume, its truth values written in one way or another. -/
def RootVolume.entries (flag : Bool → Json) (iops throughput : Option Int) (v : RootVolume) :
    Entries Json := [
  ("encrypted", flag v.encrypted),
  ("volumeSize", .int v.size),
  ("volumeType", .text v.type.code),
  ("iops", (iops.map Value.int).getD .null),
  ("throughput", (throughput.map Value.int).getD .null),
  ("deleteOnTermination", flag v.deleteOnTermination)]

variable {name : String} {o : WorkerOptions} {p : Preparation} {placement : Placement}
  {past : History} {r : Registration}

namespace StackGroup

theorem spelledAs_configuration {n key : String} (v : Json) :
    Shape.spelledAs (ResourceRef.mk "aws:ec2/launchConfiguration:LaunchConfiguration" n).properties
      key v = v := by
  refine Shape.spelledAs_of_forall fun e he _ => ?_
  simp only [ResourceRef.properties, ResourceRef.singlesOf, List.map_cons, List.map_nil,
    List.cons_append, List.nil_append, List.mem_cons, List.not_mem_nil, or_false] at he
  rcases he with rfl | rfl | rfl | rfl | rfl | rfl | rfl <;>
    first | exact Shape.spell_single v | exact Shape.spell_singles v

theorem carries_configuration {rootDevice : Json} {script : Deferred Json}
    (h : (configurationDraft name o p placement rootDevice script).settle past = .ok r)
    (key : String) {x : Deferred Json}
    (hx : Entries.get? (configurationDraft name o p placement rootDevice script).properties key =
      some x) : r.Carries key x :=
  (isWellKeyed_configurationDraft p rootDevice script).carries h key hx
    fun v _ => spelledAs_configuration v

theorem rootDeviceProperty_eq_ok {v : RootVolume} {root : Json}
    (h : rootDeviceProperty v = .ok root) :
    ∃ iops throughput, Number.toInt? v.iops = .ok iops ∧
      Number.toInt? v.throughput = .ok throughput ∧
      root = .map (v.entries .bool iops throughput) := by
  obtain ⟨iops, hiops, h⟩ := except_bind_eq_ok.1 h
  obtain ⟨throughput, hthroughput, h⟩ := except_bind_eq_ok.1 h
  cases h
  exact ⟨iops, throughput, hiops, hthroughput, rfl⟩

end StackGroup

namespace TemplateGroup

variable {o : TemplateOptions} {cluster : Deferred Cluster}

theorem isWellKeyed_templateDraft (p : Preparation) (device script : Deferred Json) :
    (templateDraft name o p placement device script).IsWellKeyed :=
  .of_keys "aws:ec2/launchTemplate:LaunchTemplate"
    ["imageId", "instanceType", "iamInstanceProfile", "keyName", "instanceMarketOptions",
      "blockDeviceMappings", "networkInterfaces", "userData", "tagSpecifications"]
    rfl rfl (by decide) (by decide) (by decide) rfl

theorem isWellKeyed_scalingDraft (p : Preparation) (cluster : Deferred Cluster) (t : Resource) :
    (scalingDraft name o p cluster placement t).IsWellKeyed :=
  .of_keys "aws:autoscaling/group:Group"
    ["name", "minSize", "maxSize", "desiredCapacity", "launchTemplate", "vpcZoneIdentifiers",
      "instanceRefresh", "tags"]
    rfl rfl (by decide) (by decide) (by decide) rfl

section Spelled

variable {n : String}

theorem spelledAs_template {key : String}
    (hkey : key ∈ ["imageId", "instanceType", "keyName", "userData"]) (v : Json) :
    Shape.spelledAs (ResourceRef.mk "aws:ec2/launchTemplate:LaunchTemplate" n).properties key v =
      v := by
  simp only [List.mem_cons, List.not_mem_nil, or_false] at hkey
  rcases hkey with rfl | rfl | rfl | rfl <;>
    exact Shape.spelledAs_of_get? (s := .single) rfl (Shape.spell_single v)

theorem spelledAs_profile (arn : Json) :
    Shape.spelledAs (ResourceRef.mk "aws:ec2/launchTemplate:LaunchTemplate" n).properties
      "iamInstanceProfile" (.map [("arn", arn)]) = .map [("arn", arn)] := by
  refine Shape.spelledAs_of_get? (s := .record (ResourceRef.singlesOf ["arn"])) rfl ?_
  refine Shape.spell_record (by decide : ∀ key ∈ ["arn"], _) ?_
  exact List.forall_mem_singleton.2 (Shape.spelledAs_of_get? rfl (Shape.spell_single arn))

theorem spelledAs_market (price : Json) :
    Shape.spelledAs (ResourceRef.mk "aws:ec2/launchTemplate:LaunchTemplate" n).properties
      "instanceMarketOptions"
      (.map [("marketType", .text "spot"), ("spotOptions", .map [("maxPrice", price)])]) =
      .map [("marketType", .text "spot"), ("spotOptions", .map [("maxPrice", price)])] := by
  refine Shape.spelledAs_of_get?
    (s := .record [("spotOptions", .record (ResourceRef.singlesOf ["maxPrice"]))]) rfl ?_
  have inner : Shape.spell (.map [("maxPrice", price)])
      (.record (ResourceRef.singlesOf ["maxPrice"])) = .map [("maxPrice", price)] := by
    refine Shape.spell_record (by decide : ∀ key ∈ ["maxPrice"], _) ?_
    exact List.forall_mem_singleton.2 (Shape.spelledAs_of_get? rfl (Shape.spell_single price))
  refine Shape.spell_record (by decide : ∀ key ∈ ["marketType", "spotOptions"], _) ?_
  refine List.forall_mem_cons.2 ⟨rfl, List.forall_mem_singleton.2 ?_⟩
  exact Shape.spelledAs_of_get? rfl inner

theorem spelledAs_mappings (device disk : Json) :
    Shape.spelledAs (ResourceRef.mk "aws:ec2/launchTemplate:LaunchTemplate" n).properties
      "blockDeviceMappings" (.list [.map [("deviceName", device), ("ebs", disk)]]) =
      .list [.map [("deviceName", device), ("ebs", disk)]] := by
  refine Shape.spelledAs_of_get?
    (s := .list (.record (ResourceRef.singlesOf ["deviceName"]))) rfl ?_
  refine Shape.spell_list (List.forall_mem_singleton.2 ?_)
  refine Shape.spell_record (by decide : ∀ key ∈ ["deviceName", "ebs"], _) ?_
  refine List.forall_mem_cons.2 ⟨?_, List.forall_mem_singleton.2 rfl⟩
  exact Shape.spelledAs_of_get? rfl (Shape.spell_single device)

theorem spelledAs_interfaces (flag groups : Json) :
    Shape.spelledAs (ResourceRef.mk "aws:ec2/launchTemplate:LaunchTemplate" n).properties
      "networkInterfaces"
      (.list [.map [("associatePublicIpAddress", flag), ("securityGroups", groups)]]) =
      .list [.map [("associatePublicIpAddress", flag), ("securityGroups", groups)]] := by
  refine Shape.spelledAs_of_get?
    (s := .list (.record [("securityGroups", Shape.singles)])) rfl ?_
  refine Shape.spell_list (List.forall_mem_singleton.2 ?_)
  refine Shape.spell_record
    (by decide : ∀ key ∈ ["associatePublicIpAddress", "securityGroups"], _) ?_
  refine List.forall_mem_cons.2 ⟨rfl, List.forall_mem_singleton.2 ?_⟩
  exact Shape.spelledAs_of_get? rfl (Shape.spell_singles groups)

theorem spelledAs_zones (ids : Json) :
    Shape.spelledAs (ResourceRef.mk "aws:autoscaling/group:Group" n).properties
      "vpcZoneIdentifiers" ids = ids :=
  Shape.spelledAs_of_get? (s := Shape.singles) rfl (Shape.spell_singles ids)

theorem spelledAs_tags (tags : Entries Json) :
    Shape.spelledAs (ResourceRef.mk "aws:autoscaling/group:Group" n).properties "tags"
      (.list ((Tags.propagated tags).map .map)) = .list ((Tags.propagated tags).map .map) := by
  refine Shape.spelledAs_of_get?
    (s := .list (.record (ResourceRef.singlesOf ["key", "value"]))) rfl ?_
  refine Shape.spell_list fun v hv => ?_
  obtain ⟨es, hes, rfl⟩ := List.mem_map.1 hv
  obtain ⟨e, _, rfl⟩ := List.mem_map.1 hes
  refine Shape.spell_record (by decide : ∀ key ∈ ["key", "value", "propagateAtLaunch"], _) ?_
  simp only [List.forall_mem_cons]
  refine ⟨Shape.spelledAs_of_get? rfl (Shape.spell_single _),
    Shape.spelledAs_of_get? rfl (Shape.spell_single _), rfl, List.forall_mem_nil _⟩

end Spelled

section Template

variable {device script : Deferred Json}
  (h : (templateDraft name o p placement device script).settle past = .ok r)

include h

theorem carries_template {key : String}
    (hkey : key ∈ ["imageId", "instanceType", "keyName", "userData"]) {x : Deferred Json}
    (hx : Entries.get? (templateDraft name o p placement device script).properties key = some x) :
    r.Carries key x :=
  (isWellKeyed_templateDraft p device script).carries h key hx
    fun v _ => spelledAs_template hkey v

theorem profile_of_settle :
    ∃ arn, p.profileArn.outcome = .ok arn ∧
      (r.input "iamInstanceProfile").member "arn" = arn.wire := by
  obtain ⟨v, hv, sent⟩ := (isWellKeyed_templateDraft p device script).exists_input h
    "iamInstanceProfile" rfl
  obtain ⟨arn, harn, hv⟩ := outcome_bind_eq_ok.1 hv
  cases hv
  have arrives := sent.trans (congrArg Json.wire (spelledAs_profile arn))
  refine ⟨arn, harn, ?_⟩
  rw [Registration.input, arrives]
  refine Json.member_wire ?_ (by decide)
  exact (by decide : ["arn"].Nodup)

/-- A price is found where it was put, and without one nothing is said of the market. -/
theorem market_of_settle :
    (o.machine.spotPrice.isTruthy = true → ∃ price, o.machine.spotPrice.value.outcome = .ok price ∧
      ((r.input "instanceMarketOptions").member "spotOptions").member "maxPrice" = price.wire) ∧
    (o.machine.spotPrice.isTruthy = false → r.input "instanceMarketOptions" = .null) := by
  obtain ⟨v, hv, sent⟩ := (isWellKeyed_templateDraft p device script).exists_input h
    "instanceMarketOptions" rfl
  unfold marketOptions at hv
  constructor
  · intro bidding
    rw [if_pos bidding] at hv
    obtain ⟨price, hprice, hv⟩ := outcome_bind_eq_ok.1 hv
    cases hv
    have arrives := sent.trans (congrArg Json.wire (spelledAs_market price))
    refine ⟨price, hprice, ?_⟩
    rw [Registration.input, arrives, Json.member_wire ?_ (by decide)]
    · refine Json.member_wire ?_ (by decide)
      exact (by decide : ["maxPrice"].Nodup)
    · exact (by decide : ["marketType", "spotOptions"].Nodup)
  · intro unpriced
    rw [if_neg (by simp [unpriced])] at hv
    cases hv
    rw [Registration.input, sent, Shape.spelledAs_null, Json.wire_null]

theorem interfaces_of_settle :
    ∃ groups face, p.groupIds.outcome = .ok groups ∧ r.input "networkInterfaces" = .list [face] ∧
      face.member "securityGroups" = groups.wire ∧
      face.member "associatePublicIpAddress" = flagText o.placement.publicAddress := by
  obtain ⟨v, hv, sent⟩ := (isWellKeyed_templateDraft p device script).exists_input h
    "networkInterfaces" rfl
  obtain ⟨groups, hgroups, hv⟩ := outcome_bind_eq_ok.1 hv
  cases hv
  have arrives := sent.trans (congrArg Json.wire (spelledAs_interfaces _ groups))
  have distinct : (Entries.keys [("associatePublicIpAddress", flagText o.placement.publicAddress),
      ("securityGroups", groups)]).Nodup :=
    (by decide : ["associatePublicIpAddress", "securityGroups"].Nodup)
  refine ⟨groups, _, hgroups, arrives, ?_, ?_⟩
  · exact Json.member_wire distinct (by decide)
  · exact (Json.member_wire distinct (by decide)).trans (Json.wire_text _)

end Template

theorem blockDevice_eq_ok {v : RootVolume} {root device : Deferred Json}
    (h : blockDevice v root = .ok device) {value : Json} (hvalue : device.outcome = .ok value) :
    ∃ label iops throughput, root.outcome = .ok label ∧ Number.toInt? v.iops = .ok iops ∧
      Number.toInt? v.throughput = .ok throughput ∧
      value = .map [("deviceName", label),
        ("ebs", .map (v.entries flagText iops throughput))] := by
  obtain ⟨iops, hiops, h⟩ := except_bind_eq_ok.1 h
  obtain ⟨throughput, hthroughput, h⟩ := except_bind_eq_ok.1 h
  cases h
  obtain ⟨label, hlabel, hvalue⟩ := outcome_bind_eq_ok.1 hvalue
  cases hvalue
  exact ⟨label, iops, throughput, hlabel, hiops, hthroughput, rfl⟩

/-- The disk of a machine is the only mapping of its devices. -/
theorem mappings_of_settle {v : RootVolume} {root device script : Deferred Json}
    (hdevice : blockDevice v root = .ok device)
    (h : (templateDraft name o p placement device script).settle past = .ok r) :
    ∃ mapping iops throughput, Number.toInt? v.iops = .ok iops ∧
      Number.toInt? v.throughput = .ok throughput ∧
      r.input "blockDeviceMappings" = .list [mapping] ∧
      mapping.member "ebs" = Json.wire (.map (v.entries flagText iops throughput)) := by
  obtain ⟨w, hw, sent⟩ := (isWellKeyed_templateDraft p device script).exists_input h
    "blockDeviceMappings" rfl
  obtain ⟨value, hvalue, hw⟩ := outcome_bind_eq_ok.1 hw
  cases hw
  obtain ⟨label, iops, throughput, _, hiops, hthroughput, rfl⟩ :=
    blockDevice_eq_ok hdevice hvalue
  have arrives := sent.trans (congrArg Json.wire (spelledAs_mappings label _))
  refine ⟨_, iops, throughput, hiops, hthroughput, arrives, Json.member_wire ?_ (by decide)⟩
  exact (by decide : ["deviceName", "ebs"].Nodup)

section Scaling

variable {template : Resource}
  (h : (scalingDraft name o p cluster placement template).settle past = .ok r)

include h

theorem size_of_settle {key : String} {n : Int}
    (hx : Entries.get? (scalingDraft name o p cluster placement template).properties key =
      some (Pure.pure (Value.int n))) : r.input key = Json.wire (.int n) := by
  obtain ⟨v, hv, sent⟩ := (isWellKeyed_scalingDraft p cluster template).exists_input h key hx
  cases hv
  exact sent.trans (congrArg Json.wire (Shape.spelledAs_int _ _ _))

theorem zones_of_settle : r.Carries "vpcZoneIdentifiers" p.subnets :=
  (isWellKeyed_scalingDraft p cluster template).carries h "vpcZoneIdentifiers"
    rfl fun v _ => spelledAs_zones v

theorem tags_of_settle :
    ∃ tags, (Preparation.workerTags o.toWorkerOptions cluster).outcome = .ok tags ∧
      r.input "tags" = Json.wire (.list ((Tags.propagated tags).map .map)) := by
  obtain ⟨v, hv, sent⟩ := (isWellKeyed_scalingDraft p cluster template).exists_input h "tags"
    rfl
  obtain ⟨tags, htags, hv⟩ := outcome_bind_eq_ok.1 hv
  cases hv
  exact ⟨tags, htags, sent.trans (congrArg Json.wire (spelledAs_tags tags))⟩

end Scaling

/-- A script that is known is the user's own, or is rendered from parts that are known. -/
theorem outcome_userData {v : Json} (h : (userData name p o cluster).outcome = .ok v) :
    ∃ script, v = .text (Text.Base64.encodeText script) ∧
      (o.startup.override.isTruthy = true →
        o.startup.override.value.outcome = .ok (.text script)) ∧
      (o.startup.override.isTruthy = false →
        (p.script o.toWorkerOptions cluster name none).outcome = .ok script) := by
  obtain ⟨script, hscript, h⟩ := outcome_bind_eq_ok.1 h
  cases script with
  | text script =>
      cases h
      refine ⟨script, rfl, fun own => ?_, fun boot => ?_⟩
      · rwa [if_pos own] at hscript
      · rw [if_neg (by simp [boot])] at hscript
        obtain ⟨t, ht, hscript⟩ := outcome_bind_eq_ok.1 hscript
        cases hscript
        exact ht
  | null | bool _ | number _ | list _ | map _ => cases h
  | leaf a => cases a

/-- The drafts of a group that is launched from a template, from the values that they are made of. -/
theorem drafts_eq_ok {s : Site} {d : FleetDrafts}
    (h : ((Fleet.template o).drafts name cluster placement s).answer = .ok d) :
    ∃ p root device,
      (Preparation.make name o.toWorkerOptions cluster placement s).answer = .ok p ∧
      blockDevice o.volume root = .ok device ∧
      d = ⟨p.pair, templateDraft name o p placement device (userData name p o cluster),
        scalingDraft name o p cluster placement⟩ := by
  obtain ⟨p, hp, h⟩ := answer_bind_eq_ok.1 h
  obtain ⟨root, _, h⟩ := answer_bind_eq_ok.1 h
  obtain ⟨device, hdevice, h⟩ := answer_bind_eq_ok.1 h
  cases h
  refine ⟨p, root, device, hp, ?_, rfl⟩
  cases hb : blockDevice o.volume root with
  | ok v =>
      rw [hb] at hdevice
      exact hdevice
  | error e =>
      rw [hb] at hdevice
      cases hdevice

end TemplateGroup

end FleetPlan
