import FleetPlan.Proofs.FramedGroups
import FleetPlan.Proofs.OptionTypes
import FleetPlan.Proofs.ReadEntries

/-!
Options that are read from data.

Data holds no resources and nothing deferred, so a reader of a resource or of a ready-made block finds
none, and whatever else is read from data is known and comes from nothing. Options that a configuration
spells out therefore come from no group.
-/
namespace FleetPlan

open Reader Checked Deferred

theorem Deferred.direct_entries {α : Type} {es : Entries (Deferred α)} (h : ∀ e ∈ es, e.2.Direct) :
    (entries es).Direct := by
  induction es with
  | nil => exact direct_pure _
  | cons e es ih =>
      refine (h e (.head _)).bind fun a _ => ?_
      exact (ih fun e' he' => h e' (.tail _ he')).map fun as => (e.1, a) :: as

theorem Checked.within_eq_ok {α : Type} {step : PathStep} {x : Checked α} {a : α}
    (h : x.within step = .ok a) : x = .ok a := by
  cases x with
  | ok b => exact h
  | error fs => cases h

theorem Json.get?_embedEntries (es : Entries Json) (key : String) :
    Entries.get? (embedEntries es : Entries Setting) key = (Entries.get? es key).map embed := by
  induction es with
  | nil => rfl
  | cons e es ih =>
      obtain ⟨k, v⟩ := e
      rw [embedEntries, Entries.get?, Entries.get?]
      split
      · rfl
      · exact ih

namespace Reader

variable {α β : Type} {r : Reader α} {P : α → Prop}

/-- What a reader makes of data has a property. -/
def Gives (r : Reader α) (P : α → Prop) : Prop := ∀ (v : Json) a, r v.embed = .ok a → P a

theorem Gives.field (h : r.Gives P) {es : Entries Json} {key : String} {default a : α}
    (hdefault : P default) (ha : Reader.field (Json.embedEntries es) key default r = .ok a) :
    P a := by
  rw [Reader.field, Json.get?_embedEntries] at ha
  cases hv : Entries.get? es key with
  | none =>
      rw [hv] at ha
      cases ha
      exact hdefault
  | some v =>
      rw [hv] at ha
      exact h v a (within_eq_ok ha)

theorem gives_optional (h : r.Gives P) : (optional r).Gives fun o => ∀ a, o = some a → P a := by
  rintro v o ho a rfl
  cases v with
  | null => cases ho
  | leaf x => cases x
  | bool _ | number _ | text _ | list _ | map _ =>
      obtain ⟨b, hb, same⟩ := map_eq_ok ho
      cases same
      exact h _ a hb

theorem gives_absentOr {r : Reader (Input (Option α))} {P : Input (Option α) → Prop}
    (h : r.Gives P) (habsent : P Input.absent) : (absentOr r).Gives P := by
  intro v a ha
  cases v with
  | null =>
      cases ha
      exact habsent
  | leaf x => cases x
  | bool _ | number _ | text _ | list _ | map _ => exact h _ a ha

theorem gives_inputOf (h : r.Gives P) : (inputOf r).Gives fun x => ∃ a, x = .now a ∧ P a := by
  intro v x hx
  have read : ∃ a, r v.embed = .ok a ∧ x = .now a := by
    cases v with
    | leaf x => cases x
    | null | bool _ | number _ | text _ | list _ | map _ =>
        simp only [inputOf, Json.embed] at hx ⊢
        split at hx
        · exact ⟨_, ‹_›, (Except.ok.inj hx).symm⟩
        · cases hx
  obtain ⟨a, ha, rfl⟩ := read
  exact ⟨a, rfl, h v a ha⟩

theorem forall_of_elements (h : r.Gives P) {i : Nat} {vs : List Json} {as : List α}
    (has : elements r i (Json.embedList vs) = .ok as) : ∀ a ∈ as, P a := by
  induction vs generalizing i as with
  | nil =>
      cases has
      exact List.forall_mem_nil _
  | cons v vs ih =>
      obtain ⟨_, rest, hfirst, hrest, rfl⟩ := apply_eq_ok.1 has
      obtain ⟨a, ha, rfl⟩ := map_eq_ok hfirst
      exact List.forall_mem_cons.2 ⟨h v a (within_eq_ok ha), ih hrest⟩

theorem forall_of_members (h : r.Gives P) {vs : Entries Json} {es : Entries α}
    (hes : members r (Json.embedEntries vs) = .ok es) : ∀ e ∈ es, P e.2 := by
  induction vs generalizing es with
  | nil =>
      cases hes
      exact List.forall_mem_nil _
  | cons v vs ih =>
      obtain ⟨_, rest, hfirst, hrest, rfl⟩ := apply_eq_ok.1 hes
      obtain ⟨a, ha, rfl⟩ := map_eq_ok hfirst
      exact List.forall_mem_cons.2 ⟨h v.2 a (within_eq_ok ha), ih hrest⟩

theorem gives_list (h : r.Gives P) : (list r).Gives fun as => ∀ a ∈ as, P a := by
  intro v as has
  cases v with
  | list vs => exact forall_of_elements h has
  | leaf x => cases x
  | null | bool _ | number _ | text _ | map _ => cases has

theorem gives_map (h : r.Gives P) : (map r).Gives fun es => ∀ e ∈ es, P e.2 := by
  intro v es hes
  cases v with
  | map vs => exact forall_of_members h hes
  | leaf x => cases x
  | null | bool _ | number _ | text _ | list _ => cases hes

/-- Data is no resource. -/
theorem gives_resource (type : String) : (resource type).Gives fun _ => False := by
  intro v a ha
  cases v with
  | leaf x => cases x
  | null | bool _ | number _ | text _ | list _ | map _ => cases ha

/-- Data is no ready-made block. -/
theorem gives_block (kind : BlockKind) : (block kind).Gives fun _ => False := by
  intro v a ha
  cases v with
  | leaf x => cases x
  | null | bool _ | number _ | text _ | list _ | map _ => cases ha

theorem gives_textInput : textInput.Gives fun x => x.value.Direct := by
  intro v x hx
  cases v with
  | text s =>
      cases hx
      exact direct_pure _
  | leaf x => cases x
  | null | bool _ | number _ | list _ | map _ => cases hx

theorem gives_textElement : textElement.Gives fun x => (Input.element x).Direct := by
  intro v x hx
  cases v with
  | text s =>
      cases hx
      exact direct_pure _
  | leaf x => cases x
  | null | bool _ | number _ | list _ | map _ => cases hx

theorem Gives.map (h : r.Gives P) {f : α → β} {Q : β → Prop} (hf : ∀ a, P a → Q (f a)) :
    Gives (fun v => (r v).map f) Q := by
  intro v b hb
  obtain ⟨a, ha, rfl⟩ := map_eq_ok hb
  exact hf a (h v a ha)

theorem gives_listInput : listInput.Gives fun x => x.value.Direct := by
  have some_ := (gives_list gives_textElement).map (f := some)
    (Q := fun o => ListInput.value (.now o) |>.Direct) fun xs h =>
      (direct_all (List.forall_mem_map.2 h)).map _
  intro v x hx
  obtain ⟨o, rfl, h⟩ := gives_inputOf some_ v x hx
  exact h

theorem gives_tagsInput : tagsInput.Gives fun x => x.value.Direct := by
  have some_ := (gives_map gives_textElement).map (f := some)
    (Q := fun o => TagsInput.value (.now o) |>.Direct) fun es h =>
      (direct_entries (List.forall_mem_map.2 h)).map _
  intro v x hx
  obtain ⟨o, rfl, h⟩ := gives_inputOf some_ v x hx
  exact h

theorem gives_integerInput :
    integerInput.Gives fun x => (x.resolve fun n => Pure.pure (.int n)).Direct := by
  have any : integer.Gives fun _ => True := fun _ _ _ => trivial
  intro v x hx
  obtain ⟨n, rfl, _⟩ := gives_inputOf any v x hx
  exact direct_pure _

theorem gives_profile : Profile.read.Gives fun p => p.arn.value.Direct := by
  intro v p hp
  cases v with
  | null =>
      cases hp
      exact direct_pure _
  | text s =>
      cases hp
      exact direct_pure _
  | leaf x => cases x
  | bool _ | number _ | list _ | map _ => cases hp

end Reader

section Fields

variable {es : Entries Json} {key : String}

theorem direct_optionalInput {x : TextInput}
    (h : WorkerOptions.optionalInput (Json.embedEntries es) key = .ok x) : x.value.Direct :=
  (gives_absentOr gives_textInput (direct_pure _)).field (direct_pure _) h

theorem direct_optionalTags {x : TagsInput}
    (h : WorkerOptions.optionalTags (Json.embedEntries es) key = .ok x) : x.value.Direct :=
  (gives_absentOr gives_tagsInput (direct_pure _)).field (direct_pure _) h

theorem direct_subnets {x : ListInput}
    (h : field (Json.embedEntries es) key Input.absent (absentOr listInput) = .ok x) :
    ∀ ids, x.value? = some ids → ids.Direct := by
  intro ids hids
  have known : x.value.Direct :=
    (gives_absentOr gives_listInput (direct_pure _)).field (direct_pure _) h
  unfold ListInput.value? at hids
  split at hids
  · cases hids
    exact known
  · cases hids

/-- What data cannot be read as is left out. -/
theorem absent_of_unread {α : Type} {r : Reader α} (hr : r.Gives fun _ => False) {x : Option α}
    (h : field (Json.embedEntries es) key none (optional r) = .ok x) : x = none := by
  have unread := (gives_optional hr).field (fun _ h => by cases h) h
  cases x with
  | none => rfl
  | some a => exact (unread a rfl).elim

end Fields

/-! Options of each kind. -/

namespace WorkerOptions

variable {es : Entries Json}

theorem direct_of_readMachine {m : Machine} (h : readMachine (Json.embedEntries es) = .ok m) :
    m.type.value.Direct ∧ m.spotPrice.value.Direct ∧ m.image.value.Direct ∧ m.version.value.Direct := by
  obtain ⟨_, version, beforeVersion, hversion, rfl⟩ := apply_eq_ok.1 h
  obtain ⟨_, gpu, beforeGpu, _, rfl⟩ := apply_eq_ok.1 beforeVersion
  obtain ⟨_, family, beforeFamily, _, rfl⟩ := apply_eq_ok.1 beforeGpu
  obtain ⟨_, image, beforeImage, himage, rfl⟩ := apply_eq_ok.1 beforeFamily
  obtain ⟨_, spotPrice, beforeSpotPrice, hprice, rfl⟩ := apply_eq_ok.1 beforeImage
  obtain ⟨type, htype, rfl⟩ := map_eq_ok beforeSpotPrice
  exact ⟨gives_textInput.field (direct_pure _) htype, direct_optionalInput hprice,
    direct_optionalInput himage, direct_optionalInput hversion⟩

/-- Data names no security groups. -/
theorem unwalled_of_readFirewall {f : Firewall} (h : readFirewall (Json.embedEntries es) = .ok f) :
    f = ⟨none, none, []⟩ := by
  obtain ⟨_, extra, beforeExtra, hextra, rfl⟩ := apply_eq_ok.1 h
  obtain ⟨_, rule, beforeRule, hrule, rfl⟩ := apply_eq_ok.1 beforeExtra
  obtain ⟨group, hgroup, rfl⟩ := map_eq_ok beforeRule
  have none_ := (gives_list (gives_resource ResourceRef.securityGroupType)).field
    (List.forall_mem_nil _) hextra
  rw [absent_of_unread (gives_resource _) hgroup, absent_of_unread (gives_resource _) hrule,
    List.eq_nil_iff_forall_not_mem.2 none_]

theorem direct_of_readAccess {a : Access} (h : readAccess (Json.embedEntries es) = .ok a) :
    a.publicKey.value.Direct ∧ a.keyName.value.Direct := by
  obtain ⟨_, keyName, beforeKeyName, hname, rfl⟩ := apply_eq_ok.1 h
  obtain ⟨publicKey, hkey, rfl⟩ := map_eq_ok beforeKeyName
  exact ⟨direct_optionalInput hkey, direct_optionalInput hname⟩

theorem direct_of_readStartup {s : Startup} (h : readStartup (Json.embedEntries es) = .ok s) :
    s.userScript.value.Direct ∧ s.override.value.Direct := by
  obtain ⟨_, args, beforeArgs, _, rfl⟩ := apply_eq_ok.1 h
  obtain ⟨_, agent, beforeAgent, _, rfl⟩ := apply_eq_ok.1 beforeArgs
  obtain ⟨_, override, beforeOverride, hoverride, rfl⟩ := apply_eq_ok.1 beforeAgent
  obtain ⟨script, hscript, rfl⟩ := map_eq_ok beforeOverride
  exact ⟨direct_optionalInput hscript, direct_optionalInput hoverride⟩

theorem direct_of_readFields {o : WorkerOptions}
    (h : readFields (Json.embedEntries es) = .ok o) : o.Direct := by
  obtain ⟨_, stackTags, beforeStackTags, hstackTags, rfl⟩ := apply_eq_ok.1 h
  obtain ⟨_, groupTags, beforeGroupTags, hgroupTags, rfl⟩ := apply_eq_ok.1 beforeStackTags
  obtain ⟨_, profile, beforeProfile, hprofile, rfl⟩ := apply_eq_ok.1 beforeGroupTags
  obtain ⟨_, bounds, beforeBounds, _, rfl⟩ := apply_eq_ok.1 beforeProfile
  obtain ⟨_, startup, beforeStartup, hstartup, rfl⟩ := apply_eq_ok.1 beforeBounds
  obtain ⟨_, volume, beforeVolume, _, rfl⟩ := apply_eq_ok.1 beforeStartup
  obtain ⟨_, access, beforeAccess, haccess, rfl⟩ := apply_eq_ok.1 beforeVolume
  obtain ⟨_, firewall, beforeFirewall, hfirewall, rfl⟩ := apply_eq_ok.1 beforeAccess
  obtain ⟨_, machine, beforeMachine, hmachine, rfl⟩ := apply_eq_ok.1 beforeFirewall
  obtain ⟨placement, hplacement, rfl⟩ := map_eq_ok beforeMachine
  obtain ⟨_, address, beforeAddress, _, rfl⟩ := apply_eq_ok.1 hplacement
  obtain ⟨subnets, hsubnets, rfl⟩ := map_eq_ok beforeAddress
  obtain ⟨type, spotPrice, image, version⟩ := direct_of_readMachine hmachine
  obtain ⟨publicKey, keyName⟩ := direct_of_readAccess haccess
  obtain ⟨userScript, override⟩ := direct_of_readStartup hstartup
  obtain rfl := unwalled_of_readFirewall hfirewall
  exact {
    subnets := direct_subnets hsubnets
    type := type
    spotPrice := spotPrice
    image := image
    version := version
    group := fun _ h => nomatch h
    rule := fun _ h => nomatch h
    extraGroups := List.forall_mem_nil _
    publicKey := publicKey
    keyName := keyName
    userScript := userScript
    override := override
    profile := gives_profile.field (direct_pure _) hprofile
    groupTags := direct_optionalTags hgroupTags
    stackTags := direct_optionalTags hstackTags }

end WorkerOptions

theorem TemplateOptions.direct_of_readFields {es : Entries Json} {o : TemplateOptions}
    (h : readFields (Json.embedEntries es) = .ok o) : o.Direct := by
  obtain ⟨_, specifications, beforeSpecifications, hspecifications, rfl⟩ := apply_eq_ok.1 h
  obtain ⟨_, share, beforeShare, hshare, rfl⟩ := apply_eq_ok.1 beforeSpecifications
  obtain ⟨worker, hworker, rfl⟩ := map_eq_ok beforeShare
  refine { WorkerOptions.direct_of_readFields hworker with
    healthyShare := gives_integerInput.field (direct_pure _) hshare
    tagSpecifications := ?_ }
  have blocks := (gives_optional (gives_list (gives_block .templateTags))).field
    (fun _ h => by cases h) hspecifications
  cases specifications with
  | none => exact direct_pure _
  | some bs =>
      have empty := List.eq_nil_iff_forall_not_mem.2 (blocks bs rfl)
      rw [empty]
      exact (direct_all (List.forall_mem_nil _)).map _

theorem ManagedOptions.direct_of_readFields {es : Entries Json} {o : ManagedOptions}
    (h : readFields (Json.embedEntries es) = .ok o) : o.Direct := by
  obtain ⟨_, tags, beforeTags, _, rfl⟩ := apply_eq_ok.1 h
  obtain ⟨_, updatePolicy, beforeUpdatePolicy, hupdate, rfl⟩ := apply_eq_ok.1 beforeTags
  obtain ⟨_, remoteAccess, beforeRemoteAccess, hremote, rfl⟩ := apply_eq_ok.1 beforeUpdatePolicy
  obtain ⟨_, launchTemplate, beforeLaunchTemplate, hlaunch, rfl⟩ := apply_eq_ok.1 beforeRemoteAccess
  obtain ⟨_, taints, beforeTaints, _, rfl⟩ := apply_eq_ok.1 beforeLaunchTemplate
  obtain ⟨_, labels, beforeLabels, _, rfl⟩ := apply_eq_ok.1 beforeTaints
  obtain ⟨_, forceUpdate, beforeForceUpdate, _, rfl⟩ := apply_eq_ok.1 beforeLabels
  obtain ⟨_, version, beforeVersion, hversion, rfl⟩ := apply_eq_ok.1 beforeForceUpdate
  obtain ⟨_, releaseVersion, beforeReleaseVersion, hrelease, rfl⟩ := apply_eq_ok.1 beforeVersion
  obtain ⟨_, diskSize, beforeDiskSize, _, rfl⟩ := apply_eq_ok.1 beforeReleaseVersion
  obtain ⟨_, image, beforeImage, _, rfl⟩ := apply_eq_ok.1 beforeDiskSize
  obtain ⟨_, purchase, beforePurchase, _, rfl⟩ := apply_eq_ok.1 beforeImage
  obtain ⟨_, instanceTypes, beforeInstanceTypes, _, rfl⟩ := apply_eq_ok.1 beforePurchase
  obtain ⟨_, scaling, beforeScaling, _, rfl⟩ := apply_eq_ok.1 beforeInstanceTypes
  obtain ⟨_, subnets, beforeSubnets, hsubnets, rfl⟩ := apply_eq_ok.1 beforeScaling
  obtain ⟨_, roleArn, beforeRoleArn, hroleArn, rfl⟩ := apply_eq_ok.1 beforeSubnets
  obtain ⟨_, role, beforeRole, hrole, rfl⟩ := apply_eq_ok.1 beforeRoleArn
  obtain ⟨_, clusterName, beforeClusterName, hcluster, rfl⟩ := apply_eq_ok.1 beforeRole
  obtain ⟨groupName, hgroup, rfl⟩ := map_eq_ok beforeClusterName
  obtain rfl := absent_of_unread (gives_resource _) hrole
  obtain rfl := absent_of_unread (gives_block _) hlaunch
  obtain rfl := absent_of_unread (gives_block _) hremote
  obtain rfl := absent_of_unread (gives_block _) hupdate
  exact {
    groupName := direct_optionalInput hgroup
    clusterName := direct_optionalInput hcluster
    role := fun _ h => nomatch h
    roleArn := direct_optionalInput hroleArn
    subnets := direct_subnets hsubnets
    releaseVersion := direct_optionalInput hrelease
    version := direct_optionalInput hversion
    launchTemplate := direct_pure _
    remoteAccess := direct_pure _
    updatePolicy := direct_pure _ }

/-- Options of any kind that are read from data come from no group. -/
theorem GroupOptions.direct_of_ofFields {es : Entries Json} {kind : GroupKind} {o : GroupOptions}
    (h : ofFields (Json.embedEntries es) kind = .ok o) : o.Direct := by
  cases kind with
  | stack =>
      obtain ⟨o, ho, rfl⟩ := map_eq_ok h
      exact WorkerOptions.direct_of_readFields (withFaults_eq_ok ho)
  | template =>
      obtain ⟨o, ho, rfl⟩ := map_eq_ok h
      exact TemplateOptions.direct_of_readFields (withFaults_eq_ok ho)
  | managed =>
      obtain ⟨o, ho, rfl⟩ := map_eq_ok h
      exact ManagedOptions.direct_of_readFields (withFaults_eq_ok ho)

/-- The options of a group that a configuration lists come from no group. -/
theorem GroupSpec.direct_of_ofEntry {i : Int} {v : Json} {spec : GroupSpec}
    (h : ofEntry i v = .ok spec) : spec.options.Direct := by
  obtain ⟨_, _, _, _, _, _, read⟩ := readEntry_eq_ok_iff.1 h
  exact GroupOptions.direct_of_ofFields read

end FleetPlan
