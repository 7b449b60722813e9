import FleetPlan.Plan.Report
import FleetPlan.Proofs.FleetInputs
import FleetPlan.Proofs.StackRuns
import FleetPlan.Proofs.TriedResources

/-!
Names that a stack gives out never collide.

What is made for a group is named by the group's name and an ending. No ending of a type is an ending
of another one of that type, so a name tells the group and the ending apart, whatever the groups are
called; exports are named in the same way. The name of a group's own stack ends in as many digits for
every group, so the digits need not differ for the names to.
-/
namespace FleetPlan

open Plan

/-! Names with an ending. -/

/-- No ending is an ending of another one. -/
def SuffixFree (endings : List String) : Prop :=
  ∀ a ∈ endings, ∀ b ∈ endings, a.toList <:+ b.toList → a = b

instance (endings : List String) : Decidable (SuffixFree endings) :=
  inferInstanceAs (Decidable (∀ a ∈ endings, ∀ b ∈ endings, a.toList <:+ b.toList → a = b))

/-- A name tells what stands before its ending, and the ending. -/
theorem SuffixFree.append_inj {endings : List String} (h : SuffixFree endings) {m n a b : String}
    (ha : a ∈ endings) (hb : b ∈ endings) (same : m ++ a = n ++ b) : m = n ∧ a = b := by
  have lists : m.toList ++ a.toList = n.toList ++ b.toList := by
    rw [← String.toList_append, ← String.toList_append, same]
  have longer : a.toList <:+ n.toList ++ b.toList := ⟨m.toList, lists⟩
  obtain rfl : a = b := by
    rcases List.suffix_or_suffix_of_suffix longer (List.suffix_append _ _) with hab | hba
    · exact h a ha b hb hab
    · exact (h b hb a ha hba).symm
  exact ⟨String.toList_inj.1 (List.append_cancel_right lists), rfl⟩

/-- All that may be made for a group of some kind, whatever its options are. -/
def GroupKind.parts : GroupKind → List GroupPart
  | stack => ⟨StackGroup.componentType, ""⟩ :: (GroupPair.parts ++ [Access.keyPair]) ++ [
      ⟨"aws:ec2/launchConfiguration:LaunchConfiguration", "-nodeLaunchConfiguration"⟩,
      ⟨"aws:cloudformation/stack:Stack", "-nodes"⟩]
  | template => ⟨TemplateGroup.componentType, ""⟩ :: (GroupPair.parts ++ [Access.keyPair]) ++ [
      ⟨"aws:ec2/launchTemplate:LaunchTemplate", "-launchTemplate"⟩,
      ⟨"aws:autoscaling/group:Group", ""⟩]
  | managed => [⟨ManagedGroup.componentType, ""⟩, ⟨"aws:eks/nodeGroup:NodeGroup", ""⟩]

namespace GroupPart

/-- All that may be made for groups. -/
def all : List GroupPart := GroupKind.all.flatMap GroupKind.parts

/-- The endings that the names of one type may have. -/
def endingsOf (type : String) : List String := (all.filter (·.type = type)).map ending

theorem suffixFree_endingsOf : ∀ p ∈ all, SuffixFree (endingsOf p.type) := by decide

/-- The name of a resource tells the group that it is made for, and what it is there. -/
theorem ref_inj {m n : String} {p q : GroupPart} (hp : p ∈ all) (hq : q ∈ all)
    (h : ref m p = ref n q) : m = n ∧ p = q := by
  obtain ⟨type, ending⟩ := p
  obtain ⟨type', ending'⟩ := q
  obtain ⟨rfl, same⟩ := ResourceRef.mk.inj h
  have own : ending ∈ endingsOf type :=
    List.mem_map.2 ⟨_, List.mem_filter.2 ⟨hp, decide_eq_true rfl⟩, rfl⟩
  have other : ending' ∈ endingsOf type :=
    List.mem_map.2 ⟨_, List.mem_filter.2 ⟨hq, decide_eq_true rfl⟩, rfl⟩
  obtain ⟨rfl, rfl⟩ := (suffixFree_endingsOf _ hp).append_inj own other same
  exact ⟨rfl, rfl⟩

end GroupPart

namespace GroupOptions

theorem parts_sublist (o : GroupOptions) : (o.self :: o.parts).Sublist o.kind.parts := by
  have pair (f : Firewall) : f.parts.Sublist GroupPair.parts := by
    unfold Firewall.parts
    split
    · exact List.Sublist.refl _
    · exact List.nil_sublist _
  have key (a : Access) : a.parts.Sublist [Access.keyPair] := by
    unfold Access.parts
    split
    · exact List.Sublist.refl _
    · exact List.nil_sublist _
  cases o with
  | stack o => exact (((pair o.firewall).append (key o.access)).append (.refl _)).cons_cons _
  | template o => exact (((pair o.firewall).append (key o.access)).append (.refl _)).cons_cons _
  | managed o => exact List.Sublist.refl _

theorem parts_subset (o : GroupOptions) : o.self :: o.parts ⊆ GroupPart.all := by
  have every (k : GroupKind) : k.parts ⊆ GroupPart.all := by cases k <;> decide
  exact List.Subset.trans (parts_sublist o).subset (every o.kind)

theorem nodup_refs (name : String) (o : GroupOptions) : (o.refs name).Nodup := by
  have every (k : GroupKind) : k.parts.Nodup := by cases k <;> decide
  refine ((parts_sublist o).nodup (every o.kind)).map_on fun p hp q hq h => ?_
  exact (GroupPart.ref_inj (parts_subset o hp) (parts_subset o hq) h).2

end GroupOptions

/-! What a stack tries and exports. -/

namespace GroupSpec

/-- What is given to a group by its name; a name that is no text is given nothing. -/
def named {β : Type} (spec : GroupSpec) (f : String → List β) : List β :=
  match spec.name with
  | .text name => f name
  | _ => []

/-- The resources that are tried for a group, in order. -/
def refs (spec : GroupSpec) : List ResourceRef := spec.named spec.options.refs

/-- How the keys end under which the parts of a group are exported. -/
def exportEndings (spec : GroupSpec) : List String :=
  match spec.options with
  | .managed _ => ["_node_group_name"]
  | .stack _ | .template _ => ["_security_group_id", "_auto_scaling_group_name"]

def exportKeys (spec : GroupSpec) : List String :=
  spec.named fun name => spec.exportEndings.map (name ++ ·)

variable {cluster : ClusterInput} {provider : Resource} {spec : GroupSpec} {specs : List GroupSpec}
  {s : Site}

theorem tries_plan : Tries spec.refs (spec.plan cluster provider) := by
  obtain ⟨name, options⟩ := spec
  have unnamed : Tries [] (do
      Plan.ofExcept (GroupSpec.check ⟨name, options⟩)
      (Plan.fail .notAName : Plan (Entries (Deferred Json)))) :=
    (tries_ofExcept _).bind fun _ => tries_fail _
  cases name with
  | text name =>
      simp only [refs, named, GroupOptions.refs, List.map_cons]
      cases options with
      | stack o =>
          rw [GroupOptions.self, GroupPart.ref_bare]
          refine (tries_componentPlan fun r => ?_).andThen fun _ => tries_pure _
          exact tries_createStack name cluster _ o
      | template o =>
          rw [GroupOptions.self, GroupPart.ref_bare]
          refine (tries_componentPlan fun r => ?_).andThen fun _ => tries_pure _
          exact tries_createTemplate name cluster _ o
      | managed o =>
          rw [GroupOptions.self, GroupPart.ref_bare]
          refine (tries_componentPlan fun r => ?_).andThen fun _ => tries_pure _
          exact tries_createManaged name cluster _ o
  | null | bool _ | number _ | list _ | map _ => exact unnamed
  | leaf a => cases a

theorem tried_planAll :
    History.tried (planAll cluster provider specs s).trace <+: specs.flatMap refs := by
  induction specs generalizing s with
  | nil => exact List.prefix_rfl
  | cons spec specs ih =>
      have tries : Tries spec.refs (spec.plan cluster provider) := tries_plan
      obtain ⟨first, whole⟩ := tries s
      rw [List.flatMap_cons]
      cases h : (spec.plan cluster provider s).answer with
      | ok exports =>
          rw [planAll_cons_of_ok h]
          simp only [joined, History.tried_append, whole exports h]
          exact (List.prefix_append_right_inj _).2 ih
      | error e =>
          rw [planAll_cons_of_error h]
          exact first.trans (List.prefix_append _ _)

theorem keys_of_plan {exports : Entries (Deferred Json)}
    (h : (spec.plan cluster provider s).answer = .ok exports) :
    Entries.keys exports = spec.exportKeys := by
  obtain ⟨name, options⟩ := spec
  cases name with
  | text name =>
      cases options <;>
        · obtain ⟨_, _, h⟩ := answer_bind_eq_ok.1 h
          cases h
          rfl
  | null | bool _ | number _ | list _ | map _ =>
      obtain ⟨_, _, h⟩ := answer_bind_eq_ok.1 h
      cases h
  | leaf a => cases a

/-- Groups whose keys are all different are exported side by side. -/
theorem keys_planAll (hdistinct : (specs.flatMap exportKeys).Nodup)
    (hdone : (planAll cluster provider specs s).answer.failure = none) :
    Entries.keys (planAll cluster provider specs s).answer.exports = specs.flatMap exportKeys := by
  induction specs generalizing s with
  | nil => rfl
  | cons spec specs ih =>
      obtain ⟨exports, h, hothers⟩ := exists_of_planAll hdone
      rw [List.flatMap_cons] at hdistinct ⊢
      have others := ih (List.nodup_append.1 hdistinct).2.1 hothers
      have both : Entries.keys (exports ++ (planAll cluster provider specs
          (s.after (spec.plan cluster provider s).trace)).answer.exports) =
          spec.exportKeys ++ specs.flatMap exportKeys := by
        rw [← others, ← keys_of_plan h]
        exact List.map_append
      rw [planAll_cons_of_ok h, joined]
      dsimp only
      rw [Entries.overlay_of_nodup (both ▸ hdistinct), both]

theorem mem_named {β : Type} {f : String → List β} {b : β} (h : b ∈ spec.named f) :
    ∃ name, spec.name = .text name ∧ b ∈ f name := by
  unfold named at h
  split at h
  · exact ⟨_, ‹_›, h⟩
  · cases h

/-- What tells the name that it is given by is given once, if the names are different. -/
theorem nodup_flatMap_named {β : Type} {f : GroupSpec → String → List β}
    (hnames : (specs.map name).Nodup) (hown : ∀ spec n, (f spec n).Nodup)
    (htells : ∀ spec other m n b, b ∈ f spec m → b ∈ f other n → m = n) :
    (specs.flatMap fun spec => spec.named (f spec)).Nodup := by
  refine List.nodup_flatMap.2 ⟨fun spec _ => ?_, ?_⟩
  · unfold named
    split
    · exact hown _ _
    · exact List.nodup_nil
  · refine (List.pairwise_map.1 hnames).imp fun {spec other} different b hb hb' => different ?_
    obtain ⟨m, hm, hb⟩ := mem_named hb
    obtain ⟨n, hn, hb'⟩ := mem_named hb'
    rw [hm, hn, htells spec other m n b hb hb']

theorem nodup_flatMap_refs (hnames : (specs.map name).Nodup) : (specs.flatMap refs).Nodup := by
  refine nodup_flatMap_named hnames (fun spec n => GroupOptions.nodup_refs n _) ?_
  intro spec other m n ref href href'
  obtain ⟨p, hp, rfl⟩ := List.mem_map.1 href
  obtain ⟨q, hq, same⟩ := List.mem_map.1 href'
  exact (GroupPart.ref_inj (GroupOptions.parts_subset _ hp) (GroupOptions.parts_subset _ hq)
    same.symm).1

theorem nodup_flatMap_exportKeys (hnames : (specs.map name).Nodup) :
    (specs.flatMap exportKeys).Nodup := by
  have free : SuffixFree ["_security_group_id", "_auto_scaling_group_name", "_node_group_name"] := by
    decide
  have among (spec : GroupSpec) : spec.exportEndings.Nodup ∧ spec.exportEndings ⊆
      ["_security_group_id", "_auto_scaling_group_name", "_node_group_name"] := by
    unfold exportEndings
    split <;> decide
  refine nodup_flatMap_named hnames (fun spec n => ?_) fun spec other m n key hkey hkey' => ?_
  · refine (among spec).1.map_on fun a ha b hb same => ?_
    exact (free.append_inj ((among spec).2 ha) ((among spec).2 hb) same).2
  · obtain ⟨a, ha, rfl⟩ := List.mem_map.1 hkey
    obtain ⟨b, hb, same⟩ := List.mem_map.1 hkey'
    exact (free.append_inj ((among spec).2 ha) ((among other).2 hb) same.symm).1

end GroupSpec

/-! Names of the stacks that are registered for groups. -/

theorem Digest.Sha1.length_hexOfText (t : String) : 8 ≤ (hexOfText t).length := by
  have long (n : Nat) : 8 ≤ (Text.hex 8 n).length := by
    rw [Text.hex, List.length_append, List.length_replicate]
    omega
  rw [hexOfText, Words.hex, List.flatMap_cons, List.length_append]
  exact (long _).trans (Nat.le_add_right _ _)

/-- The name of a stack tells the group, though it may end in the same digits as another one. -/
theorem stackName_injective (project stack : String) : Function.Injective (stackName project stack) := by
  intro m n same
  have digits (t : String) : ((Digest.Sha1.hexOfText t).take 8).length = 8 := by
    rw [List.length_take, Nat.min_eq_left (Digest.Sha1.length_hexOfText t)]
  have lists := congrArg String.toList same
  simp only [stackName, String.toList_append, String.toList_ofList, List.append_assoc] at lists
  have ends := List.append_inj_left' lists (by simp only [List.length_append, digits])
  exact String.toList_inj.1 ends

/-- The type of the stacks that groups of one's own may have. -/
def Registration.isStack (r : Registration) : Bool := r.ref.type = "aws:cloudformation/stack:Stack"

namespace StackGroup

/-- A stack is registered under the name that is made of the project, the stack and the group. -/
theorem name_of_registered {name : String} {x : ClusterInput} {o : WorkerOptions}
    {provider : Option Resource} {s : Site} {r : Registration}
    (h : .registered r ∈ (component name x o provider s).trace)
    (href : r.ref = (Fleet.stack o).scalerRef name) :
    r.input "name" = .text (stackName s.project s.stack name) := by
  have history : .registered r ∈ (Fleet.stack o).history name x s (.component provider) := h
  obtain ⟨d, here, at_, _, ⟨machine, _⟩ | ⟨_, settled⟩⟩ :=
    Fleet.drafts_of_registered history (href ▸ .tail _ (.head _))
  · exact absurd (machine.symm.trans href) (Fleet.machineRef_ne_scalerRef name _)
  · obtain ⟨p, _, script, rootDevice, _, _, _, rfl⟩ := drafts_eq_ok at_.drafted
    rw [stackName_site] at settled
    have found := (isWellKeyed_stackDraft _ _ _ _).input_text settled "name" rfl rfl
    rw [Registration.input, found]
    rfl

end StackGroup

namespace History

/-- The names under which stacks of groups are registered. -/
def stackNames (past : History) : List Json :=
  ((Report.ofEvents past).registrations.filter Registration.isStack).map (·.input "name")

end History

/-! Runs of whole stacks. -/

/-- The provider that all groups of a stack share. -/
def providerRef : ResourceRef := ⟨"pulumi:providers:aws", "nodegroups-aws"⟩

/-- The reference to the stack of the cluster. -/
def referenceRef (settings : StackSettings) : ResourceRef :=
  ⟨"pulumi:pulumi:StackReference", settings.clusterStack⟩

section Run

variable {config : Entries String} {settings : StackSettings} {cluster : ClusterInput}
  {provider : Resource} {spec : GroupSpec} {specs : List GroupSpec} {s : Site} {e : Event}
  {r : Registration}

theorem tries_base (settings : StackSettings) : Tries [providerRef] settings.base := by
  have create : Tries [providerRef] settings.provider.create :=
    tries_site.bind fun here => (tries_ofExcept _).bind fun _ => tries_register _
  refine create.andThen fun _ => Tries.andThen ?_ fun _ => tries_pure _
  unfold Plan.refer
  split
  · exact (tries_fail _).andThen fun _ => tries_site.andThen fun _ => tries_pure _
  · exact tries_site.andThen fun _ => tries_pure _

theorem tried_runStack (hload : StackSettings.load config = .ok settings) :
    History.tried (runStack config s).trace <+:
      providerRef :: settings.groups.flatMap GroupSpec.refs := by
  obtain ⟨first, whole⟩ := tries_base settings s
  rw [runStack_of_load hload]
  cases hbase : (settings.base s).answer with
  | ok base =>
      rw [StackPlan.behind_of_ok hbase]
      simp only [History.tried_append, whole base hbase]
      exact (List.prefix_append_right_inj _).2 GroupSpec.tried_planAll
  | error e =>
      rw [StackPlan.behind_of_error hbase]
      exact first.trans (List.prefix_append [providerRef] _)

/-- What happens for groups happens for one of them. -/
theorem GroupSpec.exists_of_mem_planAll (h : e ∈ (planAll cluster provider specs s).trace) :
    ∃ spec ∈ specs, ∃ t, e ∈ (spec.plan cluster provider (s.after t)).trace := by
  induction specs generalizing s with
  | nil => cases h
  | cons spec specs ih =>
      have here (h : e ∈ (spec.plan cluster provider s).trace) :
          ∃ other ∈ spec :: specs, ∃ t, e ∈ (other.plan cluster provider (s.after t)).trace :=
        ⟨spec, .head _, [], by rwa [Site.after_nil]⟩
      cases hanswer : (spec.plan cluster provider s).answer with
      | error _ =>
          rw [planAll_cons_of_error hanswer] at h
          exact here h
      | ok exports =>
          rw [planAll_cons_of_ok hanswer] at h
          rcases List.mem_append.1 h with first | later
          · exact here first
          · obtain ⟨other, hother, t, ht⟩ := ih later
            rw [Site.after_after] at ht
            exact ⟨other, .tail _ hother, _, ht⟩

/-- A stack is registered for a group, by a name that is made of the group's. -/
theorem GroupSpec.stack_of_plan (h : .registered r ∈ (spec.plan cluster provider s).trace)
    (hstack : r.isStack = true) :
    ∃ name, r.ref = ⟨"aws:cloudformation/stack:Stack", name ++ "-nodes"⟩ ∧
      r.input "name" = .text (stackName s.project s.stack name) := by
  have type : r.ref.type = "aws:cloudformation/stack:Stack" := of_decide_eq_true hstack
  have tries : Tries spec.refs (spec.plan cluster provider) := tries_plan
  have own := (tries s).1.subset (History.mem_tried h)
  obtain ⟨name, options⟩ := spec
  obtain ⟨n, named, hn⟩ := mem_named own
  obtain rfl : name = .text n := named
  obtain ⟨p, hp, href⟩ := List.mem_map.1 hn
  have among := (GroupOptions.parts_sublist options).subset hp
  have kind : p.type = "aws:cloudformation/stack:Stack" := by rw [← type, ← href]; rfl
  cases options with
  | stack o =>
      have only : ∀ p ∈ GroupKind.stack.parts, p.type = "aws:cloudformation/stack:Stack" →
          p = ⟨"aws:cloudformation/stack:Stack", "-nodes"⟩ := by decide
      obtain rfl := only p among kind
      have whole : (GroupSpec.plan ⟨.text n, .stack o⟩ cluster provider s).trace =
          (StackGroup.component n cluster o (some provider) s).trace := trace_bind_pure _ _ s
      rw [whole] at h
      exact ⟨n, href.symm, StackGroup.name_of_registered h href.symm⟩
  | template o =>
      have none : ∀ p ∈ GroupKind.template.parts, p.type ≠ "aws:cloudformation/stack:Stack" := by
        decide
      exact absurd kind (none p among)
  | managed o =>
      have none : ∀ p ∈ GroupKind.managed.parts, p.type ≠ "aws:cloudformation/stack:Stack" := by
        decide
      exact absurd kind (none p among)

theorem stack_of_runStack (hload : StackSettings.load config = .ok settings)
    (h : .registered r ∈ (runStack config s).trace) (hstack : r.isStack = true) :
    ∃ name, r.ref = ⟨"aws:cloudformation/stack:Stack", name ++ "-nodes"⟩ ∧
      r.input "name" = .text (stackName s.project s.stack name) := by
  have provider (h : .registered r ∈ (settings.base s).trace) : False := by
    have own := (tries_base settings s).1.subset (History.mem_tried h)
    have type := of_decide_eq_true hstack
    rw [List.mem_singleton.1 own] at type
    revert type
    decide
  rw [runStack_of_load hload] at h
  cases hbase : (settings.base s).answer with
  | error e =>
      rw [StackPlan.behind_of_error hbase] at h
      exact (provider h).elim
  | ok base =>
      rw [StackPlan.behind_of_ok hbase] at h
      rcases List.mem_append.1 h with first | later
      · exact (provider first).elim
      · obtain ⟨spec, _, t, ht⟩ := GroupSpec.exists_of_mem_planAll later
        obtain ⟨name, href, hname⟩ := GroupSpec.stack_of_plan ht hstack
        exact ⟨name, href, hname⟩

theorem nodup_stackNames (hload : StackSettings.load config = .ok settings)
    (hrefs : (History.tried (runStack config s).trace).Nodup) :
    (History.stackNames (runStack config s).trace).Nodup := by
  have distinct := hrefs.sublist (History.registrations_sublist _)
  refine (distinct.of_map _).filter _ |>.map_on fun q hq r hr same => ?_
  obtain ⟨hq, hqs⟩ := List.mem_filter.1 hq
  obtain ⟨hr, hrs⟩ := List.mem_filter.1 hr
  obtain ⟨m, qref, qname⟩ := stack_of_runStack hload (History.mem_registrations hq) hqs
  obtain ⟨n, rref, rname⟩ := stack_of_runStack hload (History.mem_registrations hr) hrs
  rw [qname, rname] at same
  obtain rfl := stackName_injective _ _ (Value.text.inj same)
  exact List.inj_on_of_nodup_map distinct hq hr (qref.trans rref.symm)

theorem nodup_tried (s : Site) (hload : StackSettings.load config = .ok settings)
    (hnames : (settings.groups.map GroupSpec.name).Nodup) :
    (referenceRef settings :: History.tried (runStack config s).trace).Nodup := by
  have shared : ∀ type ∈ ["pulumi:pulumi:StackReference", "pulumi:providers:aws"],
      ∀ p ∈ GroupPart.all, p.type ≠ type := by decide
  have apart {ref : ResourceRef} (htype : ref.type ∈ ["pulumi:pulumi:StackReference",
      "pulumi:providers:aws"]) : ref ∉ settings.groups.flatMap GroupSpec.refs := by
    intro h
    obtain ⟨spec, _, h⟩ := List.mem_flatMap.1 h
    obtain ⟨n, _, h⟩ := GroupSpec.mem_named h
    obtain ⟨p, hp, rfl⟩ := List.mem_map.1 h
    exact shared _ htype p (GroupOptions.parts_subset _ hp) rfl
  have all : (referenceRef settings :: providerRef ::
      settings.groups.flatMap GroupSpec.refs).Nodup := by
    refine List.nodup_cons.2 ⟨?_, List.nodup_cons.2 ⟨apart (.tail _ (.head _)), ?_⟩⟩
    · rw [List.mem_cons, not_or]
      refine ⟨fun same => ?_, apart (.head _)⟩
      have types := congrArg ResourceRef.type same
      revert types
      simp only [referenceRef, providerRef]
      decide
    · exact GroupSpec.nodup_flatMap_refs hnames
  exact all.sublist ((tried_runStack hload).sublist.cons_cons _)

theorem keys_runStack (hload : StackSettings.load config = .ok settings)
    (hnames : (settings.groups.map GroupSpec.name).Nodup)
    (hdone : (runStack config s).answer.failure = none) :
    Entries.keys (runStack config s).answer.exports =
      settings.groups.flatMap GroupSpec.exportKeys := by
  rw [runStack_of_load hload] at hdone ⊢
  obtain ⟨base, hbase, hgroups⟩ := StackPlan.exists_of_behind hdone
  rw [StackPlan.behind_of_ok hbase]
  exact GroupSpec.keys_planAll (GroupSpec.nodup_flatMap_exportKeys hnames) hgroups

end Run

/-- What a stack registers and exports goes by different names. -/
structure HasDistinctNames (settings : StackSettings) (run : Traced Event StackResult) : Prop where
  /-- All resources that are tried, those that are refused included, differ in type or name from each
  other and from the reference to the cluster's stack. -/
  resources : (referenceRef settings :: History.tried run.trace).Nodup
  registered : ((Report.ofEvents run.trace).registrations.map Registration.ref).Nodup
  /-- Two exports for a group of one's own, and one for a managed group. -/
  exports : Entries.keys run.answer.exports = settings.groups.flatMap GroupSpec.exportKeys
  keys : (Entries.keys run.answer.exports).Nodup
  stackNames : (History.stackNames run.trace).Nodup

/-- If the groups of a stack are named by texts and the stack is planned to the end, no two names in
it collide, and names of stacks never do. -/
theorem stack_hasDistinctNames (config : Entries String) (s : Site) (settings : StackSettings)
    (hload : StackSettings.load config = .ok settings)
    (htexts : ∀ spec ∈ settings.groups, spec.name.text?.isSome = true)
    (hdone : (runStack config s).answer.failure = none) :
    HasDistinctNames settings (runStack config s) ∧
      ∀ project stack, Function.Injective (stackName project stack) := by
  refine ⟨?_, stackName_injective⟩
  have names := StackSettings.nodup_names hload htexts
  have resources := nodup_tried s hload names
  have exports := keys_runStack hload names hdone
  exact {
    resources := resources
    registered := (List.nodup_cons.1 resources).2.sublist (History.registrations_sublist _)
    exports := exports
    keys := exports ▸ GroupSpec.nodup_flatMap_exportKeys names
    stackNames := nodup_stackNames hload (List.nodup_cons.1 resources).2 }

theorem stack_hasDistinctNames_mixedEntries :
    let config := configOfEntries [managedEntry "a", bareEntry "a-nodes"]
    let settings := settingsOfSpecs [managedSpec "a", bareSpec "a-nodes"]
    StackSettings.load config = .ok settings ∧
      (∀ spec ∈ settings.groups, spec.name.text?.isSome = true) ∧
      (runStack config exportingSite).answer.failure = none ∧
      HasDistinctNames settings (runStack config exportingSite) ∧
      ∀ project stack, Function.Injective (stackName project stack) := by
  have texts : ∀ spec ∈ [managedSpec "a", bareSpec "a-nodes"],
      spec.name.text?.isSome = true := named_of_names ["a", "a-nodes"] rfl
  exact ⟨load_mixedEntries, texts, mixedEntries_done,
    stack_hasDistinctNames _ _ _ load_mixedEntries texts mixedEntries_done⟩

end FleetPlan
