import FleetPlan.Proofs.JsonRoundTrip
import FleetPlan.Proofs.KnownInputs
import FleetPlan.Proofs.ListedGroups
import FleetPlan.Proofs.ManagedForms
import FleetPlan.Stack.Program
import Mathlib.Data.List.Nodup

/-!
Runs of whole stacks.

A configuration that loads gives its groups in the order of their entries, and what else it says does
not depend on them; so a configuration that lists other entries, each of which can be read, and is
otherwise the same, loads to the same settings but for the groups.
-/
namespace FleetPlan

namespace StackPlan

variable {α : Type} {x : Plan α} {f : α → StackPlan} {s : Site}

theorem behind_of_ok {a : α} (h : (x s).answer = .ok a) :
    behind x f s = ⟨(f a (s.after (x s).trace)).answer,
      (x s).trace ++ (f a (s.after (x s).trace)).trace⟩ := by
  unfold behind
  generalize x s = r at h
  obtain ⟨answer, trace⟩ := r
  cases h
  rfl

theorem behind_of_error {e : Failure} (h : (x s).answer = .error e) :
    behind x f s = ⟨⟨[], some e⟩, (x s).trace⟩ := by
  unfold behind
  generalize x s = r at h
  obtain ⟨answer, trace⟩ := r
  cases h
  rfl

theorem behind_pure (a : α) : behind (Pure.pure a) f = f a := by
  funext s
  show (⟨(f a (s.after [])).answer, [] ++ (f a (s.after [])).trace⟩ : Traced Event StackResult) = _
  rw [Site.after_nil, List.nil_append]

/-- A stack that is planned to the end has had a result at every step. -/
theorem exists_of_behind (h : (behind x f s).answer.failure = none) :
    ∃ a, (x s).answer = .ok a ∧ (f a (s.after (x s).trace)).answer.failure = none := by
  cases hx : (x s).answer with
  | ok a =>
      rw [behind_of_ok hx] at h
      exact ⟨a, rfl, h⟩
  | error e =>
      rw [behind_of_error hx] at h
      cases h

end StackPlan

namespace GroupSpec

open StackPlan

variable {cluster : ClusterInput} {provider : Resource} {spec : GroupSpec} {specs rest : List GroupSpec}
  {s : Site}

/-- What comes of a stack that has exported something and goes on. -/
def joined (exports : Entries (Deferred Json)) (t : History) (others : Traced Event StackResult) :
    Traced Event StackResult :=
  ⟨⟨Entries.overlay exports others.answer.exports, others.answer.failure⟩, t ++ others.trace⟩

theorem planAll_cons_of_ok {exports : Entries (Deferred Json)}
    (h : (spec.plan cluster provider s).answer = .ok exports) :
    planAll cluster provider (spec :: specs) s =
      joined exports (spec.plan cluster provider s).trace
        (planAll cluster provider specs (s.after (spec.plan cluster provider s).trace)) := by
  rw [planAll, behind_of_ok h]
  rfl

theorem planAll_cons_of_error {e : Failure}
    (h : (spec.plan cluster provider s).answer = .error e) :
    planAll cluster provider (spec :: specs) s =
      ⟨⟨[], some e⟩, (spec.plan cluster provider s).trace⟩ := by
  rw [planAll, behind_of_error h]

/-- Groups that are planned to the end are planned one after the other. -/
theorem exists_of_planAll (h : (planAll cluster provider (spec :: specs) s).answer.failure = none) :
    ∃ exports, (spec.plan cluster provider s).answer = .ok exports ∧
      (planAll cluster provider specs
        (s.after (spec.plan cluster provider s).trace)).answer.failure = none := by
  rw [planAll] at h
  obtain ⟨exports, hfirst, hrest⟩ := exists_of_behind h
  exact ⟨exports, hfirst, hrest⟩

/-- A group that fails behind others ends the plan with what they have exported and done. -/
theorem planAll_append_of_error {e : Failure} {t : History}
    (hdone : (planAll cluster provider specs s).answer.failure = none)
    (h : spec.plan cluster provider (s.after (planAll cluster provider specs s).trace) =
      ⟨.error e, t⟩) :
    planAll cluster provider (specs ++ spec :: rest) s =
      ⟨⟨(planAll cluster provider specs s).answer.exports, some e⟩,
        (planAll cluster provider specs s).trace ++ t⟩ := by
  induction specs generalizing s with
  | nil =>
      rw [planAll] at h
      have failed : (spec.plan cluster provider s).answer = .error e := by
        rw [show s = s.after [] from (Site.after_nil s).symm]
        exact congrArg Traced.answer h
      have tried : (spec.plan cluster provider s).trace = t := by
        rw [show s = s.after [] from (Site.after_nil s).symm]
        exact congrArg Traced.trace h
      rw [List.nil_append, planAll_cons_of_error failed, tried]
      rfl
  | cons first specs ih =>
      obtain ⟨exports, hfirst, hothers⟩ := exists_of_planAll hdone
      rw [planAll_cons_of_ok hfirst] at h
      have behind := ih hothers (by rw [Site.after_after]; exact h)
      rw [List.cons_append, planAll_cons_of_ok hfirst, planAll_cons_of_ok hfirst, behind]
      simp only [joined, List.append_assoc]

end GroupSpec

/-! What a configuration loads to. -/

namespace GroupSpec

/-- Groups that are read from a list have names of their own, if those are texts. -/
theorem exists_names {text : Option String} {specs : List GroupSpec} (h : parseList text = .ok specs)
    (htexts : ∀ spec ∈ specs, spec.name.text?.isSome = true) :
    ∃ names : List String, specs.map name = names.map .text ∧ "" ∉ names ∧ names.Nodup := by
  obtain ⟨_, truthy, differ⟩ := names_of_load (load_of_parseList h)
  exact exists_distinct_texts (List.forall_mem_map.2 htexts) truthy differ

/-- Any list of entries can be read if each entry can and the names are texts of their own. -/
theorem parseList_of_forall {text : Option String} {vs : List Json} {specs : List GroupSpec}
    {names : List String} (h : entriesOf text = .ok vs)
    (hspecs : List.Forall₂ (fun v spec => ofEntry 0 v = .ok spec) vs specs)
    (hnames : specs.map name = names.map .text) (hdistinct : names.Nodup) :
    parseList text = .ok specs := by
  rw [parseList_of_specs h (ofEntries_eq_ok_iff.2 hspecs), hnames, checkNames_map_text,
    if_pos hdistinct]
  rfl

end GroupSpec

namespace StackSettings

variable {config config' : Entries String} {settings : StackSettings} {vs : List Json}

theorem load_eq_ok : load config = .ok settings ↔
    ∃ stack groups tags, Entries.get? config "clusterStack" = some stack ∧
      GroupSpec.parseList (Entries.get? config "nodeGroups") = .ok groups ∧
      (parseTags (Entries.get? config "tags")).mapError Failure.config = .ok tags ∧
      settings = {
        clusterStack := stack
        region := regionOf (Entries.get? config "awsRegion")
        roleArn := Entries.get? config "assumeRoleArn"
        externalId := Entries.get? config "externalId"
        groups := groups
        tags := tags } := by
  constructor
  · intro h
    unfold load at h
    split at h
    · cases h
    · obtain ⟨groups, hgroups, h⟩ := except_bind_eq_ok.1 h
      obtain ⟨tags, htags, h⟩ := except_bind_eq_ok.1 h
      cases h
      exact ⟨_, groups, tags, ‹_›, hgroups, htags, rfl⟩
  · rintro ⟨stack, groups, tags, hstack, hgroups, htags, rfl⟩
    simp only [load, hstack, hgroups, htags]
    rfl

/-- The groups of a configuration are read from its entries, one from each. -/
theorem exists_entries (hload : load config = .ok settings) :
    ∃ vs, GroupSpec.entriesOf (Entries.get? config "nodeGroups") = .ok vs ∧
      List.Forall₂ (fun v spec => GroupSpec.ofEntry 0 v = .ok spec) vs settings.groups := by
  obtain ⟨_, _, _, _, hgroups, _, rfl⟩ := load_eq_ok.1 hload
  obtain ⟨vs, hvs, hspecs⟩ := GroupSpec.parseList_eq_ok hgroups
  exact ⟨vs, hvs, GroupSpec.ofEntries_eq_ok_iff.1 hspecs⟩

theorem exists_names (hload : load config = .ok settings)
    (htexts : ∀ spec ∈ settings.groups, spec.name.text?.isSome = true) :
    ∃ names : List String, settings.groups.map GroupSpec.name = names.map .text ∧ names.Nodup := by
  obtain ⟨_, _, _, _, hgroups, _, rfl⟩ := load_eq_ok.1 hload
  obtain ⟨names, hnames, _, distinct⟩ := GroupSpec.exists_names hgroups htexts
  exact ⟨names, hnames, distinct⟩

theorem nodup_names (hload : load config = .ok settings)
    (htexts : ∀ spec ∈ settings.groups, spec.name.text?.isSome = true) :
    (settings.groups.map GroupSpec.name).Nodup := by
  obtain ⟨names, hnames, distinct⟩ := exists_names hload htexts
  rw [hnames]
  exact distinct.map fun _ _ same => Value.text.inj same

/-- A configuration that lists other entries, and is the same in all else. -/
structure ListsInstead (config : Entries String) (vs : List Json) (config' : Entries String) :
    Prop where
  others : ∀ key, key ≠ "nodeGroups" → Entries.get? config' key = Entries.get? config key
  entries : GroupSpec.entriesOf (Entries.get? config' "nodeGroups") = .ok vs

/-- Such a configuration loads to the same settings with other groups. -/
theorem load_of_listsInstead (hload : load config = .ok settings)
    (h : ListsInstead config vs config') {specs : List GroupSpec} {names : List String}
    (hspecs : List.Forall₂ (fun v spec => GroupSpec.ofEntry 0 v = .ok spec) vs specs)
    (hnames : specs.map GroupSpec.name = names.map .text) (hdistinct : names.Nodup) :
    load config' = .ok { settings with groups := specs } := by
  obtain ⟨stack, _, tags, hstack, _, htags, rfl⟩ := load_eq_ok.1 hload
  refine load_eq_ok.2 ⟨stack, specs, tags, ?_, ?_, ?_, ?_⟩
  · rw [h.others _ (by decide), hstack]
  · exact GroupSpec.parseList_of_forall h.entries hspecs hnames hdistinct
  · rw [h.others _ (by decide), htags]
  · rw [h.others "awsRegion" (by decide), h.others "assumeRoleArn" (by decide),
      h.others "externalId" (by decide)]

end StackSettings

theorem runStack_of_load {config : Entries String} {settings : StackSettings}
    (h : StackSettings.load config = .ok settings) :
    runStack config = .behind settings.base fun base =>
      GroupSpec.planAll (.descriptor base.cluster) base.provider settings.groups := by
  rw [runStack, h, Plan.ofExcept_ok, StackPlan.behind_pure]

/-! A small stack. -/

/-- A site of a cluster whose stack exports what groups need. -/
def exportingSite : Site := { smallSite with cloud := { smallCloud with exports := fun _ => [
  ("eks_cluster_name", .text "c"),
  ("eks_cluster_endpoint", .text "https://c"),
  ("eks_cluster_ca_data", .text "ca"),
  ("eks_cluster_version", .text "1.30"),
  ("vpc_id", .text "vpc"),
  ("eks_cluster_security_group_id", .text "sg"),
  ("private_subnet_ids", .list [.text "subnet"]),
  ("eks_node_instance_profile_arn", .text "profile"),
  ("eks_node_role_arn", .text "role")] } }

/-- A configuration that says nothing but what groups there are. -/
def configOfEntries (vs : List Json) : Entries String :=
  [("clusterStack", "cluster"), ("nodeGroups", Json.print .indented (.list vs))]

/-- The settings that it loads to. -/
def settingsOfSpecs (specs : List GroupSpec) : StackSettings where
  clusterStack := "cluster"
  region := "us-east-1"
  roleArn := none
  externalId := none
  groups := specs
  tags := []

def managedEntry (name : String) : Json :=
  .map [("name", .text name), ("kind", .text "managed"), ("node_role_arn", .text "role")]

def managedSpec (name : String) : GroupSpec := ⟨.text name, .managed (smallManagedOptions "role")⟩

/-- An entry with nothing but a name, which stands for a group in a stack. -/
def bareEntry (name : String) : Json := .map [("name", .text name)]

def bareSpec (name : String) : GroupSpec := ⟨.text name, .stack (smallOptions .none 20)⟩

section Small

variable {vs : List Json} {specs : List GroupSpec}

theorem entriesOf_configOfEntries (h : vs.map Json.reread = vs) :
    GroupSpec.entriesOf (Entries.get? (configOfEntries vs) "nodeGroups") = .ok vs := by
  have text : Entries.get? (configOfEntries vs) "nodeGroups" =
      some (Json.print .indented (.list vs)) := rfl
  rw [text, GroupSpec.entriesOf, Option.map_some, GroupSpec.listed, GroupSpec.readText,
    Json.spelled?_toList, Json.read?_print Json.isBlank_indented, Json.reread_list, h]

theorem named_of_names (names : List String) (h : specs.map GroupSpec.name = names.map .text) :
    ∀ spec ∈ specs, spec.name.text?.isSome = true := by
  intro spec hspec
  obtain ⟨n, _, hn⟩ := List.mem_map.1 (h ▸ List.mem_map_of_mem hspec)
  rw [← hn]
  rfl

theorem load_configOfEntries (names : List String) (h : vs.map Json.reread = vs)
    (hspecs : List.Forall₂ (fun v spec => GroupSpec.ofEntry 0 v = .ok spec) vs specs)
    (hnames : specs.map GroupSpec.name = names.map .text) (hdistinct : names.Nodup) :
    StackSettings.load (configOfEntries vs) = .ok (settingsOfSpecs specs) :=
  StackSettings.load_eq_ok.2 ⟨"cluster", specs, [], rfl,
    GroupSpec.parseList_of_forall (entriesOf_configOfEntries h) hspecs hnames hdistinct, rfl, rfl⟩

theorem listsInstead_configOfEntries (vs vs' : List Json) (h : vs'.map Json.reread = vs') :
    StackSettings.ListsInstead (configOfEntries vs) vs' (configOfEntries vs') := by
  refine ⟨fun key hkey => ?_, entriesOf_configOfEntries h⟩
  simp only [configOfEntries, Entries.get?, hkey.symm, if_false]

end Small

theorem managedEntry_done :
    (runStack (configOfEntries [managedEntry "a"]) exportingSite).answer.failure = none := by
  have load : StackSettings.load (configOfEntries [managedEntry "a"]) =
      .ok (settingsOfSpecs [managedSpec "a"]) :=
    load_configOfEntries ["a"] rfl (.cons rfl .nil) rfl (by decide)
  rw [runStack_of_load load]
  exact Option.isNone_iff_eq_none.1 (by decide +kernel)

theorem bareEntry_done : (runStack (configOfEntries [bareEntry "a-nodes"])
    exportingSite).answer.failure = none := by
  have load : StackSettings.load (configOfEntries [bareEntry "a-nodes"]) =
      .ok (settingsOfSpecs [bareSpec "a-nodes"]) :=
    load_configOfEntries ["a-nodes"] rfl (.cons rfl .nil) rfl (by decide)
  rw [runStack_of_load load]
  exact Option.isNone_iff_eq_none.1 (by decide +kernel)

/-- A managed group, and a group in a stack that is named like the stack of such a group would be. -/
theorem load_mixedEntries :
    StackSettings.load (configOfEntries [managedEntry "a", bareEntry "a-nodes"]) =
      .ok (settingsOfSpecs [managedSpec "a", bareSpec "a-nodes"]) :=
  load_configOfEntries ["a", "a-nodes"] rfl (.cons rfl (.cons rfl .nil)) rfl (by decide)

theorem mixedEntries_done :
    (runStack (configOfEntries [managedEntry "a", bareEntry "a-nodes"])
      exportingSite).answer.failure = none := by
  rw [runStack_of_load load_mixedEntries]
  exact Option.isNone_iff_eq_none.1 (by decide +kernel)

end FleetPlan
