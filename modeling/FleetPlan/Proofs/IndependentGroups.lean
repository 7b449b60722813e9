import FleetPlan.Proofs.DistinctNames
import FleetPlan.Proofs.PlainOptions
import Mathlib.Data.List.Flatten

/-!
Groups of one stack do not interfere.

Each group does behind the others exactly what it does behind the provider alone, since what a configuration
spells out and what the cluster's stack exports come from no group. So a stack whose groups are all planned
to the end by themselves is the union of the stacks of one group each, in the order of its entries.
-/
namespace FleetPlan

open Plan Deferred

/-! What groups share comes from no group. -/

theorem StackReference.direct_get (r : StackReference) (key : String) : (r.get key).Direct := by
  have isReference : r.ref.type ∉ groupTypes := by
    have type : r.ref.type = "pulumi:pulumi:StackReference" := rfl
    rw [type]
    decide
  exact List.forall_mem_singleton.2 isReference

theorem StackReference.direct_require (r : StackReference) (key : String) :
    (r.require key).Direct := by
  have sources : (r.require key).sources = (r.get key).sources := by
    unfold require
    split <;> rfl
  intro ref href
  rw [sources] at href
  exact r.direct_get key ref href

theorem StackReference.isDirect_cluster (r : StackReference) :
    Cluster.IsDirect (ClusterInput.descriptor r.cluster).cluster where
  parts := by
    have needed (key : String) := r.direct_require key
    have given (key : String) := r.direct_get key
    have roles : r.admittedRoles.Direct := by
      refine (given _).bind fun roles _ => (given _).bind fun role _ => ?_
      split
      · exact (direct_ofOption _).map _
      · exact direct_pure _
    simp only [Cluster.parts, List.forall_mem_cons]
    exact ⟨needed _, needed _, needed _, needed _, needed _, needed _, given _, given _, given _,
      given _, roles, given _, given _, given _, List.forall_mem_nil _⟩
  fleet := waitable_nil
  access := waitable_nil

namespace GroupSpec

variable {provider : Resource} {spec : GroupSpec} {specs : List GroupSpec} {here there : Site}

theorem framed_plan (r : StackReference) (provider : Resource) (h : spec.options.Direct) :
    Framed (fun _ => True) (spec.plan (.descriptor r.cluster) provider) := by
  obtain ⟨name, options⟩ := spec
  have unnamed : Framed (fun _ => True) (do
      Plan.ofExcept (GroupSpec.check ⟨name, options⟩)
      (Plan.fail .notAName : Plan (Entries (Deferred Json)))) :=
    (framed_ofExcept (P := fun _ => True) fun _ _ => trivial).bind fun _ _ => framed_fail _
  have cluster := r.isDirect_cluster
  cases name with
  | text name =>
      cases options with
      | stack o =>
          refine Framed.bind (P := fun _ => True) ?_ fun _ _ => framed_pure trivial
          exact framed_componentPlan (.head _) fun _ => StackGroup.framed_create cluster h
      | template o =>
          refine Framed.bind (P := fun _ => True) ?_ fun _ _ => framed_pure trivial
          exact framed_componentPlan (.tail _ (.head _)) fun _ =>
            TemplateGroup.framed_create cluster h
      | managed o =>
          refine Framed.bind (P := fun _ => True) ?_ fun _ _ => framed_pure trivial
          exact framed_componentPlan (.tail _ (.tail _ (.head _))) fun _ =>
            ManagedGroup.framed_create cluster h
  | null | bool _ | number _ | list _ | map _ => exact unnamed
  | leaf a => cases a

/-- What a group exports that is planned at a site, nothing if it fails. -/
def exportsAt (cluster : ClusterInput) (provider : Resource) (here : Site) (spec : GroupSpec) :
    Entries (Deferred Json) :=
  match (spec.plan cluster provider here).answer with
  | .ok exports => exports
  | .error _ => []

/-- A group is planned to the end at a site. -/
def EndsAt (cluster : ClusterInput) (provider : Resource) (here : Site) (spec : GroupSpec) : Prop :=
  ∃ exports, (spec.plan cluster provider here).answer = .ok exports

/-- Groups that are planned to the end at one site are planned to the end in a row at any site beside it,
and do and export there what they do and export by themselves. -/
theorem planAll_of_framed {cluster : ClusterInput}
    (hframed : ∀ spec ∈ specs, Framed (fun _ => True) (spec.plan cluster provider))
    (hends : ∀ spec ∈ specs, spec.EndsAt cluster provider here)
    (hdistinct : (specs.flatMap exportKeys).Nodup) (beside : here.Beside there) :
    planAll cluster provider specs there =
      ⟨⟨specs.flatMap (exportsAt cluster provider here), none⟩,
        specs.flatMap fun spec => (spec.plan cluster provider here).trace⟩ := by
  induction specs generalizing there with
  | nil => rfl
  | cons spec specs ih =>
      obtain ⟨exports, hexports⟩ := hends spec (.head _)
      obtain ⟨same, grouped, _⟩ := hframed spec (.head _) here there beside
      have answer : (spec.plan cluster provider there).answer = .ok exports := same ▸ hexports
      have trace := congrArg Traced.trace same
      have own : exportsAt cluster provider here spec = exports := by rw [exportsAt, hexports]
      rw [List.flatMap_cons] at hdistinct
      -- what this group has done keeps the site beside the one where each of them is alone
      have next : here.Beside (there.after (spec.plan cluster provider here).trace) :=
        ⟨⟨beside.project, beside.stack, beside.cloud⟩, beside.past, beside.past'.append grouped⟩
      have rest := ih (fun other hother => hframed other (.tail _ hother))
        (fun other hother => hends other (.tail _ hother)) (List.nodup_append.1 hdistinct).2.1 next
      have keys : Entries.keys (exports ++ specs.flatMap (exportsAt cluster provider here)) =
          spec.exportKeys ++ specs.flatMap exportKeys := by
        have others := keys_planAll (List.nodup_append.1 hdistinct).2.1
          (congrArg (fun run => run.answer.failure) rest)
        rw [rest] at others
        rw [← keys_of_plan hexports, ← others]
        exact List.map_append
      rw [planAll_cons_of_ok answer, ← trace, rest, joined]
      dsimp only
      rw [Entries.overlay_of_nodup (keys ▸ hdistinct), List.flatMap_cons, List.flatMap_cons, own]

theorem nodup_names_of_subperm {specs' : List GroupSpec} (h : specs'.Subperm specs)
    (hnames : (specs.map name).Nodup) : (specs'.map name).Nodup := by
  obtain ⟨picked, perm, sub⟩ := h
  exact (perm.map name).nodup_iff.1 (hnames.sublist (sub.map name))

end GroupSpec

/-! What groups are planned behind. -/

namespace StackSettings

variable {settings : StackSettings}

/-- The provider is all that is tried before the groups. -/
theorem trace_base (settings : StackSettings) (s : Site) :
    ∃ p : Event, (settings.base s).trace = [p] ∧ p.attempt?.map Attempt.ref = some providerRef ∧
      p.IsGrouped := by
  obtain ⟨tags, htags⟩ : ∃ tags, settings.provider.defaultTags s.stack = .ok tags := ⟨_, rfl⟩
  have named : (settings.provider.draft s.stack tags).Named :=
    ⟨(by decide : "nodegroups-aws" ≠ ""), rfl⟩
  have create : settings.provider.create s = register (settings.provider.draft s.stack tags) s := by
    rw [ProviderSettings.create, site_bind, htags, ofExcept_ok, Plan.pure_bind]
  rw [register_of_named named] at create
  have refers (provider : Resource) (here : Site) :
      ((do return StackBase.mk provider (← Plan.refer settings.clusterStack).cluster : Plan _)
        here).trace = [] := by
    unfold Plan.refer
    split <;> rfl
  refine ⟨(settings.provider.draft s.stack tags).event s.past, ?_, ?_,
    Draft.isGrouped_event (fun h => by cases h) s.past⟩
  · rw [base, bind_of_ok (congrArg Traced.answer create), create]
    exact congrArg (_ :: ·) (refers _ _)
  · rw [Draft.attempt?_event]
    rfl

theorem exists_reference {s : Site} {base : StackBase} (h : (settings.base s).answer = .ok base) :
    ∃ r : StackReference, base.cluster = r.cluster := by
  obtain ⟨provider, _, h⟩ := answer_bind_eq_ok.1 h
  obtain ⟨r, _, h⟩ := answer_bind_eq_ok.1 h
  cases h
  exact ⟨r, rfl⟩

/-- What all groups of a stack are planned behind. -/
structure Opens (settings : StackSettings) (s : Site) (base : StackBase) (p : Event) : Prop where
  base : settings.base s = ⟨.ok base, [p]⟩
  provider : p.attempt?.map Attempt.ref = some providerRef
  grouped : p.IsGrouped

end StackSettings

/-! Stacks that are the union of others. -/

/-- A stack does and exports what others do and export, behind one provider for all. -/
structure IsUnionOf (run : Traced Event StackResult) (others : List (Traced Event StackResult)) :
    Prop where
  events : ∃ p : Event, p.attempt?.map Attempt.ref = some providerRef ∧
    (∀ other ∈ others, other.trace.head? = some p) ∧
    run.trace = p :: others.flatMap fun other => other.trace.tail
  exports : run.answer.exports = others.flatMap fun other => other.answer.exports
  /-- No export of one of them is another one's. -/
  keys : (Entries.keys run.answer.exports).Nodup
  completes : others ≠ [] → run.answer.failure = none

/-- All that a stack does and exports, another one does and exports. -/
structure IsPartOf (run whole : Traced Event StackResult) : Prop where
  events : run.trace.Subperm whole.trace
  exports : ∀ key d, Entries.get? run.answer.exports key = some d →
    Entries.get? whole.answer.exports key = some d

theorem IsPartOf.refl (run : Traced Event StackResult) : IsPartOf run run :=
  ⟨.refl _, fun _ _ h => h⟩

theorem IsPartOf.antisymm {run other : Traced Event StackResult} (h : IsPartOf run other)
    (h' : IsPartOf other run) :
    run.trace.Perm other.trace ∧
      ∀ key, Entries.get? run.answer.exports key = Entries.get? other.answer.exports key :=
  ⟨h.events.antisymm h'.events, fun key => Option.ext fun d => ⟨h.exports key d, h'.exports key d⟩⟩

/-- What comes of groups that are planned by themselves behind a provider, one beside the other. -/
def unionOf (base : StackBase) (p : Event) (s : Site) (specs : List GroupSpec) :
    Traced Event StackResult :=
  ⟨⟨specs.flatMap (GroupSpec.exportsAt (.descriptor base.cluster) base.provider (s.after [p])), none⟩,
    p :: specs.flatMap fun spec =>
      (spec.plan (.descriptor base.cluster) base.provider (s.after [p])).trace⟩

section Union

variable {settings : StackSettings} {base : StackBase} {p : Event} {s : Site} {spec : GroupSpec}
  {specs specs' : List GroupSpec}

theorem keys_unionOf (hends : ∀ spec ∈ specs,
      spec.EndsAt (.descriptor base.cluster) base.provider (s.after [p])) :
    Entries.keys (unionOf base p s specs).answer.exports = specs.flatMap GroupSpec.exportKeys := by
  have own : ∀ spec ∈ specs, Entries.keys (spec.exportsAt (.descriptor base.cluster) base.provider
      (s.after [p])) = spec.exportKeys := by
    intro spec hspec
    obtain ⟨exports, h⟩ := hends spec hspec
    rw [GroupSpec.exportsAt, h]
    exact GroupSpec.keys_of_plan h
  rw [unionOf, Entries.keys, List.map_flatMap]
  exact List.flatMap_congr own

theorem isUnionOf_unionOf (opens : settings.Opens s base p)
    (hnames : (specs.map GroupSpec.name).Nodup) (hends : ∀ spec ∈ specs,
      spec.EndsAt (.descriptor base.cluster) base.provider (s.after [p])) :
    IsUnionOf (unionOf base p s specs) (specs.map fun spec => unionOf base p s [spec]) where
  events := by
    refine ⟨p, opens.provider, List.forall_mem_map.2 fun _ _ => rfl, ?_⟩
    simp only [unionOf, List.flatMap_map, List.tail_cons, List.flatMap_singleton]
  exports := by simp only [unionOf, List.flatMap_map, List.flatMap_singleton]
  keys := keys_unionOf hends ▸ GroupSpec.nodup_flatMap_exportKeys hnames
  completes _ := rfl

theorem isPartOf_unionOf (hsub : specs'.Subperm specs) (hnames : (specs.map GroupSpec.name).Nodup)
    (hends : ∀ spec ∈ specs,
      spec.EndsAt (.descriptor base.cluster) base.provider (s.after [p])) :
    IsPartOf (unionOf base p s specs') (unionOf base p s specs) where
  events := by
    obtain ⟨picked, perm, sub⟩ := hsub
    exact (List.subperm_cons p).2 ⟨_, perm.flatMap_right _, sub.flatMap _⟩
  exports key d h := by
    obtain ⟨spec, hspec, own⟩ := List.mem_flatMap.1 (Entries.mem_of_get? h)
    have distinct := keys_unionOf hends ▸ GroupSpec.nodup_flatMap_exportKeys hnames
    exact Entries.get?_of_mem distinct (List.mem_flatMap.2 ⟨spec, hsub.subset hspec, own⟩)

namespace StackSettings

/-- The stack of some groups that is the same in all else. -/
def runOf (settings : StackSettings) (specs : List GroupSpec) : StackPlan :=
  .behind settings.base fun base =>
    GroupSpec.planAll (.descriptor base.cluster) base.provider specs

theorem runOf_of_opens (opens : settings.Opens s base p) (specs : List GroupSpec) :
    settings.runOf specs s =
      ⟨(GroupSpec.planAll (.descriptor base.cluster) base.provider specs (s.after [p])).answer,
        p :: (GroupSpec.planAll (.descriptor base.cluster) base.provider specs
          (s.after [p])).trace⟩ := by
  rw [runOf, StackPlan.behind_of_ok (congrArg Traced.answer opens.base), opens.base]
  rfl

/-- Groups with names of their own, none of which relies on another one and each of which ends behind the
provider if the others are left out. -/
structure StandAlone (settings : StackSettings) (s : Site) (specs : List GroupSpec) : Prop where
  past : s.past.Grouped
  direct : ∀ spec ∈ specs, spec.options.Direct
  names : (specs.map GroupSpec.name).Nodup
  done : ∀ spec ∈ specs, (settings.runOf [spec] s).answer.failure = none

theorem StandAlone.of_subperm (h : settings.StandAlone s specs) (hsub : specs'.Subperm specs) :
    settings.StandAlone s specs' where
  past := h.past
  direct spec hspec := h.direct spec (hsub.subset hspec)
  names := GroupSpec.nodup_names_of_subperm hsub h.names
  done spec hspec := h.done spec (hsub.subset hspec)

theorem runOf_eq_unionOf (h : settings.StandAlone s specs) (opens : settings.Opens s base p)
    (hends : ∀ spec ∈ specs,
      spec.EndsAt (.descriptor base.cluster) base.provider (s.after [p])) :
    settings.runOf specs s = unionOf base p s specs := by
  obtain ⟨r, hr⟩ := exists_reference (congrArg Traced.answer opens.base)
  have framed : ∀ spec ∈ specs,
      Framed (fun _ => True) (spec.plan (.descriptor base.cluster) base.provider) :=
    fun spec hspec => hr ▸ GroupSpec.framed_plan r _ (h.direct spec hspec)
  have grouped : (s.after [p]).past.Grouped :=
    h.past.append fun e he => List.mem_singleton.1 he ▸ opens.grouped
  rw [runOf_of_opens opens, GroupSpec.planAll_of_framed framed hends
    (GroupSpec.nodup_flatMap_exportKeys h.names) ⟨⟨rfl, rfl, rfl⟩, grouped, grouped⟩]
  rfl

/-- A group ends behind the provider if the stack of this group alone does. -/
theorem endsAt_of_runOf (opens : settings.Opens s base p)
    (hdone : (settings.runOf [spec] s).answer.failure = none) :
    spec.EndsAt (.descriptor base.cluster) base.provider (s.after [p]) := by
  rw [runOf_of_opens opens] at hdone
  obtain ⟨exports, hexports, _⟩ := GroupSpec.exists_of_planAll hdone
  exact ⟨exports, hexports⟩

/-- Unless there are no groups, those that end by themselves have a provider and a cluster. -/
theorem StandAlone.exists_opens (h : settings.StandAlone s specs) :
    specs = [] ∨ ∃ base p, settings.Opens s base p ∧ ∀ spec ∈ specs,
      spec.EndsAt (.descriptor base.cluster) base.provider (s.after [p]) := by
  cases specs with
  | nil => exact .inl rfl
  | cons spec specs =>
      obtain ⟨base, answer, _⟩ := StackPlan.exists_of_behind (h.done spec (.head _))
      obtain ⟨p, trace, provider, grouped⟩ := trace_base settings s
      have opens : settings.Opens s base p := ⟨by rw [← answer, ← trace], provider, grouped⟩
      exact .inr ⟨base, p, opens, fun spec hspec => endsAt_of_runOf opens (h.done spec hspec)⟩

theorem runOf_nil (settings : StackSettings) (s : Site) :
    (settings.runOf [] s).answer.exports = [] ∧
      (settings.runOf [] s).trace = (settings.base s).trace := by
  rw [runOf]
  cases h : (settings.base s).answer with
  | ok base =>
      rw [StackPlan.behind_of_ok h]
      exact ⟨rfl, List.append_nil _⟩
  | error e =>
      rw [StackPlan.behind_of_error h]
      exact ⟨rfl, rfl⟩

namespace StandAlone

theorem isUnionOf (h : settings.StandAlone s specs) :
    IsUnionOf (settings.runOf specs s) (specs.map fun spec => settings.runOf [spec] s) := by
  obtain rfl | ⟨base, p, opens, hends⟩ := h.exists_opens
  -- without groups the stack of the cluster may be missing, and the provider is all that there is
  · obtain ⟨p, trace, provider, _⟩ := trace_base settings s
    obtain ⟨exports, events⟩ := runOf_nil settings s
    exact {
      events := ⟨p, provider, List.forall_mem_nil _, events.trans trace⟩
      exports := exports
      keys := exports ▸ List.nodup_nil
      completes := fun h => absurd rfl h }
  · have alone : (specs.map fun spec => settings.runOf [spec] s) =
        specs.map fun spec => unionOf base p s [spec] := by
      refine List.map_congr_left fun spec hspec => ?_
      exact runOf_eq_unionOf (h.of_subperm (List.singleton_subperm_iff.2 hspec)) opens
        (List.forall_mem_singleton.2 (hends spec hspec))
    rw [alone, runOf_eq_unionOf h opens hends]
    exact isUnionOf_unionOf opens h.names hends

/-- Fewer groups do and export a part of what all of them do and export. -/
theorem isPartOf (h : settings.StandAlone s specs) (hsub : specs'.Subperm specs) :
    IsPartOf (settings.runOf specs' s) (settings.runOf specs s) := by
  obtain rfl | ⟨base, p, opens, hends⟩ := h.exists_opens
  · rw [List.subperm_nil.1 hsub]
    exact .refl _
  · rw [runOf_eq_unionOf h opens hends, runOf_eq_unionOf (h.of_subperm hsub) opens
      fun spec hspec => hends spec (hsub.subset hspec)]
    exact isPartOf_unionOf hsub h.names hends

/-- The order of the groups is that of what they do, and no more. -/
theorem perm (h : settings.StandAlone s specs) (hperm : specs'.Perm specs) :
    (settings.runOf specs' s).trace.Perm (settings.runOf specs s).trace ∧
      ∀ key, Entries.get? (settings.runOf specs' s).answer.exports key =
        Entries.get? (settings.runOf specs s).answer.exports key :=
  (h.isPartOf hperm.subperm).antisymm ((h.of_subperm hperm.subperm).isPartOf hperm.symm.subperm)

end StandAlone
end StackSettings

end Union

/-! Configurations of some of the entries. -/

/-- What is related to each of some elements of a list can be found among what is related to all. -/
theorem exists_forall₂_of_subperm {α β : Type} {R : α → β → Prop} {as as' : List α} {bs : List β}
    (h : List.Forall₂ R as bs) (hsub : as'.Subperm as) :
    ∃ bs', List.Forall₂ R as' bs' ∧ bs'.Subperm bs := by
  obtain ⟨picked, perm, sub⟩ := hsub
  have inOrder : ∃ cs, List.Forall₂ R picked cs ∧ cs.Sublist bs := by
    clear perm
    induction sub generalizing bs with
    | slnil =>
        cases h
        exact ⟨[], .nil, .slnil⟩
    | cons a _ ih =>
        obtain ⟨b, others, _, hothers, rfl⟩ := List.forall₂_cons_left_iff.1 h
        obtain ⟨cs, hcs, sub⟩ := ih hothers
        exact ⟨cs, hcs, sub.cons b⟩
    | cons_cons a _ ih =>
        obtain ⟨b, others, hb, hothers, rfl⟩ := List.forall₂_cons_left_iff.1 h
        obtain ⟨cs, hcs, sub⟩ := ih hothers
        exact ⟨b :: cs, .cons hb hcs, sub.cons_cons b⟩
  obtain ⟨cs, hcs, sub⟩ := inOrder
  obtain ⟨bs', hbs', hperm⟩ := List.perm_comp_forall₂ perm.symm hcs
  exact ⟨bs', hbs', cs, hperm.symm, sub⟩

theorem exists_of_forall₂ {α β : Type} {R : α → β → Prop} {as : List α} {bs : List β}
    (h : List.Forall₂ R as bs) {b : β} (hb : b ∈ bs) : ∃ a ∈ as, R a b := by
  induction h with
  | nil => cases hb
  | cons hab _ ih =>
      rcases List.mem_cons.1 hb with rfl | hb
      · exact ⟨_, .head _, hab⟩
      · obtain ⟨a, ha, hab⟩ := ih hb
        exact ⟨a, .tail _ ha, hab⟩

theorem map_eq_of_forall₂ {α β γ : Type} {R : α → β → Prop} {f : α → γ} {g : β → γ} {as : List α}
    {bs : List β} (h : List.Forall₂ R as bs)
    (hfg : ∀ a b, a ∈ as → b ∈ bs → R a b → f a = g b) : as.map f = bs.map g := by
  induction h with
  | nil => rfl
  | cons hab _ ih =>
      rw [List.map_cons, List.map_cons, hfg _ _ (.head _) (.head _) hab,
        ih fun a b ha hb => hfg a b (.tail _ ha) (.tail _ hb)]

section Listed

variable {config config' : Entries String} {settings : StackSettings} {vs : List Json}
  {specs : List GroupSpec} {alone : Json → Entries String} {s : Site}

/-- A configuration that lists entries of some groups of another one, in any order, is the stack of those
groups. -/
theorem runStack_of_subperm (hload : StackSettings.load config = .ok settings)
    (htexts : ∀ spec ∈ settings.groups, spec.name.text?.isSome = true)
    (h : StackSettings.ListsInstead config vs config')
    (hread : List.Forall₂ (fun v spec => GroupSpec.ofEntry 0 v = .ok spec) vs specs)
    (hsub : specs.Subperm settings.groups) : runStack config' = settings.runOf specs := by
  have texts : ∀ n ∈ specs.map GroupSpec.name, n.text?.isSome = true :=
    List.forall_mem_map.2 fun spec hspec => htexts spec (hsub.subset hspec)
  obtain ⟨names, hnames⟩ := GroupSpec.exists_texts texts
  have distinct : (names.map Value.text).Nodup :=
    hnames ▸ GroupSpec.nodup_names_of_subperm hsub (StackSettings.nodup_names hload htexts)
  exact runStack_of_load
    (StackSettings.load_of_listsInstead hload h hread hnames (distinct.of_map _))

theorem runStack_of_single (hload : StackSettings.load config = .ok settings)
    (htexts : ∀ spec ∈ settings.groups, spec.name.text?.isSome = true) {v : Json} {spec : GroupSpec}
    (h : StackSettings.ListsInstead config [v] config') (hread : GroupSpec.ofEntry 0 v = .ok spec)
    (hspec : spec ∈ settings.groups) : runStack config' = settings.runOf [spec] :=
  runStack_of_subperm hload htexts h (.cons hread .nil) (List.singleton_subperm_iff.2 hspec)

/-- Groups whose configurations of one entry each are planned to the end stand alone. -/
theorem standAlone_of_load (hfresh : s.past = []) (hload : StackSettings.load config = .ok settings)
    (htexts : ∀ spec ∈ settings.groups, spec.name.text?.isSome = true)
    (hspecs : List.Forall₂ (fun v spec => GroupSpec.ofEntry 0 v = .ok spec) vs settings.groups)
    (halone : ∀ v ∈ vs, StackSettings.ListsInstead config [v] (alone v))
    (hdone : ∀ v ∈ vs, (runStack (alone v) s).answer.failure = none) :
    settings.StandAlone s settings.groups where
  past := hfresh ▸ List.forall_mem_nil _
  direct spec hspec := by
    obtain ⟨v, _, hread⟩ := exists_of_forall₂ hspecs hspec
    exact GroupSpec.direct_of_ofEntry hread
  names := StackSettings.nodup_names hload htexts
  done spec hspec := by
    obtain ⟨v, hv, hread⟩ := exists_of_forall₂ hspecs hspec
    rw [← runStack_of_single hload htexts (halone v hv) hread hspec]
    exact hdone v hv

end Listed

/-- Groups of a stack that are named by texts and that all end by themselves do not interfere: the stack
is the union of the stacks of one group each. Fewer groups do and export a part of it, and the same groups
in another order do and export the same. -/
theorem stack_isUnionOf (config : Entries String) (s : Site) (settings : StackSettings)
    (vs : List Json) (alone : Json → Entries String) (hfresh : s.past = [])
    (hload : StackSettings.load config = .ok settings)
    (htexts : ∀ spec ∈ settings.groups, spec.name.text?.isSome = true)
    (hentries : GroupSpec.entriesOf (Entries.get? config "nodeGroups") = .ok vs)
    (halone : ∀ v ∈ vs, StackSettings.ListsInstead config [v] (alone v))
    (hdone : ∀ v ∈ vs, (runStack (alone v) s).answer.failure = none) :
    IsUnionOf (runStack config s) (vs.map fun v => runStack (alone v) s) ∧
      (∀ vs' config', vs'.Subperm vs → StackSettings.ListsInstead config vs' config' →
        IsUnionOf (runStack config' s) (vs'.map fun v => runStack (alone v) s) ∧
          IsPartOf (runStack config' s) (runStack config s)) ∧
      ∀ vs' config', vs'.Perm vs → StackSettings.ListsInstead config vs' config' →
        (runStack config' s).trace.Perm (runStack config s).trace ∧
          ∀ key, Entries.get? (runStack config' s).answer.exports key =
            Entries.get? (runStack config s).answer.exports key := by
  obtain ⟨listed, hlisted, hspecs⟩ := StackSettings.exists_entries hload
  obtain rfl : listed = vs := Except.ok.inj (hlisted.symm.trans hentries)
  have groups := standAlone_of_load hfresh hload htexts hspecs halone hdone
  have whole : runStack config = settings.runOf settings.groups := runStack_of_load hload
  have part (vs' : List Json) (config' : Entries String) (hsub : vs'.Subperm listed)
      (h : StackSettings.ListsInstead config vs' config') :
      IsUnionOf (runStack config' s) (vs'.map fun v => runStack (alone v) s) ∧
        IsPartOf (runStack config' s) (runStack config s) := by
    obtain ⟨specs, hread, picked⟩ := exists_forall₂_of_subperm hspecs hsub
    have each : (vs'.map fun v => runStack (alone v) s) =
        specs.map fun spec => settings.runOf [spec] s :=
      map_eq_of_forall₂ hread fun v spec hv hspec hread => congrFun (runStack_of_single hload htexts
        (halone v (hsub.subset hv)) hread (picked.subset hspec)) s
    rw [each, whole, runStack_of_subperm hload htexts h hread picked]
    exact ⟨(groups.of_subperm picked).isUnionOf, groups.isPartOf picked⟩
  refine ⟨(part listed config (.refl _) ⟨fun _ _ => rfl, hentries⟩).1, part, ?_⟩
  intro vs' config' hperm h
  obtain ⟨specs, hread, reordered⟩ := List.perm_comp_forall₂ hperm hspecs
  rw [whole, runStack_of_subperm hload htexts h hread reordered.subperm]
  exact groups.perm reordered

/-- A managed group beside a group in a stack, in either order. -/
theorem stack_isUnionOf_mixedEntries :
    (∀ v ∈ [managedEntry "a", bareEntry "a-nodes"],
      (runStack (configOfEntries [v]) exportingSite).answer.failure = none) ∧
    IsUnionOf (runStack (configOfEntries [managedEntry "a", bareEntry "a-nodes"]) exportingSite)
      [runStack (configOfEntries [managedEntry "a"]) exportingSite,
        runStack (configOfEntries [bareEntry "a-nodes"]) exportingSite] ∧
    (runStack (configOfEntries [bareEntry "a-nodes", managedEntry "a"]) exportingSite).trace.Perm
      (runStack (configOfEntries [managedEntry "a", bareEntry "a-nodes"]) exportingSite).trace := by
  have texts : ∀ spec ∈ [managedSpec "a", bareSpec "a-nodes"], spec.name.text?.isSome = true :=
    named_of_names ["a", "a-nodes"] rfl
  have alone : ∀ v ∈ [managedEntry "a", bareEntry "a-nodes"], StackSettings.ListsInstead
      (configOfEntries [managedEntry "a", bareEntry "a-nodes"]) [v] (configOfEntries [v]) := by
    simp only [List.forall_mem_cons]
    exact ⟨listsInstead_configOfEntries _ _ rfl, listsInstead_configOfEntries _ _ rfl,
      List.forall_mem_nil _⟩
  have done : ∀ v ∈ [managedEntry "a", bareEntry "a-nodes"],
      (runStack (configOfEntries [v]) exportingSite).answer.failure = none := by
    simp only [List.forall_mem_cons]
    exact ⟨managedEntry_done, bareEntry_done, List.forall_mem_nil _⟩
  obtain ⟨union, _, reordered⟩ := stack_isUnionOf _ exportingSite _ _ (fun v => configOfEntries [v])
    rfl load_mixedEntries texts (entriesOf_configOfEntries rfl) alone done
  exact ⟨done, union, (reordered [bareEntry "a-nodes", managedEntry "a"] _ (.swap _ _ _)
    (listsInstead_configOfEntries _ _ rfl)).1⟩

end FleetPlan
