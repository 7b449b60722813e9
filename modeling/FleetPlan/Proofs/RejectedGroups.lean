import FleetPlan.Proofs.StackRuns

/-!
Groups whose options are refused.

The check of its options comes before all else that is planned for a group, so a group that is refused
leaves no trace, in either form. In a stack it ends the plan, and what has happened and was exported by
then is what happens in the stack of the groups before it.
-/
namespace FleetPlan

open Plan

/-! A refused group by itself. -/

theorem Plan.bind_of_rejected {α : Type} {check : Except Failure Unit} {e : Failure}
    (h : check = .error e) (f : Unit → Plan α) (s : Site) :
    (Plan.ofExcept check >>= f) s = ⟨.error e, []⟩ := by
  rw [h]
  rfl

section Rejected

variable {name : String} {x : ClusterInput} {provider : Option Resource} {s : Site} {e : Failure}

theorem StackGroup.rejected {o : WorkerOptions} (h : o.check name = .error e)
    (placement : Placement) :
    create name x o placement s = ⟨.error e, []⟩ ∧ component name x o provider s = ⟨.error e, []⟩ :=
  ⟨bind_of_rejected h _ s, bind_of_rejected h _ s⟩

theorem TemplateGroup.rejected {o : TemplateOptions} (h : o.toWorkerOptions.check name = .error e)
    (placement : Placement) :
    create name x o placement s = ⟨.error e, []⟩ ∧ component name x o provider s = ⟨.error e, []⟩ :=
  ⟨bind_of_rejected h _ s, bind_of_rejected h _ s⟩

theorem ManagedGroup.rejected {o : ManagedOptions} (h : o.check name = .error e)
    (placement : Placement) :
    create name x o placement s = ⟨.error e, []⟩ ∧ component name x o provider s = ⟨.error e, []⟩ :=
  ⟨bind_of_rejected h _ s, bind_of_rejected h _ s⟩

end Rejected

namespace GroupSpec

variable {cluster : ClusterInput} {provider : Resource} {spec : GroupSpec} {specs rest : List GroupSpec}
  {s : Site} {e : Failure}

theorem plan_of_rejected (h : spec.check = .error e) :
    spec.plan cluster provider s = ⟨.error e, []⟩ := by
  obtain ⟨name, options⟩ := spec
  cases name with
  | text name =>
      have failed {α : Type} {x : Plan α} (hx : x s = ⟨.error e, []⟩)
          (f : α → Plan (Entries (Deferred Json))) : (x >>= f) s = ⟨.error e, []⟩ := by
        rw [bind_of_error (congrArg Traced.answer hx), hx]
      cases options with
      | stack o => exact failed (StackGroup.rejected h .top).2 _
      | template o => exact failed (TemplateGroup.rejected h .top).2 _
      | managed o => exact failed (ManagedGroup.rejected h .top).2 _
  | null | bool _ | number _ | list _ | map _ => exact bind_of_rejected h _ s
  | leaf a => cases a

/-- Behind a group that fails no other one is planned. -/
theorem planAll_append_of_failure (h : (planAll cluster provider specs s).answer.failure = some e) :
    planAll cluster provider (specs ++ rest) s = planAll cluster provider specs s := by
  induction specs generalizing s with
  | nil => cases h
  | cons spec specs ih =>
      rw [List.cons_append]
      cases hspec : (spec.plan cluster provider s).answer with
      | error _ => rw [planAll_cons_of_error hspec, planAll_cons_of_error hspec]
      | ok exports =>
          rw [planAll_cons_of_ok hspec] at h
          rw [planAll_cons_of_ok hspec, planAll_cons_of_ok hspec, ih h]

end GroupSpec

/-! A refused group in a stack. -/

/-- A stack does and exports what another one does and exports, and fails behind it unless the other
one has failed already. -/
def failingBehind (cut : Traced Event StackResult) (e : Failure) : Traced Event StackResult :=
  ⟨⟨cut.answer.exports, some (cut.answer.failure.getD e)⟩, cut.trace⟩

theorem GroupSpec.planAll_of_rejected (cluster : ClusterInput) (provider : Resource)
    {spec : GroupSpec} {e : Failure} (h : spec.check = .error e) (specs rest : List GroupSpec)
    (s : Site) :
    planAll cluster provider (specs ++ spec :: rest) s =
      failingBehind (planAll cluster provider specs s) e := by
  rw [failingBehind]
  cases hcut : (planAll cluster provider specs s).answer.failure with
  | none =>
      rw [planAll_append_of_error hcut (plan_of_rejected h), List.append_nil]
      rfl
  | some e' => rw [planAll_append_of_failure hcut, Option.getD_some, ← hcut]

theorem StackPlan.behind_of_failing {α : Type} {x : Plan α} {f g : α → StackPlan} {e : Failure}
    (h : ∀ a s, g a s = failingBehind (f a s) e) (s : Site) :
    behind x g s = failingBehind (behind x f s) e := by
  cases hx : (x s).answer with
  | ok a =>
      rw [behind_of_ok hx, behind_of_ok hx, h]
      rfl
  | error e' =>
      rw [behind_of_error hx, behind_of_error hx]
      rfl

theorem runStack_of_rejected {config cut : Entries String} {settings : StackSettings}
    {vs : List Json} {k : Nat} {spec : GroupSpec} {e : Failure}
    (hload : StackSettings.load config = .ok settings)
    (htexts : ∀ spec ∈ settings.groups, spec.name.text?.isSome = true)
    (hentries : GroupSpec.entriesOf (Entries.get? config "nodeGroups") = .ok vs)
    (hcut : StackSettings.ListsInstead config (vs.take k) cut)
    (hspec : settings.groups[k]? = some spec) (hrejected : spec.check = .error e) (s : Site) :
    runStack config s = failingBehind (runStack cut s) e := by
  obtain ⟨vs', hvs', hspecs⟩ := StackSettings.exists_entries hload
  obtain rfl : vs' = vs := Except.ok.inj (hvs'.symm.trans hentries)
  obtain ⟨names, hnames, hdistinct⟩ := StackSettings.exists_names hload htexts
  have loaded : StackSettings.load cut = .ok { settings with groups := settings.groups.take k } := by
    have taken : (settings.groups.take k).map GroupSpec.name = (names.take k).map .text := by
      rw [List.map_take, List.map_take, hnames]
    exact StackSettings.load_of_listsInstead hload hcut (List.forall₂_take k hspecs) taken
      (hdistinct.sublist (List.take_sublist k names))
  obtain ⟨hk, rfl⟩ := List.getElem?_eq_some_iff.1 hspec
  have parts := List.take_append_drop k settings.groups
  rw [List.drop_eq_getElem_cons hk] at parts
  rw [runStack_of_load hload, runStack_of_load loaded]
  refine StackPlan.behind_of_failing (fun base s => ?_) s
  have cutAt := GroupSpec.planAll_of_rejected (.descriptor base.cluster) base.provider hrejected
    (settings.groups.take k) (settings.groups.drop (k + 1)) s
  rwa [parts] at cutAt

/-- A group of a stack whose options are refused ends it behind the groups before, with the failure of
the check unless one of those has failed. By itself a refused group leaves no trace, in either form. -/
theorem stack_fails_behind (config cut : Entries String) (s : Site) (settings : StackSettings)
    (vs : List Json) (k : Nat) (spec : GroupSpec) (e : Failure)
    (hload : StackSettings.load config = .ok settings)
    (htexts : ∀ spec ∈ settings.groups, spec.name.text?.isSome = true)
    (hentries : GroupSpec.entriesOf (Entries.get? config "nodeGroups") = .ok vs)
    (hcut : StackSettings.ListsInstead config (vs.take k) cut)
    (hspec : settings.groups[k]? = some spec) (hrejected : spec.check = .error e) :
    runStack config s = failingBehind (runStack cut s) e ∧
      ((runStack cut s).answer.failure = none →
        (runStack config s).answer.failure = some e) ∧
      (∀ name x (o : WorkerOptions) placement provider here e, o.check name = .error e →
        StackGroup.create name x o placement here = ⟨.error e, []⟩ ∧
          StackGroup.component name x o provider here = ⟨.error e, []⟩) ∧
      (∀ name x (o : TemplateOptions) placement provider here e,
        o.toWorkerOptions.check name = .error e →
          TemplateGroup.create name x o placement here = ⟨.error e, []⟩ ∧
            TemplateGroup.component name x o provider here = ⟨.error e, []⟩) ∧
      ∀ name x (o : ManagedOptions) placement provider here e, o.check name = .error e →
        ManagedGroup.create name x o placement here = ⟨.error e, []⟩ ∧
          ManagedGroup.component name x o provider here = ⟨.error e, []⟩ := by
  have run := runStack_of_rejected hload htexts hentries hcut hspec hrejected s
  refine ⟨run, fun done => ?_, fun _ _ _ placement _ _ _ h => StackGroup.rejected h placement,
    fun _ _ _ placement _ _ _ h => TemplateGroup.rejected h placement,
    fun _ _ _ placement _ _ _ h => ManagedGroup.rejected h placement⟩
  rw [run, failingBehind, done, Option.getD_none]

/-- An entry for a managed group that asks for no role. -/
def rolelessEntry (name : String) : Json :=
  .map [("name", .text name), ("kind", .text "managed")]

def rolelessSpec (name : String) : GroupSpec :=
  ⟨.text name, .managed { smallManagedOptions "" with roleArn := .absent }⟩

/-- A group without a role between two that have one. -/
def rolelessEntries : List Json := [managedEntry "a", rolelessEntry "b", managedEntry "c"]

theorem load_rolelessEntries : StackSettings.load (configOfEntries rolelessEntries) =
    .ok (settingsOfSpecs [managedSpec "a", rolelessSpec "b", managedSpec "c"]) :=
  load_configOfEntries ["a", "b", "c"] rfl (.cons rfl (.cons rfl (.cons rfl .nil))) rfl
    (by decide)

theorem stack_fails_behind_rolelessEntries :
    (∀ spec ∈ [managedSpec "a", rolelessSpec "b", managedSpec "c"],
      spec.name.text?.isSome = true) ∧
    StackSettings.ListsInstead (configOfEntries rolelessEntries) (rolelessEntries.take 1)
      (configOfEntries [managedEntry "a"]) ∧
    (rolelessSpec "b").check = .error (.missing ["node_role", "node_role_arn"]
      "An IAM role, or role ARN must be provided to create managed node group b") ∧
    (runStack (configOfEntries rolelessEntries) exportingSite).answer.failure =
      some (.missing ["node_role", "node_role_arn"]
        "An IAM role, or role ARN must be provided to create managed node group b") := by
  have texts : ∀ spec ∈ [managedSpec "a", rolelessSpec "b", managedSpec "c"],
      spec.name.text?.isSome = true := named_of_names ["a", "b", "c"] rfl
  have cut : StackSettings.ListsInstead (configOfEntries rolelessEntries) (rolelessEntries.take 1)
      (configOfEntries [managedEntry "a"]) :=
    listsInstead_configOfEntries rolelessEntries [managedEntry "a"] rfl
  have rejected : (rolelessSpec "b").check = .error (.missing ["node_role", "node_role_arn"]
      "An IAM role, or role ARN must be provided to create managed node group b") := rfl
  refine ⟨texts, cut, rejected, ?_⟩
  exact (stack_fails_behind _ _ exportingSite _ rolelessEntries 1 (rolelessSpec "b") _
    load_rolelessEntries texts (entriesOf_configOfEntries rfl) cut rfl rejected).2.1
      managedEntry_done

end FleetPlan
