import FleetPlan.Proofs.GroupInventory
import FleetPlan.Proofs.WorkerPlacement

/-!
The precedence among the subnets that are asked for and the three lists of a cluster.

A list counts as set when it is not null, so an empty list is set. What comes later in the order is
not looked at once something is set; in particular no route table is consulted for a group of one's
own that is given subnets, private subnets or public ones, and none for any managed group. Lists that
fail or are not lists are left out here.
-/
namespace FleetPlan

/-! Sources that are asked in turn, each of which may fail. -/

section Sources

variable {γ ε α : Type}

/-- A source that has no value to give. -/
def IsUnset (source : Unit → ExceptT ε (Traced γ) (Option α)) : Prop :=
  (source ()).run.answer = .ok none

/-- The traces of some sources, one behind the other. -/
def tracesOf (sources : List (Unit → ExceptT ε (Traced γ) (Option α))) : List γ :=
  sources.flatMap fun source => (source ()).run.trace

variable {source : Unit → ExceptT ε (Traced γ) (Option α)}
  {sources : List (Unit → ExceptT ε (Traced γ) (Option α))}

theorem firstSet_of_isUnset (h : IsUnset source) :
    (firstSet (source :: sources)).run =
      ⟨(firstSet sources).run.answer, (source ()).run.trace ++ (firstSet sources).run.trace⟩ := by
  unfold IsUnset at h
  rw [firstSet, ExceptT.run_bind]
  show Traced.bind _ _ = _
  simp only [Traced.bind, h]

theorem firstSet_of_not_isUnset (h : ¬IsUnset source) :
    (firstSet (source :: sources)).run = (source ()).run := by
  unfold IsUnset at h
  rw [firstSet, ExceptT.run_bind]
  generalize (source ()).run = asked at h ⊢
  obtain ⟨answer, trace⟩ := asked
  show Traced.bind _ _ = _
  rcases answer with e | found
  · simp [Traced.bind]
  · cases found with
    | none => exact absurd rfl h
    | some a => simp [Traced.bind]

/-- Sources are asked in order, up to the first that has a value or fails. -/
structure AsksInTurn (sources : List (Unit → ExceptT ε (Traced γ) (Option α))) : Prop where
  /-- The first source that is not unset decides, and none behind it is asked. -/
  settled : ∀ before source after, sources = before ++ source :: after →
    (∀ x ∈ before, IsUnset x) → ¬IsUnset source →
      (firstSet sources).run = ⟨(source ()).run.answer, tracesOf (before ++ [source])⟩
  unset : (∀ x ∈ sources, IsUnset x) → (firstSet sources).run = ⟨.ok none, tracesOf sources⟩

theorem firstSet_append {before : List (Unit → ExceptT ε (Traced γ) (Option α))}
    (h : ∀ x ∈ before, IsUnset x) :
    (firstSet (before ++ sources)).run =
      ⟨(firstSet sources).run.answer, tracesOf before ++ (firstSet sources).run.trace⟩ := by
  induction before with
  | nil => rfl
  | cons x before ih =>
      obtain ⟨unset, h⟩ := List.forall_mem_cons.mp h
      rw [List.cons_append, firstSet_of_isUnset unset, ih h]
      simp only [tracesOf, List.flatMap_cons, List.append_assoc]

theorem asksInTurn (sources : List (Unit → ExceptT ε (Traced γ) (Option α))) :
    AsksInTurn sources where
  settled := by
    rintro before source after rfl unset set
    rw [firstSet_append unset, firstSet_of_not_isUnset set]
    simp [tracesOf]
  unset unset := by
    rw [← List.append_nil sources, firstSet_append unset]
    simp [firstSet]

end Sources

/-! The lists of a cluster. -/

/-- Three lists of subnets, each of them set or not. -/
structure SubnetLists where
  every : Option (List Json)
  inside : Option (List Json)
  outside : Option (List Json)

namespace SubnetLists

/-- A list as data, null when it is not set. -/
def json (list : Option (List Json)) : Json := .ofOption (list.map .list)

/-- The lists that a cluster comes to, whether at hand or deferred. -/
structure AreOf (l : SubnetLists) (cluster : Deferred Cluster) : Prop where
  every : (cluster.part Cluster.subnets).outcome = .ok (json l.every)
  inside : (cluster.part Cluster.privateSubnets).outcome = .ok (json l.inside)
  outside : (cluster.part Cluster.publicSubnets).outcome = .ok (json l.outside)

theorem set?_json (list : Option (List Json)) : (json list).set? = list.map .list := by
  cases list <;> rfl

end SubnetLists

namespace Plan

variable {α : Type} {p : Placement} {s : Site}

/-- A choice among no subnets at all is made without a question. -/
theorem chooseAmong_json (list : Option (List Json)) :
    chooseAmong p (SubnetLists.json list) = do return .list (← chooseSubnets p (list.getD [])) := by
  have none : (do return .list (← chooseSubnets p []) : Plan Json) = Pure.pure (.list []) := rfl
  cases list with
  | none => exact none.symm
  | some ids =>
      cases ids with
      | nil => exact none.symm
      | cons id ids => rfl

/-- A plan whose deferred result has an outcome, and what it did. -/
def Comes (run : Traced Event (Except Failure (Deferred Json))) (outcome : Except Failure Json)
    (done : History) : Prop :=
  ∃ found, run = ⟨.ok found, done⟩ ∧ found.outcome = outcome

theorem Comes.trace {run : Traced Event (Except Failure (Deferred Json))}
    {outcome : Except Failure Json} {done : History} (h : Comes run outcome done) :
    run.trace = done := by
  obtain ⟨_, rfl, _⟩ := h
  rfl

theorem comes_whenKnown {d : Deferred α} {a : α} (h : d.outcome = .ok a)
    (f : α → Plan (Deferred Json)) :
    Comes (whenKnown d f s) ((f a s).answer.bind Deferred.outcome) (f a s).trace := by
  unfold whenKnown Comes
  simp only [h]
  generalize f a s = run
  obtain ⟨answer, trace⟩ := run
  cases answer with
  | error e => exact ⟨⟨.error e, d.sources⟩, rfl, rfl⟩
  | ok found => exact ⟨⟨found.outcome, d.sources ++ found.sources⟩, rfl, rfl⟩

end Plan

section Worker

variable {cluster : Deferred Cluster} {l : SubnetLists} {p : Placement} {s : Site}

/-- The subnets of a group of one's own that asks for none. -/
def SubnetLists.found (l : SubnetLists) (p : Placement) : Plan (List Json) :=
  match l.inside.or l.outside with
  | some ids => pure ids
  | none => Plan.chooseSubnets p (l.every.getD [])

theorem SubnetLists.found_of_set {ids : List Json} (h : l.inside.or l.outside = some ids) :
    l.found p = pure ids := by
  rw [found, h]

theorem SubnetLists.found_of_unset (h : l.inside.or l.outside = none) :
    l.found p = Plan.chooseSubnets p (l.every.getD []) := by
  rw [found, h]

theorem SubnetLists.firstSet_found (l : SubnetLists) (p : Placement) :
    (firstSet [fun _ => pure (json l.inside).set?, fun _ => pure (json l.outside).set?,
        fun _ => do return some (← Plan.chooseAmong p (json l.every))] : Plan (Option Json)) =
      l.found p >>= fun ids => pure (some (.list ids)) := by
  rw [Plan.firstSet_pure, Plan.firstSet_pure, set?_json, set?_json]
  unfold found
  cases l.inside with
  | some ids => exact (Plan.pure_bind _ _).symm
  | none =>
      cases l.outside with
      | some ids => exact (Plan.pure_bind _ _).symm
      | none =>
          simp only [Option.map_none, Option.none_or, firstSet, Plan.chooseAmong_json,
            Plan.bind_assoc, Plan.pure_bind]

theorem comes_workerSubnetIds (h : l.AreOf cluster) :
    Plan.Comes (workerSubnetIds none cluster p s) ((l.found p s).answer.map .list)
      (l.found p s).trace := by
  have known := Deferred.outcome_bind_of_ok h.inside fun inside => do
    let outside ← cluster.part Cluster.publicSubnets
    let every ← cluster.part Cluster.subnets
    return (inside, outside, every)
  rw [Deferred.outcome_bind_of_ok h.outside, Deferred.outcome_bind_of_ok h.every] at known
  have comes := Plan.comes_whenKnown (s := s) known fun lists => do
    let found ← firstSet [fun _ => pure lists.1.set?, fun _ => pure lists.2.1.set?,
      fun _ => do return some (← Plan.chooseAmong p lists.2.2)]
    return pure (.ofOption found)
  simp only [SubnetLists.firstSet_found, Plan.bind_pure_run] at comes
  -- A choice that fails is the failure of the subnets, not one of the plan.
  cases answer : (l.found p s).answer with
  | error e =>
      rw [answer] at comes
      exact comes
  | ok ids =>
      rw [answer] at comes
      exact comes

/-- A choice among some subnets begins with a question about the first of them. -/
theorem trace_chooseSubnets_ne_nil (hp : p.server.bind Provider.failure = none) (id : Json)
    (ids : List Json) : (Plan.chooseSubnets p (id :: ids) s).trace ≠ [] := by
  have asked : (Plan.routesInEffect p s id).trace ≠ [] := by
    rw [p.trace_routesInEffect, Placement.routeCalls, hp]
    exact List.cons_ne_nil _ _
  rw [Plan.chooseSubnets, trace_workerSubnets]
  cases answer : (Plan.routesInEffect p s id).answer with
  | error e =>
      rw [classifySubnets_of_error answer]
      exact asked
  | ok routes =>
      rw [classifySubnets_of_ok answer]
      exact List.append_ne_nil_of_left_ne_nil asked _

/-- Nothing can be asked through a provider that does not exist. -/
theorem chooseSubnets_of_failure {e : Failure} (hp : p.server.bind Provider.failure = some e)
    (id : Json) (ids : List Json) : Plan.chooseSubnets p (id :: ids) s =
      ⟨.error (RouteFailure.unavailable id e.message).failure, []⟩ := by
  have lost : Plan.routesInEffect p s id = ⟨.error (.unavailable id e.message), []⟩ := by
    rw [Plan.routesInEffect, hp]
    rfl
  have failed : (Plan.routesInEffect p s id).answer = .error (.unavailable id e.message) := by
    rw [lost]
  rw [Plan.chooseSubnets, answer_workerSubnets, trace_workerSubnets,
    classifySubnets_of_error failed, lost]
  rfl

theorem SubnetLists.isRouting_found :
    ∀ e ∈ (l.found p s).trace, ∃ q, e = .asked (Plan.callOf p (.routing q)) := by
  cases set : l.inside.or l.outside with
  | some ids =>
      rw [found_of_set set]
      exact List.forall_mem_nil _
  | none =>
      rw [found_of_unset set]
      exact Plan.isRouting_of_chooseSubnets

/-- Nothing is asked for a list that is set, be it empty, nor to choose among no subnets. -/
theorem SubnetLists.trace_found_ne_nil_iff (hp : p.server.bind Provider.failure = none) :
    (l.found p s).trace ≠ [] ↔ l.inside = none ∧ l.outside = none ∧ l.every.getD [] ≠ [] := by
  cases set : l.inside.or l.outside with
  | some ids =>
      rw [found_of_set set]
      refine iff_of_false (fun asked => asked rfl) ?_
      rintro ⟨inside, outside, _⟩
      rw [inside, outside] at set
      cases set
  | none =>
      rw [found_of_unset set]
      obtain ⟨inside, outside⟩ := Option.or_eq_none_iff.mp set
      cases l.every.getD [] with
      | nil => exact iff_of_false (fun asked => asked rfl) fun unset => unset.2.2 rfl
      | cons id ids =>
          refine iff_of_true (trace_chooseSubnets_ne_nil hp id ids) ?_
          exact ⟨inside, outside, List.cons_ne_nil _ _⟩

/-- The subnets of a group of one's own in their order of precedence. -/
structure FindsWorkerSubnets (asked : ListInput) (cluster : Deferred Cluster) (l : SubnetLists)
    (p : Placement) (s : Site) : Prop where
  given : asked.isGiven = true →
    workerSubnetIds asked.value? cluster p s = ⟨.ok asked.value, []⟩
  set : asked.isGiven = false → ∀ ids, l.inside.or l.outside = some ids →
    Plan.Comes (workerSubnetIds asked.value? cluster p s) (.ok (.list ids)) []
  chosen : asked.isGiven = false → l.inside = none → l.outside = none →
    Plan.Comes (workerSubnetIds asked.value? cluster p s)
      ((Plan.chooseSubnets p (l.every.getD []) s).answer.map .list)
      (Plan.chooseSubnets p (l.every.getD []) s).trace
  /-- Whatever happens on the way is a question about routes. -/
  routing : ∀ e ∈ (workerSubnetIds asked.value? cluster p s).trace,
    ∃ q, e = .asked (Plan.callOf p (.routing q))
  /-- Something is asked exactly if nothing is set and there are subnets to choose from. -/
  consults : p.server.bind Provider.failure = none →
    ((workerSubnetIds asked.value? cluster p s).trace ≠ [] ↔
      asked.isGiven = false ∧ l.inside = none ∧ l.outside = none ∧ l.every.getD [] ≠ [])
  /-- With a provider that does not exist, what would be asked fails instead. -/
  refused : ∀ e, p.server.bind Provider.failure = some e → asked.isGiven = false →
    l.inside = none → l.outside = none → ∀ id ids, l.every = some (id :: ids) →
      Plan.Comes (workerSubnetIds asked.value? cluster p s)
        (.error (RouteFailure.unavailable id e.message).failure) []

theorem ListInput.value?_of_not_isGiven {asked : ListInput} (h : asked.isGiven = false) :
    asked.value? = none := by
  rw [value?, h]
  rfl

theorem ListInput.value?_of_isGiven {asked : ListInput} (h : asked.isGiven = true) :
    asked.value? = some asked.value := by
  rw [value?, h]
  rfl

theorem findsWorkerSubnets (asked : ListInput) (h : l.AreOf cluster) :
    FindsWorkerSubnets asked cluster l p s := by
  cases given : asked.isGiven with
  | true =>
      have run : workerSubnetIds asked.value? cluster p s = ⟨.ok asked.value, []⟩ := by
        rw [ListInput.value?_of_isGiven given]
        rfl
      constructor
      case given => exact fun _ => run
      case set | chosen | refused => simp [given]
      case routing => simp [run]
      case consults => simp [run, given]
  | false =>
      have run := comes_workerSubnetIds (p := p) (s := s) h
      rw [← ListInput.value?_of_not_isGiven given] at run
      constructor
      case given => simp [given]
      case set =>
        intro _ ids set
        rw [SubnetLists.found_of_set set] at run
        exact run
      case chosen =>
        intro _ inside outside
        rwa [SubnetLists.found_of_unset (by rw [inside, outside, Option.none_or])] at run
      case routing =>
        rw [run.trace]
        exact SubnetLists.isRouting_found
      case consults =>
        intro hp
        rw [run.trace, SubnetLists.trace_found_ne_nil_iff hp, given]
        exact ⟨fun unset => ⟨rfl, unset⟩, And.right⟩
      case refused =>
        intro e hp _ inside outside id ids every
        rw [SubnetLists.found_of_unset (by rw [inside, outside, Option.none_or]), every,
          Option.getD_some, chooseSubnets_of_failure hp] at run
        exact run

end Worker

section Managed

variable {cluster : Deferred Cluster} {l : SubnetLists}

/-- The subnets of a managed group in their order of precedence. -/
structure FindsManagedSubnets (asked : ListInput) (cluster : Deferred Cluster)
    (l : SubnetLists) : Prop where
  given : asked.isGiven = true → managedSubnetIds asked.value? cluster = asked.value
  found : asked.isGiven = false → (managedSubnetIds asked.value? cluster).outcome =
    .ok (.list ((l.every.or (l.inside.or l.outside)).getD []))

theorem findsManagedSubnets (asked : ListInput) (h : l.AreOf cluster) :
    FindsManagedSubnets asked cluster l where
  given given := by
    rw [ListInput.value?_of_isGiven given]
    rfl
  found given := by
    rw [ListInput.value?_of_not_isGiven given, managedSubnetIds]
    rw [Deferred.outcome_bind_of_ok h.every, Deferred.outcome_bind_of_ok h.inside,
      Deferred.outcome_bind_of_ok h.outside]
    simp only [SubnetLists.set?_json, firstSet, Deferred.pure_bind]
    cases l.every with
    | some ids => rfl
    | none =>
        cases l.inside with
        | some ids => rfl
        | none => cases l.outside <;> rfl

end Managed

/-- What is to be known of the subnets of all groups on a cluster with some lists. -/
structure TakesSubnetsInTurn (cluster : Deferred Cluster) (l : SubnetLists) : Prop where
  worker : ∀ asked p s, FindsWorkerSubnets asked cluster l p s
  managed : ∀ asked, FindsManagedSubnets asked cluster l
  /-- A managed group is planned without a question, in either form. -/
  silent : ∀ name x o form s,
    History.calls ((GroupOptions.managed o).planAs name x form s).trace = []
  /-- Neither order asks more than it needs to, whatever the sources are. -/
  inTurn : ∀ (γ ε α : Type) (sources : List (Unit → ExceptT ε (Traced γ) (Option α))),
    AsksInTurn sources

/-- Groups take the subnets that come first in their order. -/
theorem takesSubnetsInTurn_of_areOf {cluster : Deferred Cluster} {l : SubnetLists}
    (h : l.AreOf cluster) : TakesSubnetsInTurn cluster l where
  worker asked _ _ := findsWorkerSubnets asked h
  managed asked := findsManagedSubnets asked h
  silent := calls_managed
  inTurn _ _ _ := asksInTurn

/-- A cluster whose lists are deferred as a whole or in places, the private one being null. -/
def listedCluster (outside : Setting) : Cluster :=
  { smallCluster with
    subnets := .sequence [.text "a", Setting.postponed (.text "b")]
    privateSubnets := .given (Setting.postponed .null)
    publicSubnets := .given (Setting.postponed outside) }

theorem takesSubnetsInTurn_of_areOf_listedCluster :
    TakesSubnetsInTurn (pure (listedCluster .null)) ⟨some [.text "a", .text "b"], none, none⟩ ∧
      TakesSubnetsInTurn (pure (listedCluster (.list [])))
        ⟨some [.text "a", .text "b"], none, some []⟩ :=
  ⟨takesSubnetsInTurn_of_areOf ⟨rfl, rfl, rfl⟩, takesSubnetsInTurn_of_areOf ⟨rfl, rfl, rfl⟩⟩

end FleetPlan
