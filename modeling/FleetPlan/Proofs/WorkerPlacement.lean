import FleetPlan.Proofs.PrivateNetworks
import FleetPlan.Proofs.SubnetLookups

/-!
Where workers are placed, for every directory of route tables and every list of subnets.

The table in effect and the failures in its place are relations of their own, which the lookup
decides. A scan of subnets either finds a table for each of them, or stops at the first that has none:
its failure is the only one reported, and nothing is asked about later subnets.
-/
namespace FleetPlan

/-- A route to an internet gateway for destinations that are not all reserved for private use. -/
def Route.LeadsOutside (r : Route) : Prop :=
  (∃ gateway, r.gateway = some gateway ∧ "igw-".toList <+: gateway.toList) ∧
    ¬DenotesPrivate r.destination

theorem Route.isPublic_iff (r : Route) : r.isPublic = true ↔ r.LeadsOutside := by
  have gateway : r.toInternetGateway = true ↔
      ∃ gateway, r.gateway = some gateway ∧ "igw-".toList <+: gateway.toList := by
    cases hg : r.gateway with
    | none => simp [toInternetGateway, hg]
    | some g => simp [toInternetGateway, hg]
  rw [isPublic, Bool.and_eq_true, gateway, Bool.not_eq_true', ← Bool.not_eq_true,
    isPrivateCidr_iff, LeadsOutside]

theorem hasPublicRoute_eq_false {routes : List Route} :
    hasPublicRoute routes = false ↔ ∀ r ∈ routes, ¬r.LeadsOutside := by
  simp only [hasPublicRoute, List.any_eq_false, Route.isPublic_iff]

namespace RouteDirectory

section InEffect

variable {τ : Type} {d : RouteDirectory τ} {subnet : Json}

/-- The table in effect for a subnet: its own, or else the first main table of its network. -/
inductive InEffect (d : RouteDirectory τ) (subnet : Json) : τ → Prop
  | own {t : τ} (own : d.tableOfSubnet subnet = .ok t) : InEffect d subnet t
  | main {reason network id : String} {others : List String} {t : τ}
      (none : d.tableOfSubnet subnet = .error reason)
      (inside : d.networkOfSubnet subnet = .ok network)
      (first : d.mainTables network = .ok (id :: others)) (found : d.table id = .ok t) :
      InEffect d subnet t

/-- Why a subnet without a table of its own has none in effect. -/
inductive Lacks (d : RouteDirectory τ) (subnet : Json) : RouteFailure → Prop
  | network {reason why : String} (none : d.tableOfSubnet subnet = .error reason)
      (lost : d.networkOfSubnet subnet = .error why) : Lacks d subnet (.unavailable subnet why)
  | mainTables {reason network why : String} (none : d.tableOfSubnet subnet = .error reason)
      (inside : d.networkOfSubnet subnet = .ok network)
      (lost : d.mainTables network = .error why) : Lacks d subnet (.unavailable subnet why)
  | mainTable {reason network : String} (none : d.tableOfSubnet subnet = .error reason)
      (inside : d.networkOfSubnet subnet = .ok network)
      (without : d.mainTables network = .ok []) : Lacks d subnet (.noMainTable subnet network)
  | table {reason network id why : String} {others : List String}
      (none : d.tableOfSubnet subnet = .error reason)
      (inside : d.networkOfSubnet subnet = .ok network)
      (first : d.mainTables network = .ok (id :: others)) (lost : d.table id = .error why) :
      Lacks d subnet (.unavailable subnet why)

/-- The questions about the main table of a network, up to the first without an answer. -/
def mainQuestions (d : RouteDirectory τ) (network : String) : List RouteQuery :=
  .mainTables network ::
    match d.mainTables network with
    | .ok (id :: _) => [.table id]
    | _ => []

/-- The questions that stand in for the one about a subnet's own table. -/
def fallback (d : RouteDirectory τ) (subnet : Json) : List RouteQuery :=
  .subnet subnet ::
    match d.networkOfSubnet subnet with
    | .ok network => d.mainQuestions network
    | .error _ => []

/-- The questions about a subnet: its own table, and the fallback only where that is not found. -/
def questions (d : RouteDirectory τ) (subnet : Json) : List RouteQuery :=
  .tableOfSubnet subnet ::
    match d.tableOfSubnet subnet with
    | .ok _ => []
    | .error _ => d.fallback subnet

theorem trace_mainTable (d : RouteDirectory τ) (subnet : Json) :
    (d.mainTable subnet).trace = d.fallback subnet := by
  cases inside : d.networkOfSubnet subnet with
  | error why => simp [mainTable, ask, fallback, inside]
  | ok network =>
      cases first : d.mainTables network with
      | error why => simp [mainTable, ask, fallback, mainQuestions, inside, first]
      | ok ids =>
          cases ids with
          | nil => simp [mainTable, ask, fallback, mainQuestions, inside, first]
          | cons id others =>
              cases found : d.table id <;>
                simp [mainTable, ask, fallback, mainQuestions, inside, first, found]

theorem trace_tableInEffect (d : RouteDirectory τ) (subnet : Json) :
    (d.tableInEffect subnet).trace = d.questions subnet := by
  cases own : d.tableOfSubnet subnet with
  | ok t => simp [tableInEffect, ask, questions, own]
  | error reason => simp [tableInEffect, ask, questions, own, trace_mainTable]

theorem answer_of_inEffect {t : τ} (h : d.InEffect subnet t) :
    (d.tableInEffect subnet).answer = .ok t := by
  cases h with
  | own own => simp [tableInEffect, ask, own]
  | main none inside first found =>
      simp [tableInEffect, mainTable, ask, none, inside, first, found]

theorem answer_of_lacks {f : RouteFailure} (h : d.Lacks subnet f) :
    (d.tableInEffect subnet).answer = .error f := by
  cases h with
  | network none lost => simp [tableInEffect, mainTable, ask, none, lost]
  | mainTables none inside lost => simp [tableInEffect, mainTable, ask, none, inside, lost]
  | mainTable none inside without =>
      simp [tableInEffect, mainTable, ask, none, inside, without]
  | table none inside first lost =>
      simp [tableInEffect, mainTable, ask, none, inside, first, lost]

/-- A subnet has a table in effect or lacks one for some reason. -/
theorem inEffect_or_lacks (d : RouteDirectory τ) (subnet : Json) :
    (∃ t, d.InEffect subnet t) ∨ ∃ f, d.Lacks subnet f := by
  cases own : d.tableOfSubnet subnet with
  | ok t => exact .inl ⟨t, .own own⟩
  | error reason =>
      cases inside : d.networkOfSubnet subnet with
      | error why => exact .inr ⟨_, .network own inside⟩
      | ok network =>
          cases first : d.mainTables network with
          | error why => exact .inr ⟨_, .mainTables own inside first⟩
          | ok ids =>
              cases ids with
              | nil => exact .inr ⟨_, .mainTable own inside first⟩
              | cons id others =>
                  cases found : d.table id with
                  | ok t => exact .inl ⟨t, .main own inside first found⟩
                  | error why => exact .inr ⟨_, .table own inside first found⟩

theorem inEffect_iff {t : τ} : d.InEffect subnet t ↔ (d.tableInEffect subnet).answer = .ok t := by
  refine ⟨answer_of_inEffect, fun h => ?_⟩
  rcases inEffect_or_lacks d subnet with ⟨t', served⟩ | ⟨f, lacking⟩
  · rw [answer_of_inEffect served] at h
    cases h
    exact served
  · rw [answer_of_lacks lacking] at h
    cases h

end InEffect

variable {d : RouteDirectory (List Route)} {subnet : Json}

/-- A subnet whose table in effect has no route that leads outside. -/
def IsSheltered (d : RouteDirectory (List Route)) (subnet : Json) : Prop :=
  ∃ routes, d.InEffect subnet routes ∧ ∀ r ∈ routes, ¬r.LeadsOutside

theorem isSheltered_iff {routes : List Route} (h : d.InEffect subnet routes) :
    d.IsSheltered subnet ↔ hasPublicRoute routes = false := by
  rw [hasPublicRoute_eq_false]
  refine ⟨?_, fun none => ⟨routes, h, none⟩⟩
  rintro ⟨routes', served, none⟩
  obtain rfl := Except.ok.inj ((answer_of_inEffect h).symm.trans (answer_of_inEffect served))
  exact none

instance (d : RouteDirectory (List Route)) : DecidablePred d.IsSheltered := fun subnet =>
  match h : (d.tableInEffect subnet).answer with
  | .ok _ => decidable_of_iff _ (isSheltered_iff (inEffect_iff.mpr h)).symm
  | .error _ =>
    .isFalse fun ⟨_, served, _⟩ => nomatch h.symm.trans (answer_of_inEffect served)

/-- The sheltered ones among some subnets in their order, or all of them when none is. -/
def shelteredOrAll (d : RouteDirectory (List Route)) (ids : List Json) : List Json :=
  if ∃ id ∈ ids, d.IsSheltered id then ids.filter fun id => d.IsSheltered id else ids

/-- A directory that answers nothing. -/
def refusing (reason : String) : RouteDirectory (List Route) where
  tableOfSubnet _ := .error reason
  networkOfSubnet _ := .error reason
  mainTables _ := .error reason
  table _ := .error reason

end RouteDirectory

section Scan

variable {σ γ ε : Type} {routesOf : σ → Traced γ (Except ε (List Route))}

/-- When all subnets have routes, each is classified by its own and none is left out. -/
theorem classifySubnets_of_routes {inside : σ → Bool} {ids : List σ}
    (h : ∀ id ∈ ids, ∃ routes, (routesOf id).answer = .ok routes ∧
      hasPublicRoute routes = !inside id) :
    classifySubnets routesOf ids =
      ⟨.ok ⟨ids.filter inside, ids.filter fun id => !inside id⟩,
        ids.flatMap fun id => (routesOf id).trace⟩ := by
  induction ids with
  | nil => rfl
  | cons id ids ih =>
      obtain ⟨⟨routes, hroutes, public_⟩, h⟩ := List.forall_mem_cons.mp h
      rw [classifySubnets_of_ok hroutes, ih h, public_]
      cases hid : inside id <;> simp [Classified.add, Except.map, hid]

/-- The first subnet without routes ends the scan, whatever stands behind it. -/
theorem classifySubnets_of_first_error {before after : List σ} {id : σ} {e : ε}
    (h : ∀ x ∈ before, ∃ routes, (routesOf x).answer = .ok routes)
    (he : (routesOf id).answer = .error e) :
    classifySubnets routesOf (before ++ id :: after) =
      ⟨.error e, (before ++ [id]).flatMap fun x => (routesOf x).trace⟩ := by
  induction before with
  | nil => simp [classifySubnets_of_error he]
  | cons x before ih =>
      obtain ⟨⟨routes, hroutes⟩, h⟩ := List.forall_mem_cons.mp h
      rw [List.cons_append, classifySubnets_of_ok hroutes, ih h]
      rfl

theorem Classified.chosen_filter (inside : σ → Bool) (ids : List σ) :
    Classified.chosen ⟨ids.filter inside, ids.filter fun id => !inside id⟩ =
      if ∃ id ∈ ids, inside id = true then ids.filter inside else ids := by
  unfold Classified.chosen
  split
  case isTrue none =>
    have outside : ∀ id ∈ ids, inside id = false := by simpa using none
    rw [if_neg (by simpa using outside), List.filter_eq_self]
    simpa using outside
  case isFalse some_ => rw [if_pos (by simpa using some_)]

end Scan

namespace Placement

/-- The directory that is seen through a provider; nothing is seen through one that does not exist. -/
def directory (p : Placement) (c : Cloud) : RouteDirectory (List Route) :=
  match p.server.bind Provider.failure with
  | some e => .refusing e.message
  | none => c.directory

/-- The calls that questions about routes lead to. -/
def routeCalls (p : Placement) (qs : List RouteQuery) : List Event :=
  match p.server.bind Provider.failure with
  | some _ => []
  | none => qs.map fun q => .asked (Plan.callOf p (.routing q))

variable (p : Placement) (s : Site) (subnet : Json)

theorem answer_routesInEffect :
    (Plan.routesInEffect p s subnet).answer =
      ((p.directory s.cloud).tableInEffect subnet).answer := by
  unfold Plan.routesInEffect directory
  cases p.server.bind Provider.failure <;> rfl

theorem trace_routesInEffect :
    (Plan.routesInEffect p s subnet).trace =
      p.routeCalls ((p.directory s.cloud).questions subnet) := by
  rw [← RouteDirectory.trace_tableInEffect]
  unfold Plan.routesInEffect directory routeCalls
  cases p.server.bind Provider.failure <;> rfl

end Placement

/-- How the choice among some subnets ends, and what is asked on the way. -/
structure PlacesWorkers (p : Placement) (d : RouteDirectory (List Route)) (ids : List Json)
    (made : Traced Event (Except Failure (List Json))) : Prop where
  /-- With a table for each, the sheltered subnets are chosen, or all when none is. -/
  chosen : (∀ id ∈ ids, ∃ routes, d.InEffect id routes) →
    made.answer = .ok (d.shelteredOrAll ids) ∧
      made.trace = ids.flatMap fun id => p.routeCalls (d.questions id)
  /-- The first subnet without a table ends the choice, and none behind it is asked about. -/
  stopped : ∀ before id after, ids = before ++ id :: after →
    (∀ x ∈ before, ∃ routes, d.InEffect x routes) → (¬∃ routes, d.InEffect id routes) →
    ∃ f, d.Lacks id f ∧ made.answer = .error (.lookup f.subject f.reason) ∧
      made.trace = (before ++ [id]).flatMap fun x => p.routeCalls (d.questions x)
  /-- More is asked about a subnet than its own table exactly if that is not found. -/
  fallback : ∀ id, (∃ q ∈ d.questions id, q ≠ .tableOfSubnet id) ↔
    ∃ reason, d.tableOfSubnet id = .error reason

theorem RouteDirectory.asks_more_iff {τ : Type} (d : RouteDirectory τ) (subnet : Json) :
    (∃ q ∈ d.questions subnet, q ≠ .tableOfSubnet subnet) ↔
      ∃ reason, d.tableOfSubnet subnet = .error reason := by
  cases own : d.tableOfSubnet subnet with
  | ok t => simp [questions, own]
  | error reason =>
      refine iff_of_true ⟨.subnet subnet, ?_, fun same => nomatch same⟩ ⟨reason, rfl⟩
      simp [questions, own, fallback]

theorem classifySubnets_of_inEffect {d : RouteDirectory (List Route)} {p : Placement} {s : Site}
    {ids : List Json}
    (answers : ∀ id, (Plan.routesInEffect p s id).answer = (d.tableInEffect id).answer)
    (served : ∀ id ∈ ids, ∃ routes, d.InEffect id routes) :
    classifySubnets (Plan.routesInEffect p s) ids =
      ⟨.ok ⟨ids.filter fun id => d.IsSheltered id, ids.filter fun id => !d.IsSheltered id⟩,
        ids.flatMap fun id => (Plan.routesInEffect p s id).trace⟩ := by
  apply classifySubnets_of_routes
  intro id hid
  obtain ⟨routes, inEffect⟩ := served id hid
  refine ⟨routes, (answers id).trans (RouteDirectory.answer_of_inEffect inEffect), ?_⟩
  simp [RouteDirectory.isSheltered_iff inEffect]

end FleetPlan
