import FleetPlan.Request.Acceptance
import Mathlib.Logic.Basic
import Mathlib.Tactic.SplitIfs

/-!
The rules that the options of a group of one's own have to keep, and which of them is reported.

Each rule is said by itself, whatever order the rules are tested in. The options are accepted exactly
if they break none of the rules, and otherwise the first rule that they break is reported, with all
the settings that an override leaves without effect.
-/
namespace FleetPlan

/-- A setting of the bootstrap that is generated when nothing overrides it. -/
inductive BootstrapSetting where
  | userScript
  | labels
  | taints
  | agentArgs
  | bootstrapArgs
  deriving DecidableEq, Repr

namespace BootstrapSetting

def all : List BootstrapSetting := [userScript, labels, taints, agentArgs, bootstrapArgs]

def code : BootstrapSetting → String
  | userScript => "node_user_data"
  | labels => "labels"
  | taints => "taints"
  | agentArgs => "kubelet_extra_args"
  | bootstrapArgs => "bootstrap_extra_args"

/-- What is absent or empty is not given; what is deferred is, whatever it turns out to be. -/
def IsGiven (u : Startup) : BootstrapSetting → Prop
  | userScript => u.userScript.isTruthy = true
  | labels => u.agent.labels.getD [] ≠ []
  | taints => u.agent.taints.getD [] ≠ []
  | agentArgs => u.agent.extraArgs.getD "" ≠ ""
  | bootstrapArgs => u.bootstrapArgs.getD "" ≠ ""

instance (u : Startup) : DecidablePred (IsGiven u)
  | userScript => inferInstanceAs (Decidable (_ = _))
  | labels | taints | agentArgs | bootstrapArgs => inferInstanceAs (Decidable (_ ≠ _))

/-- The settings that are given, in their order. -/
def given (u : Startup) : List BootstrapSetting := all.filter fun x => x.IsGiven u

theorem mem_given {u : Startup} {x : BootstrapSetting} : x ∈ given u ↔ x.IsGiven u := by
  cases x <;> simp [given, all]

end BootstrapSetting

theorem optionalIsTruthy_eq (s : Option String) : optionalIsTruthy s = decide (s.getD "" ≠ "") := by
  cases s with
  | none => rfl
  | some s => by_cases h : s = "" <;> simp [optionalIsTruthy, h]

/-- What an override would leave without effect are the settings that are given. -/
theorem WorkerOptions.overridden_eq (o : WorkerOptions) :
    o.overridden = (BootstrapSetting.given o.startup).map BootstrapSetting.code := by
  have entries : [("node_user_data", o.startup.userScript.isTruthy),
      ("labels", !(o.startup.agent.labels.getD []).isEmpty),
      ("taints", !(o.startup.agent.taints.getD []).isEmpty),
      ("kubelet_extra_args", optionalIsTruthy o.startup.agent.extraArgs),
      ("bootstrap_extra_args", optionalIsTruthy o.startup.bootstrapArgs)] =
      BootstrapSetting.all.map fun x => (x.code, decide (x.IsGiven o.startup)) := by
    have nonempty {α : Type} [DecidableEq α] (xs : List α) : (!xs.isEmpty) = decide (xs ≠ []) := by
      cases xs <;> simp
    rw [← @Bool.decide_eq_true o.startup.userScript.isTruthy, nonempty, nonempty,
      optionalIsTruthy_eq, optionalIsTruthy_eq]
    rfl
  rw [overridden, entries, List.filter_map, List.map_map]
  rfl

namespace RootVolume

variable {v : RootVolume} {e : Failure}

/-- Operations are provisioned for one type of volume, as a positive whole number, and for no
other. -/
def IopsFit (v : RootVolume) : Prop :=
  if v.type = .io1 then isProvisioned v.iops = true else v.iops = none

/-- A throughput is provisioned for another type, and for no other. -/
def ThroughputFits (v : RootVolume) : Prop :=
  if v.type = .gp3 then isProvisioned v.throughput = true else v.throughput = none

structure IsSound (v : RootVolume) : Prop where
  iops : v.IopsFit
  throughput : v.ThroughputFits

/-- A failure that names the amount at fault beside the type, the operations before the
throughput. -/
inductive IsBlamedBy (v : RootVolume) : Failure → Prop
  | iops (reason : String) : ¬ v.IopsFit → IsBlamedBy v (.conflict iopsFields reason)
  | throughput (reason : String) : v.IopsFit → ¬ v.ThroughputFits →
      IsBlamedBy v (.conflict throughputFields reason)

/-- An amount that is wanted has to be provisioned, and any other must not be given. -/
theorem isProvisioned_iff {p : Prop} [Decidable p] (x : Option Number) :
    (if p then isProvisioned x = true else x = none) ↔
      ¬ (x.isSome ∧ ¬ p) ∧ ¬ (p ∧ isProvisioned x = false) := by
  by_cases h : p <;> simp [h]

theorem isBlamedBy_of_check (h : v.check = .error e) : v.IsBlamedBy e := by
  unfold check at h
  split_ifs at h with given missing given' missing'
  · cases h
    exact .iops _ fun fit => ((isProvisioned_iff _).mp fit).1 given
  · cases h
    exact .iops _ fun fit => ((isProvisioned_iff _).mp fit).2 missing
  all_goals have fit : v.IopsFit := (isProvisioned_iff _).mpr ⟨given, missing⟩
  · cases h
    exact .throughput _ fit fun fit => ((isProvisioned_iff _).mp fit).1 given'
  · cases h
    exact .throughput _ fit fun fit => ((isProvisioned_iff _).mp fit).2 missing'

theorem check_eq_ok : v.check = .ok () ↔ v.IsSound := by
  constructor
  · intro h
    unfold check at h
    split_ifs at h with given missing given' missing'
    exact ⟨(isProvisioned_iff _).mpr ⟨given, missing⟩, (isProvisioned_iff _).mpr ⟨given', missing'⟩⟩
  · intro sound
    cases h : v.check with
    | ok u => rfl
    | error e =>
        cases isBlamedBy_of_check h with
        | iops _ fault => exact absurd sound.iops fault
        | throughput _ _ fault => exact absurd sound.throughput fault

end RootVolume

/-- The rules, in the order in which a broken one is reported. -/
inductive OptionRule where
  | singleKey
  | singleImage
  | wholeOverride
  | ingress
  | volume
  deriving DecidableEq, Repr

namespace OptionRule

/-- A rule with a lower rank is reported first. -/
def rank : OptionRule → Nat
  | singleKey => 0
  | singleImage => 1
  | wholeOverride => 2
  | ingress => 3
  | volume => 4

def IsBroken (o : WorkerOptions) : OptionRule → Prop
  | singleKey => o.access.publicKey.isTruthy = true ∧ o.access.keyName.isTruthy = true
  | singleImage => o.machine.image.isTruthy = true ∧ o.machine.gpu = true
  | wholeOverride => o.startup.override.isTruthy = true ∧
      ∃ x : BootstrapSetting, x.IsGiven o.startup
  | ingress => o.firewall.group ≠ none ∧ o.firewall.ingressRule = none
  | volume => ¬ o.volume.IsSound

/-- A broken rule, while all rules before it are kept. -/
def IsFirstBroken (o : WorkerOptions) (r : OptionRule) : Prop :=
  r.IsBroken o ∧ ∀ r' : OptionRule, r'.rank < r.rank → ¬ r'.IsBroken o

/-- How a broken rule is reported. -/
def Reports (name : String) (o : WorkerOptions) (e : Failure) : OptionRule → Prop
  | singleKey => e = .conflict ["node_public_key", "key_name"]
      "mutually exclusive. Choose a single approach"
  | singleImage => e = .conflict ["ami_id", "gpu"] "mutually exclusive"
  | wholeOverride => e = .conflict
      ("node_user_data_override" ::
        (BootstrapSetting.given o.startup).map BootstrapSetting.code)
      ("a user data override must perform the whole bootstrap and cannot be combined " ++
        "with generated user data settings")
  | ingress => e = .missing ["cluster_ingress_rule"]
      ("invalid args for node group " ++ name ++ ", cluster_ingress_rule is required " ++
        "when node_security_group is manually specified")
  | volume => o.volume.check = .error e ∧ o.volume.IsBlamedBy e

variable {name : String} {o : WorkerOptions} {r r' : OptionRule} {e e' : Failure}

theorem rank_inj (h : r.rank = r'.rank) : r = r' := by
  cases r <;> cases r' <;> simp [rank] at h ⊢

/-- Once a rule is seen to be kept, the next one may be looked at. -/
theorem kept_upTo (below : ∀ r' : OptionRule, r'.rank < r.rank → ¬ r'.IsBroken o)
    (h : ¬ r.IsBroken o) : ∀ r' : OptionRule, r'.rank < r.rank + 1 → ¬ r'.IsBroken o := by
  intro r' hr
  rcases Nat.lt_succ_iff_lt_or_eq.mp hr with before | same
  · exact below r' before
  · exact rank_inj same ▸ h

theorem IsFirstBroken.unique (h : r.IsFirstBroken o) (h' : r'.IsFirstBroken o) : r = r' := by
  rcases Nat.lt_trichotomy r.rank r'.rank with before | same | behind
  · exact absurd h.1 (h'.2 r before)
  · exact rank_inj same
  · exact absurd h'.1 (h.2 r' behind)

theorem Reports.unique (h : r.Reports name o e) (h' : r.Reports name o e') : e = e' := by
  cases r with
  | singleKey | singleImage | wholeOverride | ingress => exact h.trans (Eq.symm h')
  | volume => exact Except.error.inj (h.1.symm.trans h'.1)

end OptionRule

namespace WorkerOptions

variable {name : String} {o : WorkerOptions}

theorem overridden_ne_nil : o.overridden ≠ [] ↔ ∃ x : BootstrapSetting, x.IsGiven o.startup := by
  rw [overridden_eq, ne_eq, List.map_eq_nil_iff, List.eq_nil_iff_forall_not_mem]
  simp only [BootstrapSetting.mem_given, not_forall, not_not]

/-- A verdict that reports the first broken rule, or keeps all but the volume's and leaves that to
the volume. -/
def IsJudgedBy (name : String) (o : WorkerOptions) (verdict : Except Failure Unit) : Prop :=
  (∃ (r : OptionRule) (e : Failure), r.IsFirstBroken o ∧ r.Reports name o e ∧ verdict = .error e) ∨
    (∀ r : OptionRule, r.rank < OptionRule.volume.rank → ¬ r.IsBroken o) ∧
      verdict = o.volume.check

/-- One rule is tested once all rules before it are seen to be kept. -/
theorem isJudgedBy_ite {r : OptionRule} {broken : Prop} [Decidable broken] {e : Failure}
    {verdict : Except Failure Unit}
    (below : ∀ r' : OptionRule, r'.rank < r.rank → ¬ r'.IsBroken o)
    (hbroken : r.IsBroken o ↔ broken) (hreports : r.Reports name o e)
    (rest : (∀ r' : OptionRule, r'.rank < r.rank + 1 → ¬ r'.IsBroken o) →
      o.IsJudgedBy name verdict) :
    o.IsJudgedBy name (if broken then .error e else verdict) := by
  by_cases h : broken
  · rw [if_pos h]
    exact .inl ⟨r, e, ⟨hbroken.mpr h, below⟩, hreports, rfl⟩
  · rw [if_neg h]
    exact rest (OptionRule.kept_upTo below fun isBroken => h (hbroken.mp isBroken))

theorem isJudgedBy_check (name : String) (o : WorkerOptions) :
    o.IsJudgedBy name (o.check name) := by
  have start : ∀ r : OptionRule, r.rank < OptionRule.singleKey.rank → ¬ r.IsBroken o :=
    fun _ hr => absurd hr (Nat.not_lt_zero _)
  refine isJudgedBy_ite (r := .singleKey) start Iff.rfl rfl fun kept => ?_
  refine isJudgedBy_ite (r := .singleImage) kept Iff.rfl rfl fun kept => ?_
  refine isJudgedBy_ite (r := .wholeOverride) kept ?_ ?_ fun kept => ?_
  · exact and_congr_right' overridden_ne_nil.symm
  · rw [overridden_eq]
    rfl
  refine isJudgedBy_ite (r := .ingress) kept ?_ rfl fun kept => ?_
  · exact and_congr Option.isSome_iff_ne_none.symm Option.isNone_iff_eq_none.symm
  · exact .inr ⟨kept, rfl⟩

/-- Options are accepted exactly if they keep every rule. -/
theorem check_eq_ok : o.check name = .ok () ↔ ∀ r : OptionRule, ¬ r.IsBroken o := by
  rcases isJudgedBy_check name o with ⟨r, e, first, _, rejected⟩ | ⟨kept, last⟩
  · rw [rejected]
    refine ⟨fun h => ?_, fun all => absurd first.1 (all r)⟩
    cases h
  · rw [last, RootVolume.check_eq_ok]
    constructor
    · intro sound r
      cases r with
      | volume => exact not_not_intro sound
      | singleKey | singleImage | wholeOverride | ingress => exact kept _ (by decide)
    · exact fun all => not_not.mp (all .volume)

/-- Options that are not accepted are reported by the first rule that they break. -/
theorem check_eq_error {e : Failure} :
    o.check name = .error e ↔ ∃ r : OptionRule, r.IsFirstBroken o ∧ r.Reports name o e := by
  have exists_ {e : Failure} (h : o.check name = .error e) :
      ∃ r : OptionRule, r.IsFirstBroken o ∧ r.Reports name o e := by
    rcases isJudgedBy_check name o with ⟨r, e', first, reports, rejected⟩ | ⟨kept, last⟩
    · obtain rfl := Except.error.inj (h.symm.trans rejected)
      exact ⟨r, first, reports⟩
    · have failed : o.volume.check = .error e := last.symm.trans h
      refine ⟨.volume, ⟨fun sound => ?_, kept⟩, failed, RootVolume.isBlamedBy_of_check failed⟩
      rw [RootVolume.check_eq_ok.mpr sound] at failed
      cases failed
  refine ⟨exists_, fun ⟨r, first, reports⟩ => ?_⟩
  cases h : o.check name with
  | ok u => exact absurd first.1 (check_eq_ok.mp h r)
  | error e' =>
      obtain ⟨r', first', reports'⟩ := exists_ h
      obtain rfl := first.unique first'
      rw [reports.unique reports']

end WorkerOptions
end FleetPlan
