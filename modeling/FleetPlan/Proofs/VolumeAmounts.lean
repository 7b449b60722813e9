import FleetPlan.Proofs.KeptSettings
import FleetPlan.Proofs.NearestDoubles

/-!
The amounts that a root volume is provisioned with, from the options to the registered disk.

What the check of the options accepts is said of the amounts as numbers, not-a-number and infinities
among them. An accepted amount is handed over as the integer that it is, by both sorts of groups; it
travels as a double, so what is registered is a nearest double, and the amount itself where a double
can hold it.
-/
namespace FleetPlan

open Plan Deferred

namespace Number

/-- The number that is given, unless it is none or without end. -/
def value? : Number → Option Rat
  | int n => some n
  | float x => x.value?

/-- An amount is given, and is the positive whole number `n`. -/
def IsAmount (x : Option Number) (n : Nat) : Prop := 0 < n ∧ x.bind value? = some (n : Rat)

/-- An amount is given where it is wanted, as a positive whole number, and nowhere else. -/
structure Suits (wanted : Prop) (x : Option Number) : Prop where
  given : wanted → ∃ n, IsAmount x n
  absent : ¬ wanted → x = none

/-- An amount is handed over as an integer: as the one that it is, or as none if none is given. -/
structure Converts (x : Option Number) (i : Option Int) : Prop where
  given : ∀ n : Nat, IsAmount x n → i = some (n : Int)
  absent : x = none → i = none

/-- An amount arrives where it is wanted and nowhere else. It arrives as a positive integer that is a
double, to which no double is nearer; as itself, if a double can hold it. -/
structure Arrives (wanted : Prop) (x : Option Number) (w : Json) : Prop where
  given : w ≠ .null ↔ wanted
  nearest : ∀ n, IsAmount x n → ∃ (d : Double) (p : Nat),
    w = .float d ∧ 0 < p ∧ d.IsNearest n p
  same : ∀ n : Nat, IsAmount x n → Double.Holds n → ∃ d, w = .float d ∧ d.value? = some (n : Rat)

variable {x : Option Number} {n : Nat} {i : Option Int} {wanted : Prop}

theorem isPositiveWhole_iff {y : Number} :
    y.isPositiveWhole = true ↔ ∃ n : Nat, 0 < n ∧ y.value? = some (n : Rat) := by
  have whole {k : Int} (hk : 0 < k) : ∃ n : Nat, 0 < n ∧ (k : Rat) = n :=
    ⟨k.toNat, by omega, by exact_mod_cast (Int.toNat_of_nonneg hk.le).symm⟩
  cases y with
  | int k =>
      constructor
      · intro h
        obtain ⟨n, hn, same⟩ := whole (of_decide_eq_true h)
        exact ⟨n, hn, congrArg some same⟩
      · rintro ⟨n, hn, value⟩
        have same : (k : Rat) = n := Option.some.inj value
        exact decide_eq_true (by exact_mod_cast same ▸ Nat.cast_pos.mpr hn)
  | float d =>
      rw [isPositiveWhole, Bool.and_eq_true]
      constructor
      · rintro ⟨positive, isWhole⟩
        obtain ⟨k, value⟩ := Double.exists_value?_of_isWhole isWhole
        have hk : 0 < k := by exact_mod_cast (Double.isPositive_iff value).mp positive
        obtain ⟨n, hn, same⟩ := whole hk
        exact ⟨n, hn, value.trans (congrArg some same)⟩
      · rintro ⟨n, hn, value⟩
        refine ⟨(Double.isPositive_iff value).mpr (Nat.cast_pos.mpr hn), ?_⟩
        exact (Double.isWhole_of_value? (n := n) (by exact_mod_cast value)).1

theorem toInt_of_value? {y : Number} {k : Int} (h : y.value? = some (k : Rat)) :
    y.toInt = .ok k := by
  cases y with
  | int m =>
      have same : m = k := by exact_mod_cast Option.some.inj h
      rw [toInt, same]
  | float d =>
      cases d with
      | nan | infinite _ => cases h
      | finite negative m e =>
          have value : (Double.finite negative m e).value? = some (k : Rat) := h
          have truncated := (Double.isWhole_of_value? value).2
          simp only [toInt, truncated]

theorem toInt?_of_isAmount (h : IsAmount x n) : toInt? x = .ok (some (n : Int)) := by
  obtain ⟨y, rfl, value⟩ := Option.bind_eq_some_iff.mp h.2
  rw [toInt?, toInt_of_value? (k := n) (by exact_mod_cast value)]
  rfl

theorem converts_of_toInt? (h : toInt? x = .ok i) : Converts x i where
  given n amount := Except.ok.inj (h.symm.trans (toInt?_of_isAmount amount))
  absent none := by
    subst none
    exact (Except.ok.inj h).symm

/-- An amount that can be sent arrives as it has to. -/
theorem arrives_of_suits (suits : Suits wanted x) (h : toInt? x = .ok i)
    (sent : Json.isSendable ((i.map Value.int).getD .null) = true) :
    Arrives wanted x (Json.wire ((i.map Value.int).getD .null)) := by
  have converts := converts_of_toInt? h
  have sign (n : Nat) : decide ((n : Int) < 0) = false := decide_eq_false (by omega)
  have travels {n : Nat} (amount : IsAmount x n) :
      Json.wire ((i.map Value.int).getD .null) = .float (Double.ofRatio false n 1) := by
    rw [converts.given n amount, Option.map_some, Option.getD_some, Json.wire, Json.wireNumber,
      sign, Int.natAbs_natCast]
  have nearest {n : Nat} (amount : IsAmount x n) :
      ∃ p : Nat, 0 < p ∧ (Double.ofRatio false n 1).IsNearest n p := by
    rw [converts.given n amount, Option.map_some, Option.getD_some, Json.isSendable,
      Json.fitsWire, sign, Int.natAbs_natCast, Bool.not_eq_true'] at sent
    exact Double.exists_isNearest amount.1 sent
  constructor
  case given =>
    refine ⟨fun found => ?_, fun want => ?_⟩
    · by_contra unwanted
      rw [converts.absent (suits.absent unwanted)] at found
      exact found Json.wire_null
    · obtain ⟨n, amount⟩ := suits.given want
      rw [travels amount]
      intro none
      cases none
  case nearest =>
    intro n amount
    obtain ⟨p, hp, isNearest⟩ := nearest amount
    exact ⟨_, p, travels amount, hp, isNearest⟩
  case same =>
    intro n amount held
    obtain ⟨p, _, isNearest⟩ := nearest amount
    exact ⟨_, travels amount, isNearest.eq held ▸ isNearest.value⟩

end Number

namespace RootVolume

open Number

variable {v : RootVolume} {e : Failure}

theorem isProvisioned_eq_true (x : Option Number) :
    isProvisioned x = true ↔ ∃ n, IsAmount x n := by
  cases x with
  | none =>
      refine iff_of_false Bool.false_ne_true ?_
      rintro ⟨n, _, none⟩
      cases none
  | some y => exact isPositiveWhole_iff

theorem suits_iff {wanted : Prop} [Decidable wanted] (x : Option Number) :
    (if wanted then isProvisioned x = true else x = none) ↔ Suits wanted x := by
  rw [isProvisioned_eq_true]
  by_cases h : wanted
  · rw [if_pos h]
    exact ⟨fun given => ⟨fun _ => given, fun none => absurd h none⟩, fun suits => suits.given h⟩
  · rw [if_neg h]
    exact ⟨fun none => ⟨fun want => absurd want h, fun _ => none⟩, fun suits => suits.absent h⟩

theorem iopsFit_iff : v.IopsFit ↔ Suits (v.type = .io1) v.iops := suits_iff v.iops

theorem throughputFits_iff : v.ThroughputFits ↔ Suits (v.type = .gp3) v.throughput :=
  suits_iff v.throughput

end RootVolume

namespace Draft

variable {d : Draft} {past : History} {r : Registration}

/-- What is registered could be sent. -/
theorem IsWellKeyed.isSendable (hd : d.IsWellKeyed) (h : d.settle past = .ok r) (key : String)
    {x : Deferred Json} (hx : Entries.get? d.properties key = some x) {v : Json}
    (hv : x.outcome = .ok v) : v.isSendable = true := by
  obtain ⟨qs, hqs, sent⟩ := isSendable_of_settle h
  have unwritten : (d.settledValues qs).filter (fun e => !d.written.contains e.1) =
      d.settledValues qs := by
    simp [hd.unwritten]
  rw [Draft.isSendable, unwritten, settledValues, ResourceRef.spelled,
    Shape.membersSendable_spell, Json.entriesSendable_eq_all, List.all_eq_true] at sent
  obtain ⟨w, hw, kept⟩ := mem_of_settleProperties hqs (Entries.mem_of_get? hx)
  obtain rfl := Except.ok.inj (hv.symm.trans hw)
  cases hnull : v.isNull with
  | true => cases v <;> first | rfl | cases hnull
  | false => exact sent _ (List.mem_map_of_mem (kept hnull))

end Draft

theorem Json.isSendable_member {v : Json} (h : isSendable v = true) (key : String) :
    isSendable (v.member key) = true := by
  cases v with
  | map es =>
      rw [isSendable, entriesSendable_eq_all, List.all_eq_true] at h
      show isSendable (.ofOption (Entries.get? es key)) = true
      cases found : Entries.get? es key with
      | none => rfl
      | some w => exact h _ (Entries.mem_of_get? found)
  | null | bool _ | number _ | text _ | list _ => rfl
  | leaf a => cases a

section Described

variable {name : String} {placement : Placement} {p : Preparation} {past : History}
  {m : Registration} {script : Deferred Json}

/-- A disk is what is sent of a root volume, its amounts being converted. -/
structure RootVolume.IsSentAs (v : RootVolume) (disk : Json) (iops throughput : Option Int) :
    Prop where
  operations : Number.toInt? v.iops = .ok iops
  rate : Number.toInt? v.throughput = .ok throughput
  sent : ∃ flag, disk = Json.wire (.map (v.entries flag iops throughput)) ∧
    Json.isSendable (.map (v.entries flag iops throughput)) = true

theorem StackGroup.disk_of_settle {o : WorkerOptions} {root : Json}
    (hroot : rootDeviceProperty o.volume = .ok root)
    (h : (configurationDraft name o p placement root script).settle past = .ok m) :
    ∃ iops throughput, o.volume.IsSentAs (m.input "rootBlockDevice") iops throughput := by
  obtain ⟨iops, throughput, hiops, hthroughput, rfl⟩ := rootDeviceProperty_eq_ok hroot
  obtain ⟨_, known, sent⟩ := carries_configuration h "rootBlockDevice" rfl
  have sendable := (isWellKeyed_configurationDraft p _ script).isSendable h "rootBlockDevice" rfl
    known
  cases known
  exact ⟨iops, throughput, hiops, hthroughput, .bool, sent, sendable⟩

theorem TemplateGroup.disk_of_settle {o : TemplateOptions} {root device : Deferred Json}
    (hdevice : blockDevice o.volume root = .ok device)
    (h : (templateDraft name o p placement device script).settle past = .ok m) :
    ∃ mapping iops throughput, m.input "blockDeviceMappings" = .list [mapping] ∧
      o.volume.IsSentAs (mapping.member "ebs") iops throughput := by
  obtain ⟨mapping, iops, throughput, hiops, hthroughput, mappings, disk⟩ :=
    mappings_of_settle hdevice h
  have keyed : (templateDraft name o p placement device script).IsWellKeyed :=
    isWellKeyed_templateDraft p device script
  obtain ⟨w, known, _⟩ := keyed.exists_input h "blockDeviceMappings" rfl
  have sendable := keyed.isSendable h "blockDeviceMappings" rfl known
  obtain ⟨value, hvalue, known⟩ := outcome_bind_eq_ok.1 known
  cases known
  obtain ⟨label, iops', throughput', _, hiops', hthroughput', rfl⟩ :=
    blockDevice_eq_ok hdevice hvalue
  obtain rfl := Except.ok.inj (hiops.symm.trans hiops')
  obtain rfl := Except.ok.inj (hthroughput.symm.trans hthroughput')
  rw [Json.isSendable, Json.areSendable, Bool.and_eq_true] at sendable
  exact ⟨mapping, iops, throughput, mappings, hiops, hthroughput, flagText, disk,
    Json.isSendable_member sendable.1 "ebs"⟩

end Described

namespace Fleet

open Number

/-- The root volume that the machines of a group are described with. -/
def HasDisk (f : Fleet) (m : Registration) (disk : Json) : Prop :=
  match f with
  | .stack _ => m.input "rootBlockDevice" = disk
  | .template _ => ∃ mapping,
      m.input "blockDeviceMappings" = .list [mapping] ∧ mapping.member "ebs" = disk

variable {name : String} {x : ClusterInput} {s : Site} {f : Fleet} {form : GroupForm}
  {m : Registration}

theorem exists_disk (h : .registered m ∈ f.history name x s form)
    (href : m.ref = f.machineRef name) :
    ∃ disk iops throughput, f.HasDisk m disk ∧
      f.options.volume.IsSentAs disk iops throughput := by
  obtain ⟨d, here, at_, _, ⟨_, settled⟩ | ⟨scaler, _⟩⟩ := drafts_of_registered h (href ▸ .head _)
  · cases f with
    | stack o =>
        obtain ⟨_, _, _, _, _, _, hroot, rfl⟩ := StackGroup.drafts_eq_ok at_.drafted
        obtain ⟨iops, throughput, sent⟩ := StackGroup.disk_of_settle hroot settled
        exact ⟨_, iops, throughput, rfl, sent⟩
    | template o =>
        obtain ⟨_, _, _, _, hdevice, rfl⟩ := TemplateGroup.drafts_eq_ok at_.drafted
        obtain ⟨mapping, iops, throughput, mappings, sent⟩ :=
          TemplateGroup.disk_of_settle hdevice settled
        exact ⟨_, iops, throughput, ⟨mapping, mappings, rfl⟩, sent⟩
  · exact absurd (href.symm.trans scaler) (machineRef_ne_scalerRef name f)

/-- Only of options that are accepted are machines described. -/
theorem accepted_of_registered (h : .registered m ∈ f.history name x s form)
    (href : m.ref = f.machineRef name) : f.options.check name = .ok () := by
  obtain ⟨planned, _⟩ := of_registered_history h (href ▸ .head _)
  rw [run_eq] at planned
  exact (mem_drafts_of_mem_plan planned).1

end Fleet

namespace RootVolume

open Number

variable {v : RootVolume} {disk : Json} {iops throughput : Option Int}

/-- Each amount arrives in its own place. -/
theorem IsSentAs.arrives (h : v.IsSentAs disk iops throughput) (sound : v.IsSound) :
    Arrives (v.type = .io1) v.iops (disk.member "iops") ∧
      Arrives (v.type = .gp3) v.throughput (disk.member "throughput") := by
  obtain ⟨hiops, hthroughput, flag, rfl, sendable⟩ := h
  have operations := Json.isSendable_member sendable "iops"
  have rate := Json.isSendable_member sendable "throughput"
  rw [member_wire_entries _ _ _ _ (by decide), member_wire_entries _ _ _ _ (by decide)]
  exact ⟨arrives_of_suits (iopsFit_iff.mp sound.iops) hiops operations,
    arrives_of_suits (throughputFits_iff.mp sound.throughput) hthroughput rate⟩

/-- What is accepted of the amounts of a root volume, what is reported otherwise, and what becomes of
accepted amounts. -/
structure KeepsAmounts (v : RootVolume) : Prop where
  accepted : v.check = .ok () ↔
    Suits (v.type = .io1) v.iops ∧ Suits (v.type = .gp3) v.throughput
  iopsFirst : ∀ e, v.check = .error e → ¬ Suits (v.type = .io1) v.iops →
    ∃ reason, e = .conflict iopsFields reason
  throughputNext : ∀ e, v.check = .error e → Suits (v.type = .io1) v.iops →
    ∃ reason, e = .conflict throughputFields reason
  converted : v.check = .ok () → ∃ iops throughput,
    Converts v.iops iops ∧ Converts v.throughput throughput ∧
      StackGroup.rootDeviceProperty v = .ok (.map (v.entries .bool iops throughput)) ∧
      ∀ device, TemplateGroup.blockDevice v device = .ok (device >>= fun label =>
        Pure.pure (.map [("deviceName", label),
          ("ebs", .map (v.entries TemplateGroup.flagText iops throughput))]))
  registered : ∀ (f : Fleet) (name : String) (x : ClusterInput) (s : Site) (form : GroupForm)
    (m : Registration), f.options.volume = v → .registered m ∈ f.history name x s form →
      m.ref = f.machineRef name → ∃ disk, f.HasDisk m disk ∧
        Arrives (v.type = .io1) v.iops (disk.member "iops") ∧
        Arrives (v.type = .gp3) v.throughput (disk.member "throughput")

/-- What is accepted of a root volume, whatever its amounts are, is what is registered of it, but for
what becomes of an integer that is no double. -/
theorem keepsAmounts (v : RootVolume) : v.KeepsAmounts where
  accepted := by
    rw [check_eq_ok, ← iopsFit_iff, ← throughputFits_iff]
    exact ⟨fun sound => ⟨sound.iops, sound.throughput⟩, fun ⟨iops, rate⟩ => ⟨iops, rate⟩⟩
  iopsFirst e rejected broken := by
    cases isBlamedBy_of_check rejected with
    | iops reason _ => exact ⟨reason, rfl⟩
    | throughput _ kept _ => exact absurd (iopsFit_iff.mp kept) broken
  throughputNext e rejected kept := by
    cases isBlamedBy_of_check rejected with
    | iops _ broken => exact absurd (iopsFit_iff.mpr kept) broken
    | throughput reason _ _ => exact ⟨reason, rfl⟩
  converted accepted := by
    obtain ⟨⟨iops, hiops⟩, throughput, hthroughput⟩ := exists_amounts accepted
    refine ⟨iops, throughput, converts_of_toInt? hiops, converts_of_toInt? hthroughput, ?_, ?_⟩
    · rw [StackGroup.rootDeviceProperty, hiops, hthroughput]
      rfl
    · intro device
      rw [TemplateGroup.blockDevice, hiops, hthroughput]
      rfl
  registered f name x s form m hv h href := by
    subst hv
    obtain ⟨disk, iops, throughput, hdisk, sent⟩ := Fleet.exists_disk h href
    have kept := WorkerOptions.check_eq_ok.mp (Fleet.accepted_of_registered h href)
    exact ⟨disk, hdisk, sent.arrives (Classical.not_not.mp (kept .volume))⟩

end RootVolume

/-- Options of a group whose volume has provisioned operations, as many as no double holds. -/
def oddOptions : WorkerOptions :=
  { smallOptions smallProfile 20 with
    volume := ⟨20, true, false, some (.int 9007199254740993), none, .io1⟩ }

theorem odd_iops_registered_otherwise :
    oddOptions.volume.check = .ok () ∧ Number.IsAmount oddOptions.volume.iops 9007199254740993 ∧
      ∃ m r disk d, (Fleet.stack oddOptions).Completes "workers" (.descriptor smallCluster)
          smallSite (.component none) m r ∧
        (Fleet.stack oddOptions).HasDisk m disk ∧ disk.member "iops" = .float d ∧
        d.value? = some 9007199254740992 ∧ d.value? ≠ some 9007199254740993 := by
  obtain ⟨m, r, completes⟩ := exists_completes_keyedRun (f := .stack oddOptions)
    (by decide +kernel)
  obtain ⟨disk, iops, throughput, hdisk, operations, _, flag, rfl, _⟩ :=
    Fleet.exists_disk completes.machine completes.machineRef
  obtain rfl : some 9007199254740993 = iops := Except.ok.inj operations
  have value : (Double.finite false 4503599627370496 1).value? = some 9007199254740992 :=
    Double.value?_eq_signed.mpr (by decide : 4503599627370496 * 2 ^ 1 = 9007199254740992 * 2 ^ 0)
  refine ⟨rfl, ⟨by decide, rfl⟩, m, r, _, .finite false 4503599627370496 1, completes, hdisk, ?_,
    value, ?_⟩
  · rw [RootVolume.member_wire_entries _ _ _ _ (by decide)]
    rfl
  · rw [value]
    decide

end FleetPlan
