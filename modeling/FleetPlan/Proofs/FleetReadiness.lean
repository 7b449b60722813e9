import FleetPlan.Proofs.FleetDrafts
import FleetPlan.Proofs.KnownInputs

/-!
When nothing but the two checks stands in the way of a group.

If all inputs are known, nothing that the group is placed below or waits for has failed, its numbers
can be sent and the cloud answers, then everything before the description of the machines succeeds,
and both drafts rely on nothing that is missing but what the checks guard.
-/
namespace FleetPlan

open Plan Json

section Pair

variable {name : String} {cluster : Deferred Cluster} {placement : Placement} {s : Site}

theorem name_append_ne (name : String) {suffix : String} (h : suffix ≠ "") : name ++ suffix ≠ "" := by
  intro he
  exact h (String.append_eq_empty_iff.mp he).2

theorem ready_groupDraft (hc : cluster.Holds Cluster.IsKnown) (hp : placement.IsReady) :
    (GroupPair.groupDraft name cluster placement).ReadyBut [] := by
  refine ⟨⟨hp.parent, hp.neededProvider rfl, ?_⟩, Deferred.holds_pure (List.forall_mem_nil _)⟩
  simp only [GroupPair.groupDraft, List.forall_mem_cons]
  refine ⟨fun _ => ?_, fun _ => ?_, fun _ => ?_, fun _ => ?_, List.forall_mem_nil _⟩
  · exact (Deferred.holds_textPart hc (by simp [Cluster.textParts])).imp fun _ h =>
      Draft.takes_textOrNull h
  · exact Deferred.holds_pure (Draft.takes_anywhere ⟨rfl, rfl⟩)
  · exact Deferred.holds_pure (Draft.takes_textOrNull (isTextOrNull_text _))
  · refine (Deferred.holds_textPart hc (by simp [Cluster.textParts])).bind fun n _ => ?_
    have tags : (GroupPair.clusterTags cluster).Holds fun es => ∀ e ∈ es, IsTextOrNull e.2 := by
      refine (Deferred.holds_tagPart hc (by simp [Cluster.tagParts])).bind fun forGroups hg => ?_
      refine (Deferred.holds_tagPart hc (by simp [Cluster.tagParts])).bind fun own ho => ?_
      obtain ⟨es, hes, known⟩ := Tags.ofCluster_isSome hg ho
      exact Deferred.holds_ofOption hes known
    refine tags.bind fun es hes => Deferred.holds_pure (Draft.takes_anywhere ?_)
    exact isTakenAnywhere_tags (Tags.forall_securityGroup name n.display hes)

theorem ready_rule {r : TrafficRule} {owner : Deferred Json} (hp : placement.IsReady)
    (ho : owner.Holds IsTextOrNull)
    (hf : isSendable (.int r.fromPort) = true) (ht : isSendable (.int r.toPort) = true)
    (hends : ∀ p ∈ r.ends, p.2.Holds ((r.draft name placement owner).Takes p.1)) :
    (r.draft name placement owner).ReadyBut [] := by
  refine ⟨⟨hp.parent, hp.neededProvider rfl, ?_⟩, Deferred.holds_pure (List.forall_mem_nil _)⟩
  refine List.forall_mem_append.mpr ⟨?_, fun p hp _ => hends p hp⟩
  simp only [List.forall_mem_cons]
  refine ⟨fun _ => ?_, fun _ => ?_, fun _ => ?_, fun _ => ?_, fun _ => ?_, fun _ => ?_,
    List.forall_mem_nil _⟩
  · exact Deferred.holds_pure (Draft.takes_textOrNull (isTextOrNull_text _))
  · exact ho.imp fun _ h => Draft.takes_textOrNull h
  · exact Deferred.holds_pure (Draft.takes_textOrNull (isTextOrNull_text _))
  · exact Deferred.holds_pure (Draft.takes_anywhere ⟨rfl, hf⟩)
  · exact Deferred.holds_pure (Draft.takes_anywhere ⟨rfl, ht⟩)
  · exact Deferred.holds_pure (Draft.takes_textOrNull (isTextOrNull_text _))

theorem suffix_ownRules (control : Deferred Json) :
    ∀ r ∈ GroupPair.ownRules control, r.suffix ≠ "" := by
  simp only [GroupPair.ownRules, List.forall_mem_cons]
  exact ⟨by decide, by decide, by decide, by decide, List.forall_mem_nil _⟩

theorem ready_ownRules {control owner : Deferred Json} (hp : placement.IsReady)
    (hc : control.Holds IsTextOrNull) (ho : owner.Holds IsTextOrNull) :
    ∀ r ∈ GroupPair.ownRules control, (r.draft name placement owner).ReadyBut [] := by
  have zero : isSendable (.int 0) = true := by decide
  have low : isSendable (.int 1025) = true := by decide
  have high : isSendable (.int 65535) = true := by decide
  have secure : isSendable (.int 443) = true := by decide
  simp only [GroupPair.ownRules, List.forall_mem_cons]
  refine ⟨ready_rule hp ho zero zero ?_, ready_rule hp ho low high ?_,
    ready_rule hp ho secure secure ?_, ready_rule hp ho zero zero ?_, List.forall_mem_nil _⟩
  · exact List.forall_mem_singleton.mpr (Deferred.holds_pure (Draft.takes_anywhere ⟨rfl, rfl⟩))
  · exact List.forall_mem_singleton.mpr (hc.imp fun _ h => Draft.takes_textOrNull h)
  · exact List.forall_mem_singleton.mpr (hc.imp fun _ h => Draft.takes_textOrNull h)
  · refine List.forall_mem_singleton.mpr (Deferred.holds_pure (Draft.takes_texts rfl ?_))
    exact ⟨_, rfl, List.forall_mem_singleton.mpr (isTextOrNull_text _)⟩

theorem ready_controlRule {control group : Deferred Json} (hp : placement.IsReady)
    (hc : control.Holds IsTextOrNull) (hg : group.Holds IsTextOrNull) :
    ((GroupPair.controlRule group).draft name placement control).ReadyBut [] := by
  have secure : isSendable (.int 443) = true := by decide
  refine ready_rule hp hc secure secure ?_
  exact List.forall_mem_singleton.mpr (hg.imp fun _ h => Draft.takes_textOrNull h)

theorem succeeds_registerAll {ds : List Draft} (hs : s.IsReady) (hn : ∀ d ∈ ds, d.Named)
    (hd : ∀ d ∈ ds, d.ReadyBut []) : Succeeds (fun _ => True) (GroupPair.registerAll ds) s := by
  induction ds generalizing s with
  | nil => exact succeeds_pure trivial
  | cons d ds ih =>
      refine (succeeds_register (hn d (.head _)) (hd d (.head _)) hs).bind fun _ _ ht _ => ?_
      exact ih (hs.after ht) (fun d' h => hn d' (.tail _ h)) fun d' h => hd d' (.tail _ h)

theorem succeeds_createPair (hc : cluster.Holds Cluster.IsKnown) (hp : placement.IsReady)
    (hs : s.IsReady) :
    Succeeds (fun pair => pair.group.Exists ∧ pair.rule.Exists)
      (GroupPair.create name cluster placement) s := by
  have control : (cluster.part Cluster.controlGroup).Holds IsTextOrNull :=
    Deferred.holds_textPart hc (by simp [Cluster.textParts])
  refine (succeeds_register ⟨name_append_ne name (by decide), hp.sound⟩ (ready_groupDraft hc hp)
    hs).bind fun group _ ht hg => ?_
  have id : (group.output "id").Holds IsTextOrNull := hg.naming (.head _)
  refine (succeeds_registerAll (hs.after ht) (fun d hd => ?_) fun d hd => ?_).bind
    fun _ _ ht' _ => ?_
  · obtain ⟨r, hr, rfl⟩ := List.mem_map.mp hd
    exact ⟨name_append_ne name (suffix_ownRules _ r hr), hp.sound⟩
  · obtain ⟨r, hr, rfl⟩ := List.mem_map.mp hd
    exact ready_ownRules hp control id r hr
  have suffix : ("-eksClusterIngressRule" : String) ≠ "" := by decide
  refine (succeeds_register ⟨name_append_ne name suffix, hp.sound⟩ (ready_controlRule hp control id)
    ((hs.after ht).after ht')).bind fun rule _ _ hr => ?_
  exact succeeds_pure ⟨hg, hr⟩

end Pair

/-- All that is settled before the machines are described is there. -/
structure Preparation.IsKnown (p : Preparation) : Prop where
  group : p.pair.group.Exists
  rule : p.pair.rule.Exists
  keyName : p.keyName.Holds IsTextOrNull
  imageId : p.imageId.Holds IsTextOrNull
  subnets : p.subnets.Holds IsTexts

section Preparation

variable {name : String} {o : WorkerOptions} {cluster : Deferred Cluster} {placement : Placement}
  {s : Site}

/-- Accepted options bring no group without its rule, and a volume that is accepted. -/
theorem WorkerOptions.of_check (h : o.check name = .ok ()) :
    ¬ (o.firewall.group.isSome = true ∧ o.firewall.ingressRule.isNone = true) ∧
      o.volume.check = .ok () := by
  unfold WorkerOptions.check at h
  split at h
  · cases h
  split at h
  · cases h
  split at h
  · cases h
  split at h
  · cases h
  case isFalse paired => exact ⟨paired, h⟩

theorem succeeds_obtainPair (ho : o.IsKnown) (hchecked : o.check name = .ok ())
    (hc : cluster.Holds Cluster.IsKnown) (hp : placement.IsReady) (hs : s.IsReady) :
    Succeeds (fun pair => pair.group.Exists ∧ pair.rule.Exists)
      (GroupPair.obtain name o.firewall cluster placement) s := by
  unfold GroupPair.obtain
  split
  case h_1 => exact succeeds_createPair hc hp hs
  case h_2 group rule hg hr =>
    exact succeeds_pure ⟨ho.resources group (.inl hg), ho.resources rule (.inr (.inl hr))⟩
  case h_3 group hg hr =>
    -- Accepted options never bring a group without its rule.
    have paired := (WorkerOptions.of_check hchecked).1
    rw [hg, hr] at paired
    exact absurd ⟨rfl, rfl⟩ paired

theorem succeeds_keyOf (ho : o.IsKnown) (hp : placement.IsReady) (hs : s.IsReady) :
    Succeeds (fun key => key.Holds IsTextOrNull) (Preparation.keyOf name o.access placement) s := by
  unfold Preparation.keyOf
  split
  · have ready : (Draft.mk "aws:ec2/keyPair:KeyPair" (name ++ "-keyPair") placement
        [("publicKey", o.access.publicKey.value)] (pure []) false [] []).ReadyBut [] := by
      refine ⟨⟨hp.parent, hp.neededProvider rfl, ?_⟩, Deferred.holds_pure (List.forall_mem_nil _)⟩
      refine List.forall_mem_singleton.mpr fun _ => ?_
      exact (ho.texts _ (by simp [WorkerOptions.textInputs])).imp fun _ h => Draft.takes_textOrNull h
    refine (succeeds_register ⟨name_append_ne name (by decide), hp.sound⟩ ready hs).bind
      fun pair _ _ hpair => ?_
    exact succeeds_pure (hpair.naming (by simp [namingOutputs]))
  · exact succeeds_pure (ho.texts _ (by simp [WorkerOptions.textInputs]))

theorem succeeds_imageId (ho : o.IsKnown) (hc : cluster.Holds Cluster.IsKnown)
    (hp : placement.IsReady) :
    Succeeds (fun id => id.Holds IsTextOrNull)
      (o.machine.imageId (Preparation.versionOf o.machine cluster) placement) s := by
  have version : (Preparation.versionOf o.machine cluster).Holds IsTextOrNull := by
    unfold Preparation.versionOf
    split
    · exact ho.texts _ (by simp [WorkerOptions.textInputs])
    · exact Deferred.holds_textPart hc (by simp [Cluster.textParts])
  unfold Machine.imageId
  split
  · exact succeeds_pure (ho.texts _ (by simp [WorkerOptions.textInputs]))
  · refine succeeds_whenKnown version fun v _ => ?_
    have question (name : String) : (Question.parameter name).Askable placement :=
      ⟨hp.server, rfl, rfl⟩
    refine Succeeds.bind (succeeds_askText (question _) ?_) ?_
    · exact fun answers => answers
    · rintro _ _ _ ⟨t, rfl⟩
      exact succeeds_pure (Deferred.holds_pure (isTextOrNull_text t))

theorem isTexts_of_set? {v w : Json} (h : v = .null ∨ IsTexts v) (hw : v.set? = some w) :
    IsTexts w := by
  rcases h with rfl | h
  · cases hw
  · obtain ⟨vs, rfl, hvs⟩ := h
    cases hw
    exact ⟨vs, rfl, hvs⟩

theorem succeeds_chooseAmong {every : Json} (h : every = .null ∨ IsTexts every)
    (hp : placement.IsReady) : Succeeds IsTexts (chooseAmong placement every) s := by
  unfold chooseAmong
  rcases h with rfl | ⟨vs, rfl, hvs⟩
  · exact succeeds_pure ⟨[], rfl, List.forall_mem_nil _⟩
  · split
    · refine (succeeds_chooseSubnets hp.server vs).bind fun chosen _ _ hchosen => ?_
      exact succeeds_pure ⟨chosen, rfl, fun w hw => hvs w (hchosen w hw)⟩
    · exact succeeds_pure ⟨[], rfl, List.forall_mem_nil _⟩

theorem succeeds_workerSubnetIds (ho : o.IsKnown) (hc : cluster.Holds Cluster.IsKnown)
    (hp : placement.IsReady) :
    Succeeds (fun ids => ids.Holds IsTexts)
      (workerSubnetIds o.placement.subnets.value? cluster placement) s := by
  unfold workerSubnetIds
  split
  case h_1 ids hasked => exact succeeds_pure (ho.subnets ids hasked)
  case h_2 =>
    have part {get : Cluster → Part} (hget : get ∈ Cluster.listParts) :
        (cluster.part get).Holds fun v => v = .null ∨ IsTexts v := Deferred.holds_listPart hc hget
    refine succeeds_whenKnown
      (P := fun v => (v.1 = .null ∨ IsTexts v.1) ∧ (v.2.1 = .null ∨ IsTexts v.2.1) ∧
        (v.2.2 = .null ∨ IsTexts v.2.2)) ?_ ?_
    · refine (part (by simp [Cluster.listParts])).bind fun inside hin => ?_
      refine (part (by simp [Cluster.listParts])).bind fun outside hout => ?_
      refine (part (by simp [Cluster.listParts])).bind fun every hevery => ?_
      exact Deferred.holds_pure ⟨hin, hout, hevery⟩
    · rintro ⟨inside, outside, every⟩ ⟨hin, hout, hevery⟩
      refine Succeeds.bind (P := fun found => ∃ w, found = some w ∧ IsTexts w) ?_ ?_
      · rw [firstSet_pure]
        split
        case h_1 w hw => exact succeeds_pure ⟨w, rfl, isTexts_of_set? hin hw⟩
        rw [firstSet_pure]
        split
        case h_1 w hw => exact succeeds_pure ⟨w, rfl, isTexts_of_set? hout hw⟩
        simp only [firstSet, bind_assoc, pure_bind]
        exact (succeeds_chooseAmong hevery hp).bind fun w _ _ hw => succeeds_pure ⟨w, rfl, hw⟩
      · rintro _ _ _ ⟨w, rfl, hw⟩
        exact succeeds_pure (Deferred.holds_pure hw)

theorem succeeds_make (ho : o.IsKnown) (hchecked : o.check name = .ok ())
    (hc : cluster.Holds Cluster.IsKnown) (hp : placement.IsReady) (hs : s.IsReady) :
    Succeeds Preparation.IsKnown (Preparation.make name o cluster placement) s := by
  refine (succeeds_obtainPair ho hchecked hc hp hs).bind fun pair _ ht hpair => ?_
  refine (succeeds_keyOf ho hp (hs.after ht)).bind fun key _ _ hkey => ?_
  refine (succeeds_imageId ho hc hp).bind fun image _ _ himage => ?_
  refine (succeeds_workerSubnetIds ho hc hp).bind fun subnets _ _ hsubnets => ?_
  exact succeeds_pure ⟨hpair.1, hpair.2, hkey, himage, hsubnets⟩

end Preparation

/-! Volumes. -/

theorem Number.exists_toInt {x : Number} (h : x.isPositiveWhole = true) : ∃ n, x.toInt = .ok n := by
  cases x with
  | int n => exact ⟨n, rfl⟩
  | float x =>
      cases x with
      | nan => cases h
      | infinite _ =>
          rw [isPositiveWhole, Bool.and_eq_true] at h
          cases h.2
      | finite s m e => exact ⟨_, rfl⟩

theorem RootVolume.exists_amounts {v : RootVolume} (h : v.check = .ok ()) :
    (∃ i, Number.toInt? v.iops = .ok i) ∧ ∃ t, Number.toInt? v.throughput = .ok t := by
  have provisioned {x : Option Number} (hx : isProvisioned x = true) :
      ∃ i, Number.toInt? x = .ok i := by
    cases x with
    | none => cases hx
    | some x =>
        obtain ⟨n, hn⟩ := Number.exists_toInt hx
        exact ⟨some n, by rw [Number.toInt?, hn]; rfl⟩
  have absent {x : Option Number} (hx : ¬ x.isSome = true) : ∃ i, Number.toInt? x = .ok i := by
    cases x with
    | none => exact ⟨none, rfl⟩
    | some x => exact absurd rfl hx
  unfold check at h
  split at h
  · cases h
  split at h
  · cases h
  split at h
  · cases h
  split at h
  · cases h
  case _ io1 hio1 gp3 hgp3 =>
    constructor
    · by_cases ht : v.type = .io1
      · refine provisioned ?_
        simpa [ht] using hio1
      · refine absent fun hs => io1 ⟨hs, ht⟩
    · by_cases ht : v.type = .gp3
      · refine provisioned ?_
        simpa [ht] using hgp3
      · refine absent fun hs => gp3 ⟨hs, ht⟩

theorem isTakenAnywhere_amount {x : Option Number} {i : Option Int} (hi : Number.toInt? x = .ok i)
    (h : ∀ y, x = some y → ∀ n, y.toInt = .ok n → isSendable (.int n) = true) :
    IsTakenAnywhere ((i.map Value.int).getD .null) := by
  cases x with
  | none => cases hi; exact ⟨rfl, rfl⟩
  | some y =>
      rw [Number.toInt?] at hi
      cases hn : y.toInt with
      | error e => rw [hn] at hi; cases hi
      | ok n =>
          rw [hn] at hi
          cases hi
          exact ⟨rfl, h y rfl n hn⟩

end FleetPlan
