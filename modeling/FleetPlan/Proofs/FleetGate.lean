import FleetPlan.Proofs.ClusterDeferral
import FleetPlan.Proofs.FleetRuns
import FleetPlan.Proofs.ReadyDrafts

/-!
The two checks stand before both resources of a group of one's own.

A group that fails a check is not registered, neither the description of its machines nor what scales
them, whatever else happens; if nothing else stands in its way, both are refused with what the check
says. A group that passes both, and in whose way nothing else stands, is registered, each of its two
resources once. Which of several failures is reported when more than a check fails is not settled
here.
-/
namespace FleetPlan

open Plan

namespace Fleet

variable {name : String} {x : ClusterInput} {s : Site} {f : Fleet} {form : GroupForm}

/-! A group that fails a check. -/

theorem exists_error_machine {d : FleetDrafts} {cluster : Deferred Cluster}
    (hd : d.Serves name f cluster)
    (h : f.options.LacksProfile cluster ∨ f.options.GroupConflicts cluster) :
    ∃ p ∈ d.machine.properties, ∃ e, p.2.outcome = .error e := by
  rcases h with h | h
  · obtain ⟨p, hp, starts⟩ := hd.profile
    exact ⟨p, hp, _, starts.outcome (outcome_profileOf h)⟩
  · obtain ⟨p, hp, starts, _⟩ := hd.groups
    rcases outcome_groupIdsOf h hd.pair with he | ⟨e, _, he⟩
    · exact ⟨p, hp, _, starts.outcome he⟩
    · exact ⟨p, hp, _, starts.outcome he⟩

theorem not_registered (h : f.options.LacksProfile x.cluster ∨ f.options.GroupConflicts x.cluster)
    {ref : ResourceRef} (href : ref ∈ f.refs name) :
    none ∉ (f.history name x s form).verdicts ref := by
  intro registered
  obtain ⟨r, hr, rfl⟩ := History.exists_registered registered
  obtain ⟨d, here, at_, _, tried⟩ := drafts_of_registered hr href
  -- Either way the description of the machines is registered, with a property that has failed.
  obtain ⟨m, settled⟩ : ∃ m, d.machine.settle here.past = .ok m := by
    rcases tried with ⟨_, settled⟩ | ⟨_, settled⟩
    · exact ⟨r, settled⟩
    · exact at_.machine_settles settled
  obtain ⟨p, hp, e, he⟩ := exists_error_machine at_.serves h
  obtain ⟨v, hv⟩ := Draft.outcome_of_settle settled hp
  rw [he] at hv
  cases hv

/-! A group in whose way nothing stands but the checks. -/

theorem trace_registerBoth {d : FleetDrafts} (hm : d.machine.Named)
    (hs : (d.scaler (d.machine.resource s)).Named) :
    (registerBoth d s).trace =
      [d.machine.event s.past] ++
        [(d.scaler (d.machine.resource s)).event (s.past ++ [d.machine.event s.past])] := by
  have first := register_of_named hm s
  have second := register_of_named hs (s.after [d.machine.event s.past])
  have hfirst : (register d.machine s).answer = .ok (d.machine.resource s) := by rw [first]
  rw [registerBoth, bind_of_ok hfirst, first]
  show _ ++ ((register _ >>= fun scaler => Pure.pure _) _).trace = _
  rw [trace_bind_pure, second]
  rfl

/-- The two drafts of a group are made for it where all that they rely on is there, and each of them
is tried once. -/
structure AreTried (name : String) (f : Fleet) (cluster : Deferred Cluster) (d : FleetDrafts)
    (here : Site) (t : History) : Prop where
  site : here.IsReady
  serves : d.Serves name f cluster
  ready : d.AreReady f cluster
  group : d.pair.group.Exists
  rule : d.pair.rule.Exists
  machine : t.verdicts (f.machineRef name) = [(d.machine.attempt here.past).failure]
  scaler : t.verdicts (f.scalerRef name) =
    [((d.scaler (d.machine.resource here)).attempt
      (here.past ++ [d.machine.event here.past])).failure]

theorem exists_drafts {placement : Placement} (hname : name ≠ "")
    (hchecked : f.options.check name = .ok ()) (ho : f.options.IsKnown) (hsend : f.CanBeSent)
    (hc : x.cluster.Holds Cluster.IsKnown) (hpl : placement.IsReady) (hs : s.IsReady)
    (answered : ∀ c, .asked c ∈ f.run name x placement s → s.cloud.Answers c.question) :
    ∃ d here, AreTried name f x.cluster d here (f.run name x placement s) := by
  rw [run_eq] at answered ⊢
  have accepted : f.plan name x placement = f.drafts name x.cluster placement >>= registerBoth := by
    rw [plan, hchecked, ofExcept_ok, pure_bind]
  rw [accepted] at answered ⊢
  obtain ⟨d, t, hd, ht, ready, group, rule⟩ := succeeds_drafts hname hchecked ho hsend hc hpl hs
    fun c hc => answered c (mem_trace_bind hc)
  have every : Ensures Event.IsSupport (fun d => d.Serves name f x.cluster)
      (f.drafts name x.cluster placement) s := ensures_drafts f
  rw [Ensures, hd] at every
  have serves := every.2 d rfl
  have hok : (f.drafts name x.cluster placement s).answer = .ok d := by rw [hd]
  have other := machineRef_ne_scalerRef name f
  have quiet (ref) (h : ref ∈ f.refs name) : History.verdicts t ref = [] :=
    verdicts_support every.1 h
  have trace : (f.drafts name x.cluster placement >>= registerBoth) s =
      ⟨(registerBoth d (s.after t)).answer, t ++ (registerBoth d (s.after t)).trace⟩ := by
    rw [bind_of_ok hok, hd]
  have tried := trace_registerBoth ready.machineNamed (ready.scalerNamed _) (s := s.after t)
  refine ⟨d, s.after t, hs.after ht, serves, ready, group, rule, ?_, ?_⟩
  · rw [trace, tried]
    simp only [History.verdicts_append, History.verdicts_event, serves.machineRef,
      serves.scalerRef, quiet _ (.head _), other.symm, if_true, if_false, List.nil_append,
      List.append_nil]
  · rw [trace, tried]
    simp only [History.verdicts_append, History.verdicts_event, serves.machineRef,
      serves.scalerRef, quiet _ (.tail _ (.head _)), other, if_true, if_false, List.nil_append]

end Fleet

/-- A placement or a provider that is there. -/
def GroupForm.IsReady : GroupForm → Prop
  | placed placement => placement.IsReady
  | component provider => (⟨none, provider⟩ : Placement).IsReady

/-- Nothing but the two checks stands in the way of a group: it has a name, its options are
accepted, every input is known and of its kind, its numbers can be sent, nothing that it is placed
below or waits for has failed, and the cloud answers all that is asked for it. -/
structure Fleet.IsReady (name : String) (x : ClusterInput) (s : Site) (form : GroupForm)
    (f : Fleet) : Prop where
  named : name ≠ ""
  accepted : f.options.check name = .ok ()
  options : f.options.IsKnown
  numbers : f.CanBeSent
  cluster : x.cluster.Holds Cluster.IsKnown
  placed : form.IsReady
  site : s.IsReady
  answered : ∀ c, .asked c ∈ f.history name x s form → s.cloud.Answers c.question

namespace Fleet

variable {name : String} {x : ClusterInput} {s : Site} {f : Fleet} {form : GroupForm}

theorem IsReady.placement (h : f.IsReady name x s form) :
    (form.placement (f.self name) s).IsReady := by
  cases form with
  | placed placement => exact h.placed
  | component provider =>
      obtain ⟨sound, _, server⟩ := h.placed
      have registered : ((f.self name).resource s).failure? = none :=
        Draft.failure?_resource (settle_groupSelf s.past)
      refine ⟨sound, registered, ?_⟩
      cases provider with
      | none => rfl
      | some p => exact server

theorem IsReady.here (h : f.IsReady name x s form) : (form.site (f.self name) s).IsReady := by
  cases form with
  | placed placement => exact h.site
  | component provider => exact h.site.after (Draft.unfailed_event (settle_groupSelf s.past))

theorem cloud_site (form : GroupForm) : (form.site (f.self name) s).cloud = s.cloud := by
  cases form <;> rfl

theorem IsReady.exists_drafts (h : f.IsReady name x s form) :
    ∃ d here, AreTried name f x.cluster d here (f.history name x s form) := by
  obtain ⟨d, here, tried⟩ := Fleet.exists_drafts h.named h.accepted h.options h.numbers h.cluster
    h.placement h.here fun c hc => by
      rw [cloud_site]
      exact h.answered c (mem_history h.accepted h.named hc)
  refine ⟨d, here, { tried with machine := ?_, scaler := ?_ }⟩
  · rw [verdicts_history h.accepted h.named (.head _)]
    exact tried.machine
  · rw [verdicts_history h.accepted h.named (.tail _ (.head _))]
    exact tried.scaler

section Tried

variable {cluster : Deferred Cluster} {d : FleetDrafts} {here : Site} {t : History}
  (h : AreTried name f cluster d here t)

include h

theorem AreTried.exists_settle_machine (hc : cluster.Holds Cluster.IsKnown)
    (ho : f.options.IsKnown) (hprofile : ¬ f.options.LacksProfile cluster)
    (hgroups : ¬ f.options.GroupConflicts cluster) :
    ∃ r, d.machine.settle here.past = .ok r := by
  have profile := holds_profileOf hc ho hprofile
  have groups := holds_groupIdsOf hc ho h.serves.pair h.group h.rule hgroups
  exact Draft.exists_settle h.ready.machine.toKnownBut (h.ready.passes profile groups)
    (h.ready.machine.canWait h.site.past)

theorem AreTried.exists_settle_scaler (hm : ∃ r, d.machine.settle here.past = .ok r) :
    ∃ r, (d.scaler (d.machine.resource here)).settle
      (here.past ++ [d.machine.event here.past]) = .ok r := by
  have unfailed := History.unfailed_append h.site.past (Draft.unfailed_event hm)
  refine Draft.exists_settle (h.ready.scaler _).toKnownBut ?_ ((h.ready.scaler _).canWait unfailed)
  exact h.ready.scalerPasses _ (Draft.exists_resource hm h.site.cloud)

theorem AreTried.settle_machine_error (hc : cluster.Holds Cluster.IsKnown)
    (ho : f.options.IsKnown)
    (hfails : f.options.LacksProfile cluster ∨ f.options.GroupConflicts cluster) :
    ∃ e, (e = Failure.noProfile ∧ f.options.LacksProfile cluster ∨
        e = Failure.groupConflict ∧ f.options.GroupConflicts cluster) ∧
      d.machine.settle here.past = .error e := by
  obtain ⟨p, hp, hk, e, he, settled⟩ :=
    Draft.settle_error h.ready.machine.toKnownBut (exists_error_machine h.serves hfails) here.past
  refine ⟨e, ?_, settled⟩
  rcases h.ready.fails p hp hk e he with profile | groups
  · have lacks : f.options.LacksProfile cluster := by
      by_contra passes
      exact (holds_profileOf hc ho passes).not_error profile
    rw [outcome_profileOf lacks] at profile
    cases profile
    exact .inl ⟨rfl, lacks⟩
  · have conflicts : f.options.GroupConflicts cluster := by
      by_contra passes
      exact (holds_groupIdsOf hc ho h.serves.pair h.group h.rule passes).not_error groups
    rcases outcome_groupIdsOf conflicts h.serves.pair with conflict | ⟨e', rule, _⟩
    · rw [conflict] at groups
      cases groups
      exact .inr ⟨rfl, conflicts⟩
    · exact absurd rule (h.rule.output "id").not_error

theorem AreTried.settle_scaler_error {e : Failure} (he : d.machine.settle here.past = .error e) :
    (d.scaler (d.machine.resource here)).settle (here.past ++ [d.machine.event here.past]) =
      .error e := by
  have failed : (d.machine.resource here).outputs = .error e := by
    rw [Draft.resource, he]
    rfl
  obtain ⟨key, q, hq, starts, _⟩ := h.serves.machine (d.machine.resource here)
  have fails := starts.outcome (Resource.outcome_output failed key)
  obtain ⟨q', hq', hk', e', he', settled⟩ :=
    Draft.settle_error (h.ready.scaler (d.machine.resource here)).toKnownBut ⟨q, hq, e, fails⟩
      (here.past ++ [d.machine.event here.past])
  rw [h.ready.scalerFails _ e failed q' hq' hk'] at he'
  cases he'
  exact settled

end Tried

theorem IsReady.registered (h : f.IsReady name x s form)
    (hprofile : ¬ f.options.LacksProfile x.cluster)
    (hgroups : ¬ f.options.GroupConflicts x.cluster) :
    ∀ ref ∈ f.refs name, (f.history name x s form).verdicts ref = [none] := by
  obtain ⟨d, here, tried⟩ := h.exists_drafts
  have first := tried.exists_settle_machine h.cluster h.options hprofile hgroups
  obtain ⟨r', hr'⟩ := tried.exists_settle_scaler first
  obtain ⟨r, hr⟩ := first
  rw [refs, List.forall_mem_cons, List.forall_mem_singleton, tried.machine, tried.scaler,
    Draft.attempt, Draft.attempt, hr, hr']
  exact ⟨rfl, rfl⟩

theorem IsReady.refused (h : f.IsReady name x s form)
    (hfails : f.options.LacksProfile x.cluster ∨ f.options.GroupConflicts x.cluster) :
    ∃ e, (e = Failure.noProfile ∧ f.options.LacksProfile x.cluster ∨
        e = Failure.groupConflict ∧ f.options.GroupConflicts x.cluster) ∧
      ∀ ref ∈ f.refs name, (f.history name x s form).verdicts ref = [some e] := by
  obtain ⟨d, here, tried⟩ := h.exists_drafts
  obtain ⟨e, cause, settled⟩ := tried.settle_machine_error h.cluster h.options hfails
  have settled' := tried.settle_scaler_error settled
  refine ⟨e, cause, ?_⟩
  rw [refs, List.forall_mem_cons, List.forall_mem_singleton, tried.machine, tried.scaler,
    Draft.attempt, Draft.attempt, settled, settled']
  exact ⟨rfl, rfl⟩

end Fleet

/-- A group of one's own is registered, both of its resources, only if it passes both checks: it has
a profile, and its security group is not at odds with the cluster's tags. If nothing else stands in
its way, it is registered if it does, each resource once, and refused with what a failed check says if
it does not. -/
theorem fleet_gated (f : Fleet) (name : String) (x : ClusterInput) (s : Site) (form : GroupForm) :
    (f.options.LacksProfile x.cluster ∨ f.options.GroupConflicts x.cluster →
      ∀ ref ∈ f.refs name, none ∉ (f.history name x s form).verdicts ref) ∧
    (f.IsReady name x s form →
      (f.options.LacksProfile x.cluster ∨ f.options.GroupConflicts x.cluster →
        ∃ e, (e = Failure.noProfile ∧ f.options.LacksProfile x.cluster ∨
            e = Failure.groupConflict ∧ f.options.GroupConflicts x.cluster) ∧
          ∀ ref ∈ f.refs name, (f.history name x s form).verdicts ref = [some e]) ∧
      (¬ f.options.LacksProfile x.cluster → ¬ f.options.GroupConflicts x.cluster →
        ∀ ref ∈ f.refs name, (f.history name x s form).verdicts ref = [none])) := by
  refine ⟨fun h ref href => Fleet.not_registered h href, fun ready => ⟨?_, ?_⟩⟩
  · exact ready.refused
  · exact ready.registered

/-! Groups that are planned at a small site. -/

theorem smallCluster_isKnown : smallCluster.IsKnown := by
  have text (s : String) : (Part.given (.text s)).deferred.Holds Json.IsTextOrNull :=
    ⟨_, rfl, Json.isTextOrNull_text s⟩
  have null : (Part.given .null).deferred.Holds Json.IsTextOrNull :=
    ⟨_, rfl, Json.isTextOrNull_null⟩
  have absent (P : Json → Prop) : (Part.given .null).deferred.Holds fun v => v = .null ∨ P v :=
    ⟨_, rfl, .inl rfl⟩
  constructor
  · simp only [Cluster.textParts, List.forall_mem_cons]
    exact ⟨text _, text _, text _, text _, text _, text _, null, text _, List.forall_mem_nil _⟩
  · simp only [Cluster.listParts, List.forall_mem_cons]
    refine ⟨⟨_, rfl, .inr ⟨_, rfl, ?_⟩⟩, absent _, absent _, List.forall_mem_nil _⟩
    exact List.forall_mem_cons.mpr
      ⟨Json.isTextOrNull_text _, List.forall_mem_singleton.mpr (Json.isTextOrNull_text _)⟩
  · simp only [Cluster.tagParts, List.forall_mem_cons]
    refine ⟨⟨_, rfl, .inr ⟨_, rfl, ?_⟩⟩, absent _, List.forall_mem_nil _⟩
    exact List.forall_mem_singleton.mpr (Json.isTextOrNull_text _)
  · exact ⟨none, rfl, fun _ h => absurd h (Option.not_mem_none _)⟩
  · exact ⟨none, rfl, fun _ h => absurd h (Option.not_mem_none _)⟩

theorem smallOptions_isReady {profile : Profile}
    (h : (TextInput.value profile.arn).Holds Json.IsTextOrNull) :
    (Fleet.stack (smallOptions profile 20)).IsReady "workers" (.descriptor smallCluster) smallSite
      (.component none) where
  named := by decide
  accepted := by cases profile <;> rfl
  options := smallOptions_isKnown h 20
  numbers := {
    size := (by decide : Json.isSendable (.int 20) = true)
    amounts := by rintro x (hx | hx) <;> cases hx }
  cluster := ⟨smallCluster, rfl, smallCluster_isKnown⟩
  placed := ⟨rfl, rfl, rfl⟩
  site := smallSite_isReady
  answered c _ := smallCloud_answers c.question

theorem not_lacksProfile_smallProfile (size : Int) (cluster : Deferred Cluster) :
    ¬ (smallOptions smallProfile size).LacksProfile cluster := by
  rintro ⟨given, _⟩
  cases given

theorem not_groupConflicts_smallOptions (profile : Profile) (size : Int)
    (cluster : Deferred Cluster) : ¬ (smallOptions profile size).GroupConflicts cluster := by
  rintro ⟨_, _, _, _, given, _⟩
  cases given

theorem fleet_gated_smallOptions :
    (∀ ref ∈ (Fleet.stack (smallOptions .none 20)).refs "workers",
      ((Fleet.stack (smallOptions .none 20)).history "workers" (.descriptor smallCluster)
        smallSite (.component none)).verdicts ref = [some .noProfile]) ∧
    ∀ ref ∈ (Fleet.stack (smallOptions smallProfile 20)).refs "workers",
      ((Fleet.stack (smallOptions smallProfile 20)).history "workers" (.descriptor smallCluster)
        smallSite (.component none)).verdicts ref = [none] := by
  constructor
  · have absent : (TextInput.value Profile.none.arn).Holds Json.IsTextOrNull :=
      ⟨_, rfl, Json.isTextOrNull_null⟩
    have gated := (fleet_gated _ _ _ _ _).2 (smallOptions_isReady absent)
    obtain ⟨e, cause, refused⟩ := gated.1 (.inl ⟨rfl, .inl rfl⟩)
    rcases cause with ⟨rfl, _⟩ | ⟨_, conflicts⟩
    · exact refused
    · exact absurd conflicts (not_groupConflicts_smallOptions _ _ _)
  · refine ((fleet_gated _ _ _ _ _).2
      (smallOptions_isReady ⟨_, rfl, Json.isTextOrNull_text _⟩)).2 ?_ ?_
    · exact not_lacksProfile_smallProfile _ _
    · exact not_groupConflicts_smallOptions _ _ _

/-- A size larger than any number that can be sent. -/
def hugeSize : Int := (Nat.pow 10 400 : Int)

/-- A group whose volume is larger than any number that can be sent is accepted and passes both
checks, but neither of its resources is registered. -/
theorem huge_volume_not_registered :
    (smallOptions smallProfile hugeSize).check "workers" = .ok () ∧
    ¬ (smallOptions smallProfile hugeSize).LacksProfile
      (ClusterInput.descriptor smallCluster).cluster ∧
    ¬ (smallOptions smallProfile hugeSize).GroupConflicts
      (ClusterInput.descriptor smallCluster).cluster ∧
    (∀ q, smallCloud.Answers q) ∧
    ∀ ref ∈ (Fleet.stack (smallOptions smallProfile hugeSize)).refs "workers",
      none ∉ ((Fleet.stack (smallOptions smallProfile hugeSize)).history "workers"
        (.descriptor smallCluster) smallSite (.component none)).verdicts ref := by
  refine ⟨rfl, not_lacksProfile_smallProfile _ _, not_groupConflicts_smallOptions _ _ _,
    smallCloud_answers, ?_⟩
  have refused : ((Fleet.stack (smallOptions smallProfile hugeSize)).refs "workers").all
      (fun ref => ((Fleet.stack (smallOptions smallProfile hugeSize)).history "workers"
        (.descriptor smallCluster) smallSite (.component none)).verdicts ref |>.all Option.isSome) =
      true := by decide +kernel
  intro ref href h
  have all := List.all_eq_true.mp (List.all_eq_true.mp refused ref href) none h
  cases all

end FleetPlan
