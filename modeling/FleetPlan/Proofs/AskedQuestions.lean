import FleetPlan.Proofs.FleetInputs
import FleetPlan.Proofs.TriedResources

/-!
What a group of one's own asks the cloud before its resources are registered.

The questions follow from the options and from what is known of the cluster, and each is asked once:
for the image unless one is given, for the routes of the cluster's subnets only when no others are
named, and last for the region or the devices of the image. The answer to one of them may be part of
the next, so the questions are told by a relation and not by a list that is made beforehand. What is
asked on the way to a value that stays unknown is left open.
-/
namespace FleetPlan

open Plan Deferred

namespace History

/-- What was asked, in order. -/
def calls (past : History) : List Call := (Report.ofEvents past).calls

theorem calls_append (past more : History) : (past ++ more).calls = past.calls ++ more.calls :=
  List.filterMap_append

theorem calls_eq_nil {past : History} (h : ∀ e ∈ past, ∀ c, e ≠ .asked c) : past.calls = [] := by
  refine List.filterMap_eq_nil_iff.2 fun e he => ?_
  split
  case h_1 c => exact absurd rfl (h _ he c)
  case h_2 => rfl

theorem calls_flatMap {α : Type} (f : α → History) (as : List α) :
    calls (as.flatMap f) = as.flatMap fun a => (f a).calls :=
  List.filterMap_flatMap

theorem calls_map_asked {α : Type} (g : α → Call) (as : List α) :
    calls (as.map fun a => .asked (g a)) = as.map g := by
  induction as with
  | nil => rfl
  | cons a as ih => exact congrArg (g a :: ·) ih

theorem registrations_of_unfailed {past : History} (h : past.Unfailed) :
    (Report.ofEvents past).registrations.map Registration.ref = past.tried := by
  induction past with
  | nil => rfl
  | cons e past ih =>
      have rest : Unfailed past := fun a ha => h a (by
        rw [← List.singleton_append, attempts_append]
        exact List.mem_append_right _ ha)
      cases e with
      | registered r => exact congrArg (r.ref :: ·) (ih rest)
      | refused _ _ _ e => cases h _ (.head _)
      | asked _ | published _ _ | unpublished _ _ => exact ih rest

end History

theorem Draft.event_ne_asked (d : Draft) (past : History) (c : Call) : d.event past ≠ .asked c := by
  unfold event
  split <;> exact fun h => nomatch h

/-! Questions asked on the way to a result. -/

namespace Plan

variable {α β : Type} {s : Site}

/-- A result and all that is asked before it are related. -/
def Yields (R : α → List Call → Prop) (x : Plan α) (s : Site) : Prop :=
  ∀ a, (x s).answer = .ok a → R a (History.calls (x s).trace)

variable {R : α → List Call → Prop} {Q : β → List Call → Prop}

theorem yields_pure {a : α} (h : R a []) : Yields R (Pure.pure a) s := by
  intro b hb
  cases hb
  exact h

theorem yields_of_ensures {P : α → Prop} {x : Plan α}
    (h : Ensures (fun e => ∀ c, e ≠ .asked c) P x s) : Yields (fun a cs => P a ∧ cs = []) x s :=
  fun a ha => ⟨h.2 a ha, History.calls_eq_nil h.1⟩

theorem Yields.bind {x : Plan α} {f : α → Plan β} (hx : Yields R x s)
    (hf : ∀ a cs t, R a cs → Yields (fun b more => Q b (cs ++ more)) (f a) (s.after t)) :
    Yields Q (x >>= f) s := by
  intro b hb
  obtain ⟨a, ha, hfa⟩ := answer_bind_eq_ok.1 hb
  rw [bind_of_ok ha, History.calls_append]
  exact hf a _ _ (hx a ha) b hfa

theorem Yields.imp {S : α → List Call → Prop} {x : Plan α} (hx : Yields R x s)
    (h : ∀ a cs, R a cs → S a cs) : Yields S x s :=
  fun a ha => h a _ (hx a ha)

theorem yields_ask (placement : Placement) (q : Question) (answer : Cloud → Except String α) :
    Yields (fun a cs => answer s.cloud = .ok a ∧ cs = [callOf placement q])
      (ask placement q answer) s := by
  intro a ha
  refine ⟨of_answer_ask ha, ?_⟩
  by_cases hq : q.Askable placement
  · rw [ask_of_askable hq]
    rfl
  · obtain ⟨e, he⟩ := ask_of_not_askable hq answer s
    rw [he] at ha
    cases ha

theorem yields_askText (placement : Placement) (q : Question)
    (answer : Cloud → Except String Json) :
    Yields (fun v cs => (∃ a, answer s.cloud = .ok a ∧ v = a.wire) ∧ cs = [callOf placement q])
      (askText placement q answer) s := by
  refine (yields_ask placement q answer).bind fun a cs t h => ?_
  obtain ⟨ha, rfl⟩ := h
  dsimp only
  split
  · intro v hv
    cases hv
  · exact yields_pure ⟨⟨a, ha, rfl⟩, List.append_nil _⟩

/-- What is asked on the way to a value that is known. -/
theorem yields_whenKnown {d : Deferred α} {f : α → Plan (Deferred β)}
    {Q : α → β → List Call → Prop}
    (h : ∀ a, d.outcome = .ok a →
      Yields (fun r cs => ∀ b, r.outcome = .ok b → Q a b cs) (f a) s) :
    Yields (fun r cs => ∀ b, r.outcome = .ok b → ∃ a, d.outcome = .ok a ∧ Q a b cs)
      (whenKnown d f) s := by
  intro r hr b hb
  obtain ⟨a, c, ha, hc, hcb⟩ := exists_of_whenKnown hr hb
  rw [trace_whenKnown ha]
  exact ⟨a, ha, h a ha c hc b hcb⟩

end Plan

/-! The questions of a group. -/

namespace Machine

/-- The family of images that a machine runs: the one that is named, or else the usual one, which is
another for graphics processors. -/
inductive IsOfFamily (m : Machine) : String → Prop
  | named {family : String} (h : m.family = some family) (hne : family ≠ "") : IsOfFamily m family
  | graphics (h : m.family = none ∨ m.family = some "") (hgpu : m.gpu = true) :
    IsOfFamily m "amazon-linux-2-gpu"
  | usual (h : m.family = none ∨ m.family = some "") (hgpu : m.gpu = false) :
    IsOfFamily m "amazon-linux-2"

/-- The version that an image is looked up for: the machine's own, or else the cluster's. -/
inductive IsAtVersion (m : Machine) (cluster : Deferred Cluster) : Json → Prop
  | own {v : Json} (truthy : m.version.isTruthy = true)
      (known : m.version.value.outcome = .ok v) : IsAtVersion m cluster v
  | shared {v : Json} (falsy : m.version.isTruthy = false)
      (known : (cluster.part Cluster.version).outcome = .ok v) : IsAtVersion m cluster v

/-- The questions behind an image: none if it is given, and otherwise the one for the parameter under
the path that is made of the version and the family. -/
inductive Asks (m : Machine) (c : Cloud) (cluster : Deferred Cluster) : Json → List Question → Prop
  | given {image : Json} (truthy : m.image.isTruthy = true)
      (known : m.image.value.outcome = .ok image) : Asks m c cluster image []
  | recommended {version answer : Json} {family path : String} (falsy : m.image.isTruthy = false)
      (atVersion : m.IsAtVersion cluster version) (ofFamily : m.IsOfFamily family)
      (named : path = "/aws/service/eks/optimized-ami/" ++ version.display ++ "/" ++ family ++
        "/recommended/image_id")
      (answered : c.parameter path = .ok answer) : Asks m c cluster answer.wire [.parameter path]

theorem isOfFamily_imageFamily (m : Machine) : m.IsOfFamily (imageFamily m.family m.gpu) := by
  have fallback (unnamed : m.family = none ∨ m.family = some "") :
      m.IsOfFamily (if m.gpu then "amazon-linux-2-gpu" else "amazon-linux-2") := by
    cases hgpu : m.gpu with
    | true => exact .graphics unnamed hgpu
    | false => exact .usual unnamed hgpu
  cases h : m.family with
  | none => exact fallback (.inl h)
  | some family =>
      by_cases empty : family = ""
      · subst empty
        exact fallback (.inr h)
      · have named : imageFamily (some family) m.gpu = family :=
          if_neg (by simpa using empty)
        rw [named]
        exact .named h empty

theorem isAtVersion_of_versionOf {m : Machine} {cluster : Deferred Cluster} {v : Json}
    (h : (Preparation.versionOf m cluster).outcome = .ok v) : m.IsAtVersion cluster v := by
  unfold Preparation.versionOf at h
  split at h
  case isTrue own => exact .own own h
  case isFalse shared => exact .shared (Bool.eq_false_iff.2 shared) h

end Machine

/-- The questions about the routes in effect for some subnets. -/
def routeQuestions (c : Cloud) (ids : List Json) : List Question :=
  ids.flatMap fun id => (c.directory.tableInEffect id).trace.map .routing

/-- The questions behind the subnets of a group of one's own: none if they are asked for, or if the
cluster sets private or public ones, and otherwise those for the routes of all of its subnets. -/
inductive SubnetsAsk (c : Cloud) (asked : Option (Deferred Json)) (cluster : Deferred Cluster) :
    List Question → Prop
  | given {ids : Deferred Json} (given : asked = some ids) : SubnetsAsk c asked cluster []
  | sorted {inside outside : Json} (absent : asked = none)
      (inside_known : (cluster.part Cluster.privateSubnets).outcome = .ok inside)
      (outside_known : (cluster.part Cluster.publicSubnets).outcome = .ok outside)
      (set : inside.isNull = false ∨ outside.isNull = false) : SubnetsAsk c asked cluster []
  | chosen {inside outside every : Json} (absent : asked = none)
      (inside_known : (cluster.part Cluster.privateSubnets).outcome = .ok inside)
      (outside_known : (cluster.part Cluster.publicSubnets).outcome = .ok outside)
      (every_known : (cluster.part Cluster.subnets).outcome = .ok every)
      (unset : inside.isNull = true ∧ outside.isNull = true) :
      SubnetsAsk c asked cluster (routeQuestions c (every.items?.getD []))

/-- The questions that a group of one's own, of either sort, asks in common. -/
def WorkerOptions.Asks (o : WorkerOptions) (c : Cloud) (cluster : Deferred Cluster) (image : Json)
    (qs : List Question) : Prop :=
  ∃ ofImage ofSubnets,
    o.machine.Asks c cluster image ofImage ∧
    SubnetsAsk c o.placement.subnets.value? cluster ofSubnets ∧ qs = ofImage ++ ofSubnets

/-- The questions of a group: that for the region if a script has to signal its stack, that for the
devices of the image if it is launched from a template, and none at all if it is managed. -/
inductive GroupOptions.Asks (c : Cloud) (cluster : Deferred Cluster) :
    GroupOptions → List Question → Prop
  | stack {o : WorkerOptions} {image : Json} {qs : List Question}
      (common : o.Asks c cluster image qs) :
      Asks c cluster (.stack o) (qs ++ if o.startup.override.isTruthy then [] else [.region])
  | template {o : TemplateOptions} {image : Json} {qs : List Question}
      (common : o.toWorkerOptions.Asks c cluster image qs) :
      Asks c cluster (.template o) (qs ++ [.image image])
  | managed (o : ManagedOptions) : Asks c cluster (.managed o) []

/-- A group of one's own among the groups of all kinds. -/
def Fleet.group : Fleet → GroupOptions
  | stack o => .stack o
  | template o => .template o

section Asked

variable {name : String} {cluster : Deferred Cluster} {placement : Placement} {s : Site}

theorem yields_imageId (m : Machine) :
    Yields (fun d cs => ∀ image, d.outcome = .ok image →
        ∃ qs, m.Asks s.cloud cluster image qs ∧ cs = qs.map (callOf placement))
      (m.imageId (Preparation.versionOf m cluster) placement) s := by
  unfold Machine.imageId
  split
  case isTrue given => exact yields_pure fun image h => ⟨[], .given given h, rfl⟩
  case isFalse absent =>
    have falsy : m.image.isTruthy = false := Bool.eq_false_iff.2 absent
    refine (yields_whenKnown (Q := fun v image cs =>
      ∃ answer, s.cloud.parameter (imageParameter v.display (imageFamily m.family m.gpu)) =
          .ok answer ∧ image = answer.wire ∧
        cs = [callOf placement
          (.parameter (imageParameter v.display (imageFamily m.family m.gpu)))])
      fun v _ => ?_).imp ?_
    · refine (yields_askText placement _ _).bind fun id cs _ h => ?_
      obtain ⟨⟨answer, answered, rfl⟩, rfl⟩ := h
      refine yields_pure fun image h => ?_
      cases h
      exact ⟨answer, answered, rfl, rfl⟩
    · intro d cs h image hd
      obtain ⟨v, known, answer, answered, rfl, rfl⟩ := h image hd
      have asks := Machine.Asks.recommended falsy (Machine.isAtVersion_of_versionOf known)
        m.isOfFamily_imageFamily rfl answered
      exact ⟨_, asks, rfl⟩

theorem trace_classifySubnets_of_ok {σ γ ε : Type}
    {routesOf : σ → Traced γ (Except ε (List Route))} {ids : List σ} {c : Classified σ}
    (h : (classifySubnets routesOf ids).answer = .ok c) :
    (∀ id ∈ ids, ∃ routes, (routesOf id).answer = .ok routes) ∧
      (classifySubnets routesOf ids).trace = ids.flatMap fun id => (routesOf id).trace := by
  induction ids generalizing c with
  | nil => exact ⟨List.forall_mem_nil _, rfl⟩
  | cons id ids ih =>
      cases hr : (routesOf id).answer with
      | error e =>
          rw [classifySubnets_of_error hr] at h
          cases h
      | ok routes =>
          rw [classifySubnets_of_ok hr] at h ⊢
          cases hrest : (classifySubnets routesOf ids).answer with
          | error e =>
              rw [hrest] at h
              cases h
          | ok c' =>
              obtain ⟨answered, trace⟩ := ih hrest
              refine ⟨List.forall_mem_cons.2 ⟨⟨routes, hr⟩, answered⟩, ?_⟩
              rw [List.flatMap_cons, trace]

theorem calls_routesInEffect {id : Json} {routes : List Route}
    (h : (routesInEffect placement s id).answer = .ok routes) :
    History.calls (routesInEffect placement s id).trace =
      ((s.cloud.directory.tableInEffect id).trace.map Question.routing).map (callOf placement) := by
  unfold routesInEffect at h ⊢
  split at h
  case h_1 => cases h
  case h_2 =>
    rw [List.map_map]
    exact History.calls_map_asked (fun q => callOf placement (.routing q)) _

theorem yields_chooseSubnets (ids : List Json) :
    Yields (fun _ cs => cs = (routeQuestions s.cloud ids).map (callOf placement))
      (chooseSubnets placement ids) s := by
  intro chosen h
  have classified : ∃ c, (classifySubnets (routesInEffect placement s) ids).answer = .ok c := by
    rw [chooseSubnets, answer_workerSubnets] at h
    cases hc : (classifySubnets (routesInEffect placement s) ids).answer with
    | ok c => exact ⟨c, rfl⟩
    | error e =>
        rw [hc] at h
        cases h
  obtain ⟨c, hc⟩ := classified
  obtain ⟨answered, trace⟩ := trace_classifySubnets_of_ok hc
  show History.calls (workerSubnets (routesInEffect placement s) ids).trace = _
  rw [trace_workerSubnets, trace, routeQuestions, List.map_flatMap, History.calls_flatMap]
  refine List.flatMap_congr fun id hid => ?_
  obtain ⟨routes, hr⟩ := answered id hid
  exact calls_routesInEffect hr

theorem items?_of_falsy {v : Json} (h : v.isTruthy = false) : v.items?.getD [] = [] := by
  cases v with
  | null | bool _ | number _ => rfl
  | text t =>
      have empty : t = "" := by simpa [Value.isTruthy] using h
      rw [empty]
      rfl
  | list vs => simpa [Value.isTruthy, Json.items?] using h
  | map es => simpa [Value.isTruthy, Json.items?] using h
  | leaf a => cases a

theorem yields_chooseAmong (every : Json) :
    Yields (fun _ cs =>
        cs = (routeQuestions s.cloud (every.items?.getD [])).map (callOf placement))
      (chooseAmong placement every) s := by
  unfold chooseAmong
  split
  case isTrue =>
    split
    case h_1 ids hids =>
      rw [hids]
      refine (yields_chooseSubnets ids).bind fun chosen cs _ h => yields_pure ?_
      rw [h, List.append_nil]
      rfl
    case h_2 =>
      intro v hv
      cases hv
  case isFalse empty =>
    rw [items?_of_falsy (Bool.eq_false_iff.2 empty)]
    exact yields_pure rfl

theorem yields_workerSubnetIds (asked : Option (Deferred Json)) :
    Yields (fun d cs => ∀ ids, d.outcome = .ok ids →
        ∃ qs, SubnetsAsk s.cloud asked cluster qs ∧ cs = qs.map (callOf placement))
      (workerSubnetIds asked cluster placement) s := by
  cases asked with
  | some ids => exact yields_pure fun _ _ => ⟨[], .given rfl, rfl⟩
  | none =>
      refine (yields_whenKnown (Q := fun known _ cs =>
        (known.1.isNull = false ∨ known.2.1.isNull = false) ∧ cs = [] ∨
          (known.1.isNull = true ∧ known.2.1.isNull = true) ∧
            cs = (routeQuestions s.cloud (known.2.2.items?.getD [])).map (callOf placement))
        fun known _ => ?_).imp ?_
      · obtain ⟨inside, outside, every⟩ := known
        have unset {v : Json} (h : v.isNull = true) : v.set? = none := if_pos h
        have set {v : Json} (h : v.isNull = false) : v.set? = some v :=
          if_neg (Bool.eq_false_iff.1 h)
        cases hinside : inside.isNull with
        | false =>
            simp only [firstSet_pure, set hinside, Plan.pure_bind]
            exact yields_pure fun _ _ => .inl ⟨.inl trivial, rfl⟩
        | true =>
            cases houtside : outside.isNull with
            | false =>
                simp only [firstSet_pure, unset hinside, set houtside, Plan.pure_bind]
                exact yields_pure fun _ _ => .inl ⟨.inr trivial, rfl⟩
            | true =>
                simp only [unset hinside, unset houtside, firstSet, Plan.bind_assoc,
                  Plan.pure_bind]
                refine (yields_chooseAmong every).bind fun ids cs _ h => ?_
                refine yields_pure fun _ _ => .inr ⟨⟨trivial, trivial⟩, ?_⟩
                rw [h, List.append_nil]
      · intro d cs h ids hids
        obtain ⟨⟨inside, outside, every⟩, known, cases_⟩ := h ids hids
        obtain ⟨_, hinside, known⟩ := outcome_bind_eq_ok.1 known
        obtain ⟨_, houtside, known⟩ := outcome_bind_eq_ok.1 known
        obtain ⟨_, hevery, known⟩ := outcome_bind_eq_ok.1 known
        cases known
        rcases cases_ with ⟨set, rfl⟩ | ⟨unset, rfl⟩
        · exact ⟨[], .sorted rfl hinside houtside set, rfl⟩
        · exact ⟨_, .chosen rfl hinside houtside hevery unset, rfl⟩

theorem yields_make (o : WorkerOptions) :
    Yields (fun p cs => ∀ image ids, p.imageId.outcome = .ok image → p.subnets.outcome = .ok ids →
        ∃ qs, o.Asks s.cloud cluster image qs ∧ cs = qs.map (callOf placement))
      (Preparation.make name o cluster placement) s := by
  have quiet (d : Draft) (past : History) (_ : d.type ∈ supportTypes) (_ : d.isComponent = false)
      (_ : d.placement = placement) (c : Call) : d.event past ≠ .asked c := d.event_ne_asked past c
  refine (yields_of_ensures (ensures_obtainPair quiet name _ _)).bind fun pair _ _ h => ?_
  obtain ⟨_, rfl⟩ := h
  refine (yields_of_ensures (ensures_keyOf quiet name _)).bind fun keyName _ _ h => ?_
  obtain ⟨_, rfl⟩ := h
  refine (yields_imageId o.machine).bind fun imageId ofImage _ himage => ?_
  refine (yields_workerSubnetIds _).bind fun subnets ofSubnets _ hsubnets => ?_
  refine yields_pure fun image ids known knownIds => ?_
  obtain ⟨qs, asks, rfl⟩ := himage image known
  obtain ⟨qs', asks', rfl⟩ := hsubnets ids knownIds
  refine ⟨qs ++ qs', ⟨qs, qs', asks, asks', rfl⟩, ?_⟩
  rw [List.map_append, List.append_nil]
  rfl

theorem yields_userData (p : Preparation) (o : WorkerOptions) (stack : String) :
    Yields (fun d cs => ∀ v, d.outcome = .ok v →
        cs = (if o.startup.override.isTruthy then [] else [.region]).map (callOf placement))
      (StackGroup.userData p o cluster placement stack) s := by
  unfold StackGroup.userData
  split
  case isTrue => exact yields_pure fun _ _ => rfl
  case isFalse =>
    have region : Yields (fun d cs => ∀ v, d.outcome = .ok v → ∃ a, _ ∧ cs = [callOf placement .region])
        (Plan.deferred (askText placement .region Cloud.region)) s :=
      yields_whenKnown fun _ _ => (yields_askText placement .region _).bind fun v cs _ h =>
        yields_pure fun _ _ => h.2.symm ▸ rfl
    refine region.bind fun region cs _ h => yields_pure fun v hv => ?_
    obtain ⟨_, hscript, _⟩ := outcome_bind_eq_ok.1 hv
    obtain ⟨_, _, _, _, there, _, _, _, _, known, _⟩ := Preparation.outcome_script hscript
    obtain ⟨_, _, rfl⟩ := h there (known _ rfl)
    rfl

theorem yields_rootDevice (image : Deferred Json) :
    Yields (fun d cs => ∀ v, d.outcome = .ok v →
        ∃ id, image.outcome = .ok id ∧ cs = [callOf placement (.image id)])
      (rootDevice image placement) s := by
  refine yields_whenKnown fun id _ => ?_
  refine (yields_ask placement (.image id) _).bind fun devices cs _ h => ?_
  obtain ⟨_, rfl⟩ := h
  cases devices with
  | nil =>
      intro v hv
      cases hv
  | cons device _ => exact yields_pure fun _ _ => rfl

/-- A group of one's own whose drafts rely on nothing unknown asks as its options say. -/
theorem yields_drafts (f : Fleet) :
    Yields (fun d cs => (∀ p ∈ d.machine.properties, ∃ v, p.2.outcome = .ok v) →
        ∀ m, (∀ p ∈ (d.scaler m).properties, ∃ v, p.2.outcome = .ok v) →
          ∃ qs, f.group.Asks s.cloud cluster qs ∧ cs = qs.map (callOf placement))
      (f.drafts name cluster placement) s := by
  cases f with
  | stack o =>
      refine (yields_make o).bind fun p cs _ hp => ?_
      refine (yields_of_ensures ensures_site).bind fun here _ _ h => ?_
      obtain ⟨_, rfl⟩ := h
      refine (yields_userData p o _).bind fun script cs' _ hscript => ?_
      refine (yields_of_ensures (P := fun _ => True) (ensures_ofExcept fun _ _ => trivial)).bind
        fun rootDevice _ _ h => ?_
      obtain ⟨_, rfl⟩ := h
      refine yields_pure fun machine m scaler => ?_
      obtain ⟨image, himage⟩ := machine ("imageId", p.imageId)
        (by simp [StackGroup.configurationDraft])
      obtain ⟨v, hv⟩ := machine ("userData", script) (by simp [StackGroup.configurationDraft])
      obtain ⟨_, hbody⟩ := scaler ("templateBody", StackGroup.templateBody o p cluster m)
        (by simp [StackGroup.stackDraft])
      obtain ⟨_, _, _, _, ⟨ids, hids, _⟩, _⟩ := StackGroup.outcome_templateBody hbody
      obtain ⟨qs, asks, rfl⟩ := hp image ids himage hids
      refine ⟨_, .stack asks, ?_⟩
      rw [hscript v hv]
      simp only [List.map_append, List.append_nil, List.nil_append]
  | template o =>
      refine (yields_make o.toWorkerOptions).bind fun p cs _ hp => ?_
      refine (yields_rootDevice p.imageId).bind fun root cs' _ hroot => ?_
      refine (yields_of_ensures (P := fun r => TemplateGroup.blockDevice o.volume root = .ok r)
        (ensures_ofExcept fun _ h => h)).bind fun device _ _ h => ?_
      obtain ⟨hdevice, rfl⟩ := h
      refine yields_pure fun machine m scaler => ?_
      obtain ⟨image, himage⟩ := machine ("imageId", p.imageId)
        (by simp [TemplateGroup.templateDraft])
      obtain ⟨blocks, hblocks⟩ := machine ("blockDeviceMappings", do return .list [← device])
        (by simp [TemplateGroup.templateDraft])
      obtain ⟨ids, hids⟩ := scaler ("vpcZoneIdentifiers", p.subnets)
        (by simp [TemplateGroup.scalingDraft])
      obtain ⟨qs, asks, rfl⟩ := hp image ids himage hids
      obtain ⟨listed, hlisted, _⟩ := outcome_bind_eq_ok.1 hblocks
      obtain ⟨v, _, _, hv, _⟩ := TemplateGroup.blockDevice_eq_ok hdevice hlisted
      obtain ⟨id, hid, rfl⟩ := hroot v hv
      obtain rfl : image = id := Except.ok.inj (himage.symm.trans hid)
      refine ⟨_, .template asks, ?_⟩
      rw [List.map_append, List.append_nil]
      rfl

end Asked

end FleetPlan
