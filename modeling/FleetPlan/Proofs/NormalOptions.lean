import FleetPlan.Proofs.DeclaredFields
import FleetPlan.Proofs.PlainOptions

/-!
Options that are read from data are in normal form.

Whatever form a value had, what is read of it keeps the bounds of its field, and is read as itself once
it is written out. So options can be written back as data, their parts included, and are read again
unchanged.
-/
namespace FleetPlan

open Reader Checked Setting

namespace Setting

mutual

/-- Plain data in place of the parts of a request that were read already. -/
def spelled : Setting → Setting
  | .leaf (.taint t) => .map t.toEntries
  | .leaf (.scaling b) => .map b.scalingEntries
  | .list vs => .list (spelledList vs)
  | .map es => .map (spelledEntries es)
  | v => v

def spelledList : List Setting → List Setting
  | [] => []
  | v :: vs => spelled v :: spelledList vs

def spelledEntries : List (String × Setting) → List (String × Setting)
  | [] => []
  | (k, v) :: es => (k, spelled v) :: spelledEntries es

end

theorem spelled_list (vs : List Setting) : spelled (.list vs) = .list (vs.map spelled) := by
  have all : spelledList vs = vs.map spelled := by
    induction vs with
    | nil => rfl
    | cons v vs ih => exact congrArg (spelled v :: ·) ih
  exact congrArg Value.list all

theorem spelled_map (es : Entries Setting) :
    spelled (.map es) = .map (Entries.mapValues spelled es) := by
  have all : spelledEntries es = Entries.mapValues spelled es := by
    induction es with
    | nil => rfl
    | cons e es ih => exact congrArg ((e.1, spelled e.2) :: ·) ih
  exact congrArg Value.map all

theorem spelled_list_map {α : Type} (f : α → Setting) (as : List α) :
    spelled (.list (as.map f)) = .list (as.map fun a => (f a).spelled) := by
  rw [spelled_list, List.map_map]
  rfl

theorem spelled_map_mapValues {α : Type} (f : α → Setting) (as : Entries α) :
    spelled (.map (Entries.mapValues f as)) =
      .map (Entries.mapValues (fun a => (f a).spelled) as) := by
  rw [spelled_map, Entries.mapValues, Entries.mapValues, List.map_map]
  rfl

end Setting

namespace Reader

variable {α : Type} {r : Reader α} {w : α → Setting} {P Q : α → Prop}

theorem forall_of_unset : ∀ a, none = some a → P a := fun _ h => nomatch h

theorem Gives.mono (h : r.Gives P) (hPQ : ∀ a, P a → Q a) : r.Gives Q :=
  fun v a ha => hPQ a (h v a ha)

/-- A value is read as itself once it is written out. -/
def Keeps (r : Reader α) (w : α → Setting) (a : α) : Prop := r (w a).spelled = .ok a

theorem field_of_get? {es : Entries Setting} {key : String} {v : Setting} {default a : α}
    (hv : Entries.get? es key = some v) (ha : r v = .ok a) : field es key default r = .ok a := by
  simp only [field, hv, ha]
  rfl

theorem elements_map {f : α → Setting} {as : List α} (h : ∀ a ∈ as, r (f a) = .ok a) (i : Nat) :
    elements r i (as.map f) = .ok as := by
  induction as generalizing i with
  | nil => rfl
  | cons a as ih =>
      obtain ⟨head, tail⟩ := List.forall_mem_cons.mp h
      have first : (r (f a)).within (.index i) = .ok a := by
        rw [head]
        rfl
      exact apply_ok (map_ok first) (ih tail (i + 1))

theorem members_mapValues {f : α → Setting} {as : Entries α} (h : ∀ e ∈ as, r (f e.2) = .ok e.2) :
    members r (Entries.mapValues f as) = .ok as := by
  induction as with
  | nil => rfl
  | cons e as ih =>
      obtain ⟨head, tail⟩ := List.forall_mem_cons.mp h
      have first : (r (f e.2)).within (.key e.1) = .ok e.2 := by
        rw [head]
        rfl
      exact apply_ok (map_ok first) (ih tail)

theorem keeps_list {as : List α} (h : ∀ a ∈ as, r.Keeps w a) :
    (list r).Keeps (fun as => .list (as.map w)) as := by
  rw [Keeps, spelled_list_map]
  exact elements_map h 0

theorem keeps_map {as : Entries α} (h : ∀ e ∈ as, r.Keeps w e.2) :
    (map r).Keeps (fun as => .map (Entries.mapValues w as)) as := by
  rw [Keeps, spelled_map_mapValues]
  exact members_mapValues h

/-- What a reader takes that takes no null is not written as null. -/
theorem keeps_optional (hnull : ∃ fs, r .null = .error fs) {o : Option α}
    (h : ∀ a, o = some a → r.Keeps w a) : (optional r).Keeps (ofOption w) o := by
  cases o with
  | none => rfl
  | some a =>
      have read : r (w a).spelled = .ok a := h a rfl
      show optional r (w a).spelled = .ok (some a)
      unfold Reader.optional
      split
      case h_1 isNull =>
        obtain ⟨fs, refused⟩ := hnull
        rw [isNull, refused] at read
        cases read
      case h_2 => exact map_ok read

theorem keeps_text (s : String) : text.Keeps Value.text s := rfl

theorem keeps_flag (b : Bool) : flag.Keeps Value.bool b := rfl

theorem keeps_amount (x : Number) : amount.Keeps Value.number x := rfl

theorem keeps_textElement (x : Input String) : textElement.Keeps ofElement x := by
  cases x <;> rfl

theorem keeps_optionalText (x : TextInput) : (absentOr textInput).Keeps ofTextInput x := by
  match x with
  | .now none | .now (some _) | .later _ => rfl

theorem keeps_optionalList (x : ListInput) : (absentOr listInput).Keeps ofListInput x := by
  match x with
  | .now none | .later _ => rfl
  | .now (some xs) =>
      have elements : list textElement (spelled (.list (xs.map ofElement))) = .ok xs :=
        keeps_list fun x _ => keeps_textElement x
      rw [spelled_list_map] at elements
      show absentOr listInput (spelled (.list (xs.map ofElement))) = _
      rw [spelled_list_map]
      simp only [absentOr, listInput, inputOf, elements]
      rfl

theorem keeps_optionalTags (x : TagsInput) : (absentOr tagsInput).Keeps ofTagsInput x := by
  match x with
  | .now none | .later _ => rfl
  | .now (some es) =>
      have members : map textElement (spelled (.map (Entries.mapValues ofElement es))) = .ok es :=
        keeps_map fun e _ => keeps_textElement e.2
      rw [spelled_map_mapValues] at members
      show absentOr tagsInput (spelled (.map (Entries.mapValues ofElement es))) = _
      rw [spelled_map_mapValues]
      simp only [absentOr, tagsInput, inputOf, members]
      rfl

theorem keeps_share (x : Input Int) : integerInput.Keeps (Setting.ofInput Value.int) x := by
  cases x <;> rfl

theorem gives_integerFrom (least : Int) : (integerFrom least).Gives fun n => least ≤ n := by
  intro v n h
  unfold integerFrom at h
  split at h
  · split at h
    case isTrue bounded =>
      cases h
      exact bounded
    case isFalse => cases h
  · cases h

theorem keeps_integerFrom {least n : Int} (h : least ≤ n) : (integerFrom least).Keeps Value.int n :=
  if_pos h

theorem gives_choice (all : List α) (code : α → String) :
    (choice all code).Gives ((choice all code).Keeps fun a => .text (code a)) := by
  intro v a h
  cases v with
  | text s =>
      cases found : all.find? fun a => code a = s with
      | none => simp [Json.embed, choice, found, refuse] at h
      | some b =>
          simp only [Json.embed, choice, found, Except.ok.injEq] at h
          have same : code b = s := by simpa using List.find?_some found
          subst h
          show choice all code (.text (code b)) = _
          rw [same]
          simp only [choice, found]
  | leaf x => cases x
  | null | bool _ | number _ | list _ | map _ => cases h

theorem keeps_taint (t : Taint) : Taint.read.Keeps (fun t => .leaf (.taint t)) t := by
  obtain ⟨value, effect⟩ := t
  cases effect <;> rfl

end Reader

/-- Every bound that is set is at least zero, and the upper one at least as said. -/
structure Bounds.IsAtLeast (b : Bounds) (most : Int) : Prop where
  desired : ∀ n, b.desired = some n → 0 ≤ n
  least : ∀ n, b.least = some n → 0 ≤ n
  most : ∀ n, b.most = some n → most ≤ n

namespace Reader

theorem gives_optionalBound (least : Int) :
    (optional (integerFrom least)).Gives fun o => ∀ n, o = some n → least ≤ n :=
  gives_optional (gives_integerFrom least)

theorem read_optionalBound {least : Int} {o : Option Int} (h : ∀ n, o = some n → least ≤ n) :
    optional (integerFrom least) (Bounds.optionalInt o) = .ok o := by
  cases o with
  | none => rfl
  | some n => exact map_ok (if_pos (h n rfl))

theorem keeps_optionalBound {least : Int} {o : Option Int} (h : ∀ n, o = some n → least ≤ n) :
    (optional (integerFrom least)).Keeps Bounds.optionalInt o := by
  have plain : (Bounds.optionalInt o).spelled = Bounds.optionalInt o := by cases o <;> rfl
  rw [Keeps, plain]
  exact read_optionalBound h

theorem gives_scaling : Bounds.readScaling.Gives fun b => b.IsAtLeast 1 := by
  intro v b h
  cases v with
  | map es =>
      obtain ⟨_, _, h₂, most, rfl⟩ := apply_eq_ok.mp (withFaults_eq_ok h)
      obtain ⟨_, _, h₁, least, rfl⟩ := apply_eq_ok.mp h₂
      obtain ⟨_, desired, rfl⟩ := map_eq_ok h₁
      exact ⟨(gives_optionalBound 0).field forall_of_unset desired,
        (gives_optionalBound 0).field forall_of_unset least,
        (gives_optionalBound 1).field forall_of_unset most⟩
  | leaf x => cases x
  | null | bool _ | number _ | text _ | list _ => cases h

theorem keeps_scaling {b : Bounds} (h : b.IsAtLeast 1) :
    Bounds.readScaling.Keeps (fun b => .leaf (.scaling b)) b := by
  have desired : field b.scalingEntries "desired_size" none (optional (integerFrom 0)) =
      .ok b.desired := field_of_get? rfl (read_optionalBound h.desired)
  have least : field b.scalingEntries "min_size" none (optional (integerFrom 0)) = .ok b.least :=
    field_of_get? rfl (read_optionalBound h.least)
  have most : field b.scalingEntries "max_size" none (optional (integerFrom 1)) = .ok b.most :=
    field_of_get? rfl (read_optionalBound h.most)
  exact withFaults_eq_ok_iff.mpr ⟨apply_ok (apply_ok (map_ok desired) least) most, rfl⟩

theorem gives_profile_kept : Profile.read.Gives (Profile.read.Keeps Profile.toSetting) := by
  intro v p h
  cases v with
  | null | text _ =>
      cases h
      rfl
  | leaf x => cases x
  | bool _ | number _ | list _ | map _ => cases h

theorem gives_textInput_kept : textInput.Gives (textInput.Keeps ofTextInput) := by
  intro v x h
  cases v with
  | text _ =>
      cases h
      rfl
  | leaf x => cases x
  | null | bool _ | number _ | list _ | map _ => cases h

end Reader

namespace FieldRule

def Keeps (r : FieldRule) (a : r.Value) : Prop := r.read.Keeps r.write a

/-- The default of a field and whatever is read of data for it are read as themselves once they are
written out. -/
structure IsStable (r : FieldRule) : Prop where
  default : r.Keeps r.default
  read : r.read.Gives r.Keeps

variable {r : FieldRule}

theorem isStable_of_forall (h : ∀ a, r.Keeps a) : r.IsStable := ⟨h _, fun _ a _ => h a⟩

/-- A reader of what data cannot hold reads no value of data. -/
theorem isStable_of_unread {α : Type} {r : Reader α} {w : α → Setting} {key : String}
    (hr : r.Gives fun _ => False) (hnull : ∃ fs, r .null = .error fs) :
    IsStable ⟨Option α, key, none, optional r, ofOption w⟩ :=
  ⟨rfl, (gives_optional hr).mono fun _ unread => keeps_optional hnull fun a ha => (unread a ha).elim⟩

variable (key : String)

theorem isStable_ofText : (ofText key).IsStable :=
  isStable_of_forall fun _ => keeps_optional ⟨_, rfl⟩ fun s _ => keeps_text s

theorem isStable_ofInput : (ofInput key).IsStable := isStable_of_forall keeps_optionalText

theorem isStable_ofList : (ofList key).IsStable := isStable_of_forall keeps_optionalList

theorem isStable_ofTags : (ofTags key).IsStable := isStable_of_forall keeps_optionalTags

theorem isStable_ofFlag (default : Bool) : (ofFlag key default).IsStable :=
  isStable_of_forall keeps_flag

theorem isStable_ofBound (least : Int) : (ofBound key least).IsStable :=
  ⟨rfl, (gives_optionalBound least).mono fun _ => keeps_optionalBound⟩

theorem isStable_ofAmount : (ofAmount key).IsStable :=
  isStable_of_forall fun _ => keeps_optional ⟨_, rfl⟩ fun x _ => keeps_amount x

theorem isStable_ofChoice {α : Type} (all : List α) (code : α → String) :
    (ofChoice key all code).IsStable :=
  ⟨rfl, (gives_optional (gives_choice all code)).mono fun _ => keeps_optional ⟨_, rfl⟩⟩

theorem isStable_ofResource (type : String) : (ofResource key type).IsStable :=
  isStable_of_unread (gives_resource type) ⟨_, rfl⟩

theorem isStable_ofBlock (kind : BlockKind) : (ofBlock key kind).IsStable :=
  isStable_of_unread (gives_block kind) ⟨_, rfl⟩

theorem keeps_texts (es : Entries String) : (map text).Keeps ofTexts es :=
  keeps_map fun e _ => keeps_text e.2

theorem isStable_ofLabels : (ofLabels key).IsStable :=
  isStable_of_forall fun _ => keeps_optional ⟨_, rfl⟩ fun es _ => keeps_texts es

theorem isStable_ofTaints : (ofTaints key).IsStable :=
  isStable_of_forall fun _ => keeps_optional ⟨_, rfl⟩ fun _ _ => keeps_map fun e _ => keeps_taint e.2

end FieldRule

open FieldRule

theorem WorkerOptions.isStable_rules : ∀ r ∈ rules, r.IsStable := by
  have placement : ∀ r ∈ placementRules, r.IsStable := by
    simp only [placementRules, List.forall_mem_cons]
    exact ⟨isStable_ofList _, isStable_ofFlag _ _, List.forall_mem_nil _⟩
  have machine : ∀ r ∈ machineRules, r.IsStable := by
    simp only [machineRules, List.forall_mem_cons]
    exact ⟨⟨rfl, gives_textInput_kept⟩, isStable_ofInput _, isStable_ofInput _, isStable_ofText _,
      isStable_ofFlag _ _, isStable_ofInput _, List.forall_mem_nil _⟩
  have firewall : ∀ r ∈ firewallRules, r.IsStable := by
    simp only [firewallRules, List.forall_mem_cons]
    exact ⟨isStable_ofResource _ _, isStable_ofResource _ _,
      ⟨rfl, (gives_list (gives_resource _)).mono fun _ unread =>
        keeps_list fun r hr => (unread r hr).elim⟩,
      List.forall_mem_nil _⟩
  have access : ∀ r ∈ accessRules, r.IsStable := by
    simp only [accessRules, List.forall_mem_cons]
    exact ⟨isStable_ofInput _, isStable_ofInput _, List.forall_mem_nil _⟩
  have volume : ∀ r ∈ volumeRules, r.IsStable := by
    simp only [volumeRules, List.forall_mem_cons]
    exact ⟨⟨rfl, (gives_integerFrom 1).mono fun _ => keeps_integerFrom⟩, isStable_ofFlag _ _,
      isStable_ofFlag _ _, isStable_ofAmount _, isStable_ofAmount _, ⟨rfl, gives_choice _ _⟩,
      List.forall_mem_nil _⟩
  have startup : ∀ r ∈ startupRules, r.IsStable := by
    simp only [startupRules, List.forall_mem_cons]
    exact ⟨isStable_ofInput _, isStable_ofInput _, isStable_ofLabels _, isStable_ofTaints _,
      isStable_ofText _, isStable_ofText _, List.forall_mem_nil _⟩
  have bounds : ∀ r ∈ boundsRules, r.IsStable := by
    simp only [boundsRules, List.forall_mem_cons]
    exact ⟨isStable_ofBound _ _, isStable_ofBound _ _, isStable_ofBound _ _, List.forall_mem_nil _⟩
  have identity : ∀ r ∈ identityRules, r.IsStable := by
    simp only [identityRules, List.forall_mem_cons]
    exact ⟨⟨rfl, gives_profile_kept⟩, isStable_ofTags _, isStable_ofTags _, List.forall_mem_nil _⟩
  simp only [rules, List.forall_mem_append]
  exact ⟨⟨⟨⟨⟨⟨⟨placement, machine⟩, firewall⟩, access⟩, volume⟩, startup⟩, bounds⟩, identity⟩

theorem TemplateOptions.isStable_rules : ∀ r ∈ rules, r.IsStable := by
  simp only [rules, List.forall_mem_append, List.forall_mem_cons]
  exact ⟨WorkerOptions.isStable_rules, isStable_of_forall keeps_share,
    ⟨rfl, (gives_optional (gives_list (gives_block .templateTags))).mono fun _ unread =>
      keeps_optional ⟨_, rfl⟩ fun bs hbs => keeps_list fun b hb => (unread bs hbs b hb).elim⟩,
    List.forall_mem_nil _⟩

theorem ManagedOptions.isStable_rules : ∀ r ∈ rules, r.IsStable := by
  simp only [rules, List.forall_mem_cons]
  exact ⟨isStable_ofInput _, isStable_ofInput _, isStable_ofResource _ _, isStable_ofInput _,
    isStable_ofList _,
    ⟨rfl, (gives_optional gives_scaling).mono fun _ bounded =>
      keeps_optional ⟨_, rfl⟩ fun b hb => keeps_scaling (bounded b hb)⟩,
    isStable_of_forall fun _ => keeps_optional ⟨_, rfl⟩ fun _ _ => keeps_list fun s _ => keeps_text s,
    isStable_ofChoice _ _ _, isStable_ofChoice _ _ _, isStable_ofBound _ _, isStable_ofInput _,
    isStable_ofInput _,
    isStable_of_forall fun _ => keeps_optional ⟨_, rfl⟩ fun b _ => keeps_flag b,
    isStable_ofLabels _, isStable_ofTaints _, isStable_ofBlock _ _, isStable_ofBlock _ _,
    isStable_ofBlock _ _, isStable_of_forall keeps_texts, List.forall_mem_nil _⟩

theorem GroupKind.isStable_rules (kind : GroupKind) : ∀ r ∈ kind.rules, r.IsStable := by
  cases kind with
  | stack => exact WorkerOptions.isStable_rules
  | template => exact TemplateOptions.isStable_rules
  | managed => exact ManagedOptions.isStable_rules

/-! The bounds of what is read. -/

theorem TaintEffect.mem_all (e : TaintEffect) : e ∈ all := by cases e <;> decide

theorem VolumeType.mem_all (t : VolumeType) : t ∈ all := by cases t <;> decide

theorem Purchase.mem_all (p : Purchase) : p ∈ all := by cases p <;> decide

theorem ManagedImage.mem_all (i : ManagedImage) : i ∈ all := by cases i <;> decide

/-- Numbers keep the bounds of their fields, and what was chosen is one of the choices. -/
structure WorkerOptions.IsNormal (o : WorkerOptions) : Prop where
  volumeSize : 1 ≤ o.volume.size
  volumeType : o.volume.type ∈ VolumeType.all
  bounds : o.bounds.IsAtLeast 0
  effects : ∀ ts, o.startup.agent.taints = some ts → ∀ t ∈ ts, t.2.effect ∈ TaintEffect.all

/-- Numbers keep the bounds of their fields, and what was chosen is one of the choices. -/
structure ManagedOptions.IsNormal (o : ManagedOptions) : Prop where
  diskSize : ∀ n, o.diskSize = some n → 1 ≤ n
  scaling : ∀ b, o.scaling = some b → b.IsAtLeast 1
  purchase : ∀ p, o.purchase = some p → p ∈ Purchase.all
  image : ∀ i, o.image = some i → i ∈ ManagedImage.all
  effects : ∀ ts, o.taints = some ts → ∀ t ∈ ts, t.2.effect ∈ TaintEffect.all

variable {es : Entries Json}

theorem WorkerOptions.isNormal_of_readFields {o : WorkerOptions}
    (h : readFields (Json.embedEntries es) = .ok o) : o.IsNormal := by
  have read := readFields_eq_ok.mp h
  simp only [values, volumeValues, boundsValues, List.forall_mem_append, List.forall_mem_cons] at read
  obtain ⟨⟨⟨⟨_, size, _⟩, _⟩, desired, least, most, _⟩, _⟩ := read
  have atLeastOne : (1 : Int) ≤ 20 := by decide
  exact {
    volumeSize := (gives_integerFrom 1).field atLeastOne size
    volumeType := VolumeType.mem_all _
    bounds := ⟨(gives_optionalBound 0).field forall_of_unset desired,
      (gives_optionalBound 0).field forall_of_unset least,
      (gives_optionalBound 0).field forall_of_unset most⟩
    effects := fun _ _ _ _ => TaintEffect.mem_all _ }

theorem ManagedOptions.isNormal_of_readFields {o : ManagedOptions}
    (h : readFields (Json.embedEntries es) = .ok o) : o.IsNormal := by
  have read := readFields_eq_ok.mp h
  simp only [values, List.forall_mem_cons] at read
  obtain ⟨_, _, _, _, _, scaling, _, _, _, disk, _⟩ := read
  exact {
    diskSize := (gives_optionalBound 1).field forall_of_unset disk
    scaling := (gives_optional gives_scaling).field forall_of_unset scaling
    purchase := fun _ _ => Purchase.mem_all _
    image := fun _ _ => ManagedImage.mem_all _
    effects := fun _ _ _ _ => TaintEffect.mem_all _ }

namespace GroupOptions

def IsNormal : GroupOptions → Prop
  | stack o => o.IsNormal
  | template o => o.toWorkerOptions.IsNormal
  | managed o => o.IsNormal

/-- All fields, written out as plain data where they hold any. -/
def written (o : GroupOptions) : Entries Setting := Entries.mapValues spelled o.toEntries

theorem isNormal_of_ofFields {kind : GroupKind} {o : GroupOptions}
    (h : ofFields (Json.embedEntries es) kind = .ok o) : o.IsNormal := by
  obtain ⟨rfl, read, _⟩ := ofFields_eq_ok.mp h
  cases o with
  | stack o => exact WorkerOptions.isNormal_of_readFields (WorkerOptions.readFields_eq_ok.mpr read)
  | template o =>
      obtain ⟨worker, _⟩ := List.forall_mem_append.mp read
      exact WorkerOptions.isNormal_of_readFields (WorkerOptions.readFields_eq_ok.mpr worker)
  | managed o =>
      exact ManagedOptions.isNormal_of_readFields (ManagedOptions.readFields_eq_ok.mpr read)

theorem keys_written (o : GroupOptions) : Entries.keys o.written = o.kind.fields :=
  (Entries.keys_mapValues _ _).trans o.keys_toEntries

/-- A field that keeps its value is read of the options that are written out. -/
theorem isReadFrom_written {o : GroupOptions} {v : FieldValue} (hv : v ∈ o.values)
    (keeps : v.rule.Keeps v.value) : v.IsReadFrom o.written := by
  have entry : (v.rule.key, (v.rule.write v.value).spelled) ∈ o.written := by
    have declared : v.entry ∈ o.toEntries := o.toEntries_eq ▸ List.mem_map_of_mem hv
    exact Entries.mem_mapValues declared
  have distinct : (Entries.keys o.written).Nodup := o.keys_written ▸ o.kind.nodup_fields
  exact field_of_get? (Entries.get?_of_mem distinct entry) keeps

/-- Options that are read of data keep the bounds of their fields, and are read again as they are once
they are written out. -/
theorem normal_of_ofFields {kind : GroupKind} {o : GroupOptions}
    (h : ofFields (Json.embedEntries es) kind = .ok o) :
    o.IsNormal ∧ ofFields o.written kind = .ok o := by
  refine ⟨isNormal_of_ofFields h, ?_⟩
  obtain ⟨rfl, read, _⟩ := ofFields_eq_ok.mp h
  have kept : ∀ v ∈ o.values, v.rule.Keeps v.value := fun v hv => by
    have stable := o.kind.isStable_rules v.rule (o.rules_values ▸ List.mem_map_of_mem hv)
    exact stable.read.field stable.default (read v hv)
  have declared : ∀ k ∈ Entries.keys o.written, k ∈ o.kind.fields := o.keys_written ▸ fun _ hk => hk
  exact ofFields_eq_ok.mpr
    ⟨rfl, fun v hv => isReadFrom_written hv (kept v hv), strangers_eq_nil.mpr declared⟩

/-- Fields in other forms than the ones that are read of them. -/
def looseFields : Entries Json := [
  ("node_root_volume_size", .text " 2_0.0 "), ("node_root_volume_iops", .float .nan),
  ("desired_capacity", .bool true), ("max_size", .text "+3"), ("gpu", .text "No"),
  ("taints", .map [("spot", .map [("effect", .text "NoExecute"), ("value", .text "yes")])])]

theorem normal_of_ofFields_looseFields :
    ∃ o, ofFields (Json.embedEntries looseFields) .stack = .ok (stack o) ∧
      (o.volume.size = 20 ∧ o.bounds = ⟨some 1, none, some 3⟩) ∧
      (stack o).IsNormal ∧ ofFields (stack o).written .stack = .ok (stack o) := by
  obtain ⟨o, read, known⟩ : ∃ o, ofFields (Json.embedEntries looseFields) .stack = .ok (stack o) ∧
      (o.volume.size = 20 ∧ o.bounds = ⟨some 1, none, some 3⟩) := ⟨_, rfl, rfl, rfl⟩
  exact ⟨o, read, known, normal_of_ofFields read⟩

end GroupOptions
end FleetPlan
