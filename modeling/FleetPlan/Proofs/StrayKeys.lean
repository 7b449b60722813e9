import FleetPlan.Proofs.DeclaredFields
import FleetPlan.Proofs.PlainOptions

/-!
Keys that no field declares.

An entry of a list of groups has its options, their taints and their scaling bounds, and each of these
maps declares its keys. An entry that is read has no other keys in them; another key is reported at its
own place, whatever else is wrong with the entry.
-/
namespace FleetPlan

open Reader Checked

theorem Json.embedEntries_eq (es : Entries Json) :
    (embedEntries es : Entries Setting) = Entries.mapValues embed es := by
  induction es with
  | nil => rfl
  | cons e es ih => exact congrArg ((e.1, embed e.2) :: ·) ih

theorem Json.keys_embedEntries (es : Entries Json) :
    Entries.keys (embedEntries es : Entries Setting) = Entries.keys es := by
  rw [embedEntries_eq, Entries.keys_mapValues]

/-- A map with no other keys than these. -/
def Json.IsMapOf (declared : List String) (v : Json) : Prop :=
  ∃ es, v = .map es ∧ ∀ k ∈ Entries.keys es, k ∈ declared

/-! Faults on the way to a key. -/

section Faults

variable {α : Type} {r : Reader α} {f : FieldFault}

theorem Checked.exists_error {x : Checked α} (h : f ∈ x.faults) : ∃ fs, x = .error fs ∧ f ∈ fs := by
  cases x with
  | ok a => cases h
  | error fs => exact ⟨fs, rfl, h⟩

theorem Checked.mem_faults_within {x : Checked α} (h : f ∈ x.faults) (step : PathStep) :
    f.within step ∈ (within step x).faults :=
  faults_within step x ▸ List.mem_map_of_mem h

theorem Reader.mem_strangers {declared : List String} {es : Entries Setting} {k : String}
    (hk : k ∈ Entries.keys es) (stray : k ∉ declared) :
    ⟨[.key k], .unknownField⟩ ∈ strangers declared es := by
  obtain ⟨e, he, rfl⟩ := List.mem_map.mp hk
  have kept : e ∈ es.filter fun e => !declared.contains e.1 := by simp [he, stray]
  exact List.mem_map_of_mem kept

theorem Reader.mem_faults_members {k : String} {v : Setting} {es : Entries Setting}
    (hv : (k, v) ∈ es) (h : f ∈ (r v).faults) : f.within (.key k) ∈ (members r es).faults := by
  induction es with
  | nil => cases hv
  | cons e es ih =>
      rw [members, faults_apply, faults_map]
      cases hv with
      | head => exact List.mem_append_left _ (mem_faults_within h _)
      | tail _ hv => exact List.mem_append_right _ (ih hv)

theorem Reader.mem_faults_optional {ts : Entries Setting} (h : f ∈ (r (.map ts)).faults) :
    f ∈ (optional r (.map ts)).faults :=
  (faults_map (r (.map ts)) some).symm ▸ h

end Faults

/-! Maps that are read. -/

theorem Taint.isMapOf_of_read {v : Json} {t : Taint} (h : read v.embed = .ok t) :
    v.IsMapOf fields := by
  cases v with
  | map es =>
      have declared := strangers_eq_nil.mp (withFaults_eq_ok_iff.mp h).2
      exact ⟨es, rfl, Json.keys_embedEntries es ▸ declared⟩
  | leaf x => cases x
  | null | bool _ | number _ | text _ | list _ => cases h

theorem Bounds.isMapOf_of_readScaling {v : Json} {b : Bounds} (h : readScaling v.embed = .ok b) :
    v.IsMapOf scalingFields := by
  cases v with
  | map es =>
      have declared := strangers_eq_nil.mp (withFaults_eq_ok_iff.mp h).2
      exact ⟨es, rfl, Json.keys_embedEntries es ▸ declared⟩
  | leaf x => cases x
  | null | bool _ | number _ | text _ | list _ => cases h

namespace Reader

variable {α : Type} {r : Reader α}

theorem null_or_of_optional {v : Json} {o : Option α} (h : optional r v.embed = .ok o) :
    v = .null ∨ ∃ a, r v.embed = .ok a := by
  cases v with
  | null => exact .inl rfl
  | leaf x => cases x
  | bool _ | number _ | text _ | list _ | map _ =>
      obtain ⟨a, read, _⟩ := map_eq_ok h
      exact .inr ⟨a, read⟩

theorem read_of_members {vs : Entries Json} {as : Entries α}
    (h : members r (Json.embedEntries vs) = .ok as) : ∀ e ∈ vs, ∃ a, r (Json.embed e.2) = .ok a := by
  induction vs generalizing as with
  | nil => exact List.forall_mem_nil _
  | cons e vs ih =>
      obtain ⟨_, _, first, rest, _⟩ := apply_eq_ok.mp h
      obtain ⟨a, read, _⟩ := map_eq_ok first
      exact List.forall_mem_cons.mpr ⟨⟨a, within_eq_ok read⟩, ih rest⟩

theorem read_of_map {v : Json} {as : Entries α} (h : map r v.embed = .ok as) :
    ∃ vs, v = .map vs ∧ ∀ e ∈ vs, ∃ a, r (Json.embed e.2) = .ok a := by
  cases v with
  | map vs => exact ⟨vs, rfl, read_of_members h⟩
  | leaf x => cases x
  | null | bool _ | number _ | text _ | list _ => cases h

end Reader

/-! The options of an entry. -/

theorem GroupKind.taints_mem_rules (kind : GroupKind) : FieldRule.ofTaints "taints" ∈ kind.rules := by
  have worker : FieldRule.ofTaints "taints" ∈ WorkerOptions.rules := by
    simp [WorkerOptions.rules, WorkerOptions.startupRules]
  cases kind with
  | stack => exact worker
  | template => exact List.mem_append_left _ worker
  | managed => simp [rules, ManagedOptions.rules]

theorem GroupKind.scaling_mem_rules : FieldRule.scaling ∈ managed.rules := by
  simp [rules, ManagedOptions.rules]

/-- The name and the kind of an entry are no options. -/
theorem GroupKind.not_mem_fields (kind : GroupKind) :
    "name" ∉ kind.fields ∧ "kind" ∉ kind.fields := by
  cases kind <;> decide

namespace GroupSpec

variable {es : Entries Json}

theorem optionFields_eq (es : Entries Json) :
    optionFields es = Entries.erase (Entries.erase es "name") "kind" := rfl

theorem mem_keys_optionFields {k : String} :
    k ∈ Entries.keys (optionFields es) ↔ k ∈ Entries.keys es ∧ k ≠ "name" ∧ k ≠ "kind" := by
  rw [optionFields_eq, Entries.mem_keys_erase, Entries.mem_keys_erase, and_assoc]

theorem get?_optionFields {kind : GroupKind} {r : FieldRule} (hr : r ∈ kind.rules) :
    Entries.get? (Json.embedEntries (optionFields es) : Entries Setting) r.key =
      (Entries.get? es r.key).map Json.embed := by
  have declared : r.key ∈ kind.fields := kind.keys_rules ▸ List.mem_map_of_mem hr
  have notName : r.key ≠ "name" := fun same => kind.not_mem_fields.1 (same ▸ declared)
  have notKind : r.key ≠ "kind" := fun same => kind.not_mem_fields.2 (same ▸ declared)
  rw [Json.get?_embedEntries, optionFields_eq, Entries.get?_erase notKind,
    Entries.get?_erase notName]

/-- The places of keys that are declared nowhere, in the maps that are read of an entry. -/
inductive IsStray (kind : GroupKind) (es : Entries Json) : List PathStep → Prop where
  | field {k : String} : k ∈ Entries.keys es → k ≠ "name" → k ≠ "kind" → k ∉ kind.fields →
      IsStray kind es [.key k]
  | taint {ts t : Entries Json} {k x : String} : Entries.get? es "taints" = some (.map ts) →
      (k, .map t) ∈ ts → x ∈ Entries.keys t → x ∉ Taint.fields →
      IsStray kind es [.key "taints", .key k, .key x]
  | scaling {s : Entries Json} {x : String} : kind = .managed →
      Entries.get? es "scaling_config" = some (.map s) → x ∈ Entries.keys s →
      x ∉ Bounds.scalingFields → IsStray kind es [.key "scaling_config", .key x]

/-- The faults of a field that is given are faults of the options. -/
theorem mem_faults_of_rule {kind : GroupKind} {r : FieldRule} (hr : r ∈ kind.rules) {v : Json}
    (hv : Entries.get? es r.key = some v) {f : FieldFault} (hf : f ∈ (r.read v.embed).faults) :
    f.within (.key r.key) ∈
      (GroupOptions.ofFields (Json.embedEntries (optionFields es)) kind).faults := by
  rw [GroupOptions.faults_ofFields]
  refine List.mem_append_left _ (List.mem_flatMap.mpr ⟨r, hr, ?_⟩)
  rw [FieldRule.value, field, get?_optionFields hr, hv]
  exact mem_faults_within hf _

theorem mem_faults_of_isStray {kind : GroupKind} {path : List PathStep} (h : IsStray kind es path) :
    ⟨path, .unknownField⟩ ∈
      (GroupOptions.ofFields (Json.embedEntries (optionFields es)) kind).faults := by
  cases h with
  | field given notName notKind stray =>
      rw [GroupOptions.faults_ofFields]
      refine List.mem_append_right _ (mem_strangers ?_ stray)
      rw [Json.keys_embedEntries]
      exact mem_keys_optionFields.mpr ⟨given, notName, notKind⟩
  | @taint ts t k x hts ht hx stray =>
      have here : ⟨[.key x], .unknownField⟩ ∈ (Taint.read (Json.embed (.map t))).faults := by
        rw [Json.embed, Taint.read, Taint.ofFields, faults_withFaults]
        exact List.mem_append_right _ (mem_strangers (Json.keys_embedEntries t ▸ hx) stray)
      have entry : (k, Json.embed (.map t)) ∈ (Json.embedEntries ts : Entries Setting) :=
        Json.embedEntries_eq ts ▸ Entries.mem_mapValues ht
      exact mem_faults_of_rule kind.taints_mem_rules hts
        (mem_faults_optional (mem_faults_members entry here))
  | @scaling s x hkind hs hx stray =>
      subst hkind
      have here : ⟨[.key x], .unknownField⟩ ∈
          (Bounds.readScaling (.map (Json.embedEntries s))).faults := by
        rw [Bounds.readScaling, Bounds.ofFields, faults_withFaults]
        exact List.mem_append_right _ (mem_strangers (Json.keys_embedEntries s ▸ hx) stray)
      exact mem_faults_of_rule GroupKind.scaling_mem_rules hs (mem_faults_optional here)

/-- No map that is read of an entry has a key that is declared nowhere. -/
structure IsSpelledRight (kind : GroupKind) (es : Entries Json) : Prop where
  fields : ∀ k ∈ Entries.keys es, k = "name" ∨ k = "kind" ∨ k ∈ kind.fields
  taints : ∀ v, Entries.get? es "taints" = some v →
    v = .null ∨ ∃ ts, v = .map ts ∧ ∀ e ∈ ts, Json.IsMapOf Taint.fields e.2
  scaling : kind = .managed → ∀ v, Entries.get? es "scaling_config" = some v →
    v = .null ∨ v.IsMapOf Bounds.scalingFields

/-- A field that is given has what its reader makes of it, and another one its default. -/
def HoldsAt (es : Entries Json) (v : FieldValue) : Prop :=
  match Entries.get? es v.rule.key with
  | none => v.value = v.rule.default
  | some j => v.rule.read j.embed = .ok v.value

/-- A group is what an entry says: its name, its kind and each of the fields of that kind. -/
structure IsReadOf (spec : GroupSpec) (kind : GroupKind) (es : Entries Json) : Prop where
  name : spec.name = .ofOption (Entries.get? es "name")
  spelling : IsSpelledRight kind es
  fields : (spec.options.values.map fun v => v.rule.key) = kind.fields
  kind : spec.options.kind = kind
  values : ∀ v ∈ spec.options.values, HoldsAt es v

theorem holdsAt_of_isReadFrom {kind : GroupKind} {v : FieldValue} (hv : v.rule ∈ kind.rules)
    (h : v.IsReadFrom (Json.embedEntries (optionFields es))) : HoldsAt es v := by
  rw [FieldValue.IsReadFrom, FieldRule.value, field, get?_optionFields hv] at h
  unfold HoldsAt
  cases given : Entries.get? es v.rule.key with
  | none =>
      rw [given] at h
      exact (Except.ok.inj h).symm
  | some j =>
      rw [given] at h
      exact within_eq_ok h

/-- A field that is given is read. -/
theorem read_of_rule {o : GroupOptions} {r : FieldRule} {v : Json}
    (values : ∀ v ∈ o.values, HoldsAt es v) (hr : r ∈ o.kind.rules)
    (hv : Entries.get? es r.key = some v) : ∃ a, r.read v.embed = .ok a := by
  rw [← o.rules_values] at hr
  obtain ⟨x, hx, rfl⟩ := List.mem_map.mp hr
  have holds := values x hx
  rw [HoldsAt, hv] at holds
  exact ⟨_, holds⟩

theorem holds_of_ofFields {kind : GroupKind} {o : GroupOptions}
    (h : GroupOptions.ofFields (Json.embedEntries (optionFields es)) kind = .ok o) :
    ∀ v ∈ o.values, HoldsAt es v := by
  obtain ⟨rfl, read, _⟩ := GroupOptions.ofFields_eq_ok.mp h
  exact fun v hv => holdsAt_of_isReadFrom (o.rules_values ▸ List.mem_map_of_mem hv) (read v hv)

theorem isSpelledRight_of_ofFields {kind : GroupKind} {o : GroupOptions}
    (h : GroupOptions.ofFields (Json.embedEntries (optionFields es)) kind = .ok o) :
    IsSpelledRight kind es := by
  have values := holds_of_ofFields h
  obtain ⟨rfl, _, none⟩ := GroupOptions.ofFields_eq_ok.mp h
  refine ⟨fun k hk => ?_, fun v hv => ?_, fun hkind v hv => ?_⟩
  · by_cases named : k = "name"
    · exact .inl named
    by_cases kinded : k = "kind"
    · exact .inr (.inl kinded)
    have option : k ∈ Entries.keys (optionFields es) := mem_keys_optionFields.mpr ⟨hk, named, kinded⟩
    rw [← Json.keys_embedEntries] at option
    exact .inr (.inr (strangers_eq_nil.mp none k option))
  · obtain ⟨_, taints⟩ := read_of_rule values o.kind.taints_mem_rules hv
    refine (null_or_of_optional taints).imp_right fun ⟨_, read⟩ => ?_
    obtain ⟨ts, rfl, each⟩ := read_of_map read
    exact ⟨ts, rfl, fun e he => (each e he).elim fun _ => Taint.isMapOf_of_read⟩
  · obtain ⟨_, scaling⟩ := read_of_rule values (hkind ▸ GroupKind.scaling_mem_rules) hv
    exact (null_or_of_optional scaling).imp_right fun ⟨_, read⟩ => Bounds.isMapOf_of_readScaling read

variable {index : Int} {kind : GroupKind}

/-- An entry of a known kind that has a name is read as all that it says, and every key in it that is
declared nowhere is reported at its place. -/
theorem ofEntry_spelled (hname : (Value.ofOption (Entries.get? es "name")).isTruthy = true)
    (hkind : kindOf? es = .ok kind) :
    (∀ spec, ofEntry index (.map es) = .ok spec → spec.IsReadOf kind es) ∧
      ∀ path, IsStray kind es path → ∃ faults,
        ofEntry index (.map es) =
          .error (.invalidOptions index (.ofOption (Entries.get? es "name")) faults) ∧
        ⟨path, .unknownField⟩ ∈ faults := by
  refine ⟨fun spec h => ?_, fun path stray => ?_⟩
  · obtain ⟨_, asked, same, named, _, asks, read⟩ := readEntry_eq_ok_iff.mp h
    cases same
    obtain rfl : kind = asked := Except.ok.inj (hkind.symm.trans asks)
    obtain ⟨rfl, _, _⟩ := GroupOptions.ofFields_eq_ok.mp read
    exact ⟨named.symm, isSpelledRight_of_ofFields read, spec.options.keys_values, rfl,
      holds_of_ofFields read⟩
  · obtain ⟨faults, refused, reported⟩ := exists_error (mem_faults_of_isStray stray)
    refine ⟨faults, ?_, reported⟩
    simp only [ofEntry, readEntry, Texts.ofString_string, hname, hkind, if_true,
      GroupOptions.ofData, refused]

def spelledEntry : Entries Json := [
  ("name", .text "workers"), ("max_size", .text "3"),
  ("taints", .map [("spot", .map [("effect", .text "NoExecute"), ("value", .text "yes")])])]

/-- An entry with a stray key in a taint, and other faults before and behind it. -/
def strayEntry : Entries Json := [
  ("gpu", .int 7), ("name", .text "workers"), ("maxSize", .int 3),
  ("taints", .map [("spot", .map [("efect", .text "NoExecute"), ("value", .int 1)])])]

theorem ofEntry_spelled_workers :
    (∃ spec, ofEntry 0 (.map spelledEntry) = .ok spec ∧ spec.IsReadOf .stack spelledEntry) ∧
      ∃ faults, ofEntry 0 (.map strayEntry) = .error (.invalidOptions 0 (.text "workers") faults) ∧
        ⟨[.key "taints", .key "spot", .key "efect"], .unknownField⟩ ∈ faults := by
  constructor
  · obtain ⟨spec, read⟩ : ∃ spec, ofEntry 0 (.map spelledEntry) = .ok spec := ⟨_, rfl⟩
    exact ⟨spec, read, (ofEntry_spelled rfl rfl).1 spec read⟩
  · have stray : IsStray .stack strayEntry [.key "taints", .key "spot", .key "efect"] :=
      .taint rfl (.head _) (.head _) (by decide)
    exact (ofEntry_spelled rfl rfl).2 _ stray

end GroupSpec
end FleetPlan
