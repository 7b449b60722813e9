import FleetPlan.Proofs.DeclaredFields
import FleetPlan.Stack.Program
import Mathlib.Data.List.Nodup

/-!
Options of both sorts of groups of one's own, read from the same settings.

A group that is launched from a template has all the fields of one that is declared in the template
of a stack, and two more. Where neither of these is given both sorts of options are read alike: what
is accepted, its values, what the checks say of them and what is wrong otherwise do not depend on
the sort. Where one is given, the options without it are refused, and what is said of all the rest
is the same.
-/
namespace FleetPlan

open Reader Checked

section Readers

variable {α β γ : Type}

theorem Checked.withFaults_map (x : Checked α) (f : α → β) (more : List FieldFault) :
    withFaults (x.map f) more = (withFaults x more).map f := by
  cases x <;> cases more <;> rfl

theorem Checked.apply_map_ok (x : Checked α) (f : α → β → γ) (b : β) :
    apply (x.map f) (.ok b) = x.map fun a => f a b := by
  cases x <;> rfl

theorem Entries.get?_of_not_mem_keys {es : Entries α} {key : String} (h : key ∉ keys es) :
    get? es key = none := by
  rw [Option.eq_none_iff_forall_ne_some]
  exact fun x found => h (List.mem_map_of_mem (mem_of_get? found))

theorem Reader.field_of_not_mem_keys {es : Entries Setting} {key : String}
    (h : key ∉ Entries.keys es) (default : α) (r : Reader α) :
    field es key default r = .ok default := by
  rw [field, Entries.get?_of_not_mem_keys h]

theorem Entries.get?_filter {es : Entries α} {p : String → Bool} {key : String}
    (h : p key = true) : get? (es.filter fun e => p e.1) key = get? es key := by
  induction es with
  | nil => rfl
  | cons e es ih =>
      by_cases kept : p e.1 = true
      · rw [List.filter_cons, if_pos kept, get?, get?, ih]
      · have other : ¬e.1 = key := fun same => kept (same ▸ h)
        rw [List.filter_cons, if_neg kept, ih, get?, if_neg other]

theorem FieldRule.value_filter {r : FieldRule} {p : String → Bool} (h : p r.key = true)
    (es : Entries Setting) : r.value (es.filter fun e => p e.1) = r.value es := by
  rw [value, value, field, field, Entries.get?_filter h]

theorem FieldRule.faultsOf_filter {rules : List FieldRule} {p : String → Bool}
    (h : ∀ r ∈ rules, p r.key = true) (es : Entries Setting) :
    faultsOf rules (es.filter fun e => p e.1) = faultsOf rules es :=
  List.flatMap_congr fun r hr => congrArg faults (value_filter (h r hr) es)

end Readers

namespace TemplateOptions

/-- The fields that only options of a group launched from a template declare. -/
def ownFields : List String := ["min_refresh_percentage", "launch_template_tag_specifications"]

/-- Settings without these fields. -/
def sharedPart (es : Entries Setting) : Entries Setting :=
  es.filter fun e => !ownFields.contains e.1

/-- Options of the other sort, with what these fields are when they are not given. -/
def ofWorkerOptions (o : WorkerOptions) : TemplateOptions := ⟨o, .now 50, none⟩

theorem fields_eq_append : fields = WorkerOptions.fields ++ ownFields := rfl

theorem ownFields_disjoint : ∀ key ∈ ownFields, key ∉ WorkerOptions.fields := by decide

variable {es : Entries Setting}

theorem strangers_of_shared (h : ∀ key ∈ ownFields, key ∉ Entries.keys es) :
    strangers fields es = strangers WorkerOptions.fields es := by
  have same : ∀ e ∈ es, (!fields.contains e.1) = !WorkerOptions.fields.contains e.1 := by
    intro e he
    have foreign : e.1 ∉ ownFields := fun own => h _ own (List.mem_map_of_mem he)
    simp [fields_eq_append, foreign]
  rw [strangers, strangers, List.filter_congr same]

/-- Settings that give neither field are read as options of the other sort. -/
theorem ofFields_of_shared (h : ∀ key ∈ ownFields, key ∉ Entries.keys es) :
    ofFields es = (WorkerOptions.ofFields es).map ofWorkerOptions := by
  have share := field_of_not_mem_keys (h "min_refresh_percentage" (.head _))
    (.now 50) integerInput
  have tags := field_of_not_mem_keys (h "launch_template_tag_specifications" (.tail _ (.head _)))
    none (optional (list (block .templateTags)))
  have read : readFields es = (WorkerOptions.readFields es).map ofWorkerOptions := by
    rw [readFields, share, tags, apply_map_ok, apply_map_ok]
    rfl
  rw [ofFields, read, strangers_of_shared h, withFaults_map]
  rfl

/-- What is wrong with options of the other sort because of these fields. -/
def ownFaults (es : Entries Setting) : List FieldFault :=
  ((Entries.keys es).filter ownFields.contains).map fun key => ⟨[.key key], .unknownField⟩

theorem faultsOf_sharedPart (es : Entries Setting) :
    FieldRule.faultsOf WorkerOptions.rules (sharedPart es) =
      FieldRule.faultsOf WorkerOptions.rules es := by
  refine FieldRule.faultsOf_filter (p := fun key => !ownFields.contains key) (fun r hr => ?_) es
  have declared : r.key ∈ GroupKind.stack.fields :=
    GroupKind.keys_rules .stack ▸ List.mem_map_of_mem hr
  have foreign : r.key ∉ ownFields := fun own => ownFields_disjoint _ own declared
  simpa using foreign

/-- The undeclared keys of the shared part, and what becomes of all of them with the two fields. -/
theorem strangers_sharedPart (es : Entries Setting) :
    (strangers WorkerOptions.fields (sharedPart es)).Sublist (strangers WorkerOptions.fields es) ∧
      (strangers WorkerOptions.fields es).Perm
        (strangers WorkerOptions.fields (sharedPart es) ++ ownFaults es) := by
  let undeclared := es.filter fun e => !WorkerOptions.fields.contains e.1
  have shared : (sharedPart es).filter (fun e => !WorkerOptions.fields.contains e.1) =
      undeclared.filter fun e => !ownFields.contains e.1 := by
    simp only [sharedPart, undeclared, List.filter_filter, Bool.and_comm]
  have own : es.filter (fun e => ownFields.contains e.1) =
      undeclared.filter fun e => !!ownFields.contains e.1 := by
    rw [List.filter_filter]
    refine List.filter_congr fun e _ => ?_
    by_cases h : e.1 ∈ ownFields <;> simp [h, ownFields_disjoint]
  constructor
  · rw [strangers, shared]
    exact List.filter_sublist.map _
  · have faults : ownFaults es =
        (es.filter fun e => ownFields.contains e.1).map fun e => ⟨[.key e.1], .unknownField⟩ := by
      simp only [ownFaults, Entries.keys, List.filter_map, List.map_map]
      rfl
    rw [strangers, strangers, shared, faults, own, ← List.map_append]
    exact (List.filter_append_perm _ undeclared).symm.map _

/-- Neither of these fields is among the settings. -/
def AreUngiven (es : Entries Setting) : Prop := ∀ key ∈ ownFields, key ∉ Entries.keys es

/-- Options of the two sorts have the same acceptance, values, verdict, capacity and faults. -/
structure AreReadAlike (es : Entries Setting) : Prop where
  accepted : (∃ t, ofFields es = .ok t) ↔ ∃ o, WorkerOptions.ofFields es = .ok o
  values : ∀ t o, ofFields es = .ok t → WorkerOptions.ofFields es = .ok o → t.toWorkerOptions = o
  verdict : ∀ t o, ofFields es = .ok t → WorkerOptions.ofFields es = .ok o → ∀ name,
    GroupSpec.check ⟨name, .template t⟩ = GroupSpec.check ⟨name, .stack o⟩
  capacity : ∀ t o, ofFields es = .ok t → WorkerOptions.ofFields es = .ok o → ∀ defaults,
    Capacity.of t.bounds t.machine.spotPrice.isTruthy defaults =
      Capacity.of o.bounds o.machine.spotPrice.isTruthy defaults
  faults : ∀ fs, ofFields es = .error fs ↔ WorkerOptions.ofFields es = .error fs

/-- Settings as options that have two fields more. -/
structure Extends (es : Entries Setting) : Prop where
  shared : AreUngiven es → AreReadAlike es
  /-- Where one of the fields is given the options without it are refused, for each that is given
  and for what is wrong with the rest, told in the same order. -/
  refused : ¬AreUngiven es → ∃ fs, WorkerOptions.ofFields es = .error fs ∧
    fs.Perm ((WorkerOptions.ofFields (sharedPart es)).faults ++ ownFaults es) ∧
      (WorkerOptions.ofFields (sharedPart es)).faults.Sublist fs
  once : (Entries.keys es).Nodup → (ownFaults es).Nodup

theorem areReadAlike_of_areUngiven (h : AreUngiven es) : AreReadAlike es := by
  have read := ofFields_of_shared h
  have values : ∀ t o, ofFields es = .ok t → WorkerOptions.ofFields es = .ok o →
      t = ofWorkerOptions o := by
    intro t o ht ho
    rw [read, ho] at ht
    exact (Except.ok.inj ht).symm
  refine ⟨?accepted, ?values, ?verdict, ?capacity, ?faults⟩
  case accepted =>
    rw [read]
    cases WorkerOptions.ofFields es <;> simp [Except.map]
  case values =>
    intro t o ht ho
    rw [values t o ht ho]
    rfl
  case verdict =>
    intro t o ht ho name
    rw [values t o ht ho]
    rfl
  case capacity =>
    intro t o ht ho defaults
    rw [values t o ht ho]
    rfl
  case faults =>
    intro fs
    rw [read]
    cases WorkerOptions.ofFields es <;> simp [Except.map]

theorem faults_worker (es : Entries Setting) : (WorkerOptions.ofFields es).faults =
    FieldRule.faultsOf WorkerOptions.rules es ++ strangers WorkerOptions.fields es := by
  rw [WorkerOptions.ofFields, faults_withFaults, WorkerOptions.faults_readFields]

/-- Options that are launched from a template extend those that are not, whatever is given. -/
theorem options_extend (es : Entries Setting) : Extends es where
  shared := areReadAlike_of_areUngiven
  refused h := by
    obtain ⟨sublist, perm⟩ := strangers_sharedPart es
    have perm : (WorkerOptions.ofFields es).faults.Perm
        ((WorkerOptions.ofFields (sharedPart es)).faults ++ ownFaults es) := by
      rw [faults_worker, faults_worker, faultsOf_sharedPart, List.append_assoc]
      exact perm.append_left _
    have sublist : (WorkerOptions.ofFields (sharedPart es)).faults.Sublist
        (WorkerOptions.ofFields es).faults := by
      rw [faults_worker, faults_worker, faultsOf_sharedPart]
      exact sublist.append_left _
    cases read : WorkerOptions.ofFields es with
    | error fs =>
        rw [read] at perm sublist
        exact ⟨fs, rfl, perm, sublist⟩
    | ok o =>
        rw [read] at perm
        refine absurd (fun key own given => ?_) h
        have here : ⟨[.key key], .unknownField⟩ ∈ ownFaults es :=
          List.mem_map_of_mem (List.mem_filter.mpr ⟨given, by simpa using own⟩)
        exact List.not_mem_nil (perm.mem_iff.mpr (List.mem_append_right _ here))
  once distinct := by
    refine List.Nodup.map (fun k k' same => ?_) (distinct.filter _)
    simpa using same

/-- Settings that can be read, and some that cannot with a field of the other sort among them. -/
theorem options_extend_sized :
    (AreUngiven [("min_size", .int 3), ("spot_price", .text "0.5")] ∧
      AreReadAlike [("min_size", .int 3), ("spot_price", .text "0.5")] ∧
      ∃ t, ofFields [("min_size", .int 3), ("spot_price", .text "0.5")] = .ok t) ∧
    ¬AreUngiven [("colour", .null), ("min_refresh_percentage", .int 50), ("min_size", .text "x")] ∧
    ∃ fs, WorkerOptions.ofFields
        [("colour", .null), ("min_refresh_percentage", .int 50), ("min_size", .text "x")] =
          .error fs ∧
      fs.Perm [⟨[.key "min_size"], .unreadableInteger⟩, ⟨[.key "colour"], .unknownField⟩,
        ⟨[.key "min_refresh_percentage"], .unknownField⟩] := by
  have ungiven : AreUngiven [("min_size", .int 3), ("spot_price", .text "0.5")] := by
    unfold AreUngiven
    decide
  have given : ¬AreUngiven
      [("colour", .null), ("min_refresh_percentage", .int 50), ("min_size", .text "x")] := by
    unfold AreUngiven
    decide
  obtain ⟨fs, refused, perm, -⟩ := (options_extend _).refused given
  exact ⟨⟨ungiven, (options_extend _).shared ungiven, _, rfl⟩, given, fs, refused, perm⟩

end TemplateOptions
end FleetPlan
