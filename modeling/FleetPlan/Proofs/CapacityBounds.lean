import FleetPlan.Proofs.ManagedForms
import FleetPlan.Proofs.NormalOptions

/-!
Bounds on the number of nodes, and which of them leave room for a group.

The options of a group are accepted whatever their bounds are, and each bound that is not set takes its
default by itself. So a group may end up with a lower bound above its upper one; which bounds avoid that
is said for each choice of those that are set. Nothing is said here about what the cloud makes of a
group without room.
-/
namespace FleetPlan

/-- The least number of nodes, the one that is aimed at and the greatest are in this order. -/
structure Range.IsOrdered (r : Range) : Prop where
  least : r.least ≤ r.desired
  most : r.desired ≤ r.most

theorem Range.isOrdered_iff (r : Range) :
    r.IsOrdered ↔ r.least ≤ r.desired ∧ r.desired ≤ r.most :=
  ⟨fun h => ⟨h.least, h.most⟩, fun h => ⟨h.1, h.2⟩⟩

instance (r : Range) : Decidable r.IsOrdered := decidable_of_iff _ r.isOrdered_iff.symm

namespace Bounds

/-- Bounds that fit to one another and to two nodes, between one and two, where some are missing. -/
def HasRoom : Bounds → Prop
  | ⟨none, none, none⟩ => True
  | ⟨some desired, none, none⟩ => 1 ≤ desired ∧ desired ≤ 2
  | ⟨none, some least, none⟩ => least ≤ 2
  | ⟨none, none, some most⟩ => 2 ≤ most
  | ⟨some desired, some least, none⟩ => least ≤ desired ∧ desired ≤ 2
  | ⟨some desired, none, some most⟩ => 1 ≤ desired ∧ desired ≤ most
  | ⟨none, some least, some most⟩ => least ≤ 2 ∧ 2 ≤ most
  | ⟨some desired, some least, some most⟩ => least ≤ desired ∧ desired ≤ most

theorem isOrdered_fill_iff (b : Bounds) : (b.fill .small).IsOrdered ↔ b.HasRoom := by
  rw [Range.isOrdered_iff]
  obtain ⟨desired, least, most⟩ := b
  cases desired <;> cases least <;> cases most <;> simp [fill, Range.small, HasRoom]

/-- Bounds as the fields of a group of one's own. -/
def capacityEntries (b : Bounds) : Entries Setting := [
  ("desired_capacity", optionalInt b.desired), ("min_size", optionalInt b.least),
  ("max_size", optionalInt b.most)]

end Bounds

open Reader Checked

theorem WorkerOptions.ofFields_capacityEntries {b : Bounds} (h : b.IsAtLeast 0) :
    ofFields b.capacityEntries = .ok { smallOptions .none 20 with bounds := b } := by
  have desired : optionalBound b.capacityEntries "desired_capacity" 0 = .ok b.desired :=
    field_of_get? rfl (read_optionalBound h.desired)
  have least : optionalBound b.capacityEntries "min_size" 0 = .ok b.least :=
    field_of_get? rfl (read_optionalBound h.least)
  have most : optionalBound b.capacityEntries "max_size" 0 = .ok b.most :=
    field_of_get? rfl (read_optionalBound h.most)
  have bounds : readBounds b.capacityEntries = .ok b := apply_ok (apply_ok (map_ok desired) least) most
  -- No other field is given, so each of them takes its default.
  refine withFaults_eq_ok_iff.mpr ⟨?_, rfl⟩
  exact apply_ok (apply_ok (apply_ok (apply_ok (apply_ok (apply_ok (apply_ok (apply_ok (apply_ok
    (map_ok rfl) rfl) rfl) rfl) rfl) rfl) bounds) rfl) rfl) rfl

theorem ManagedOptions.ofFields_scalingEntries {b : Bounds} (h : b.IsAtLeast 1) (arn : String) :
    ofFields [("node_role_arn", .text arn), ("scaling_config", .map b.scalingEntries)] =
      .ok { smallManagedOptions arn with scaling := some b } := by
  have scaling : field [("node_role_arn", .text arn), ("scaling_config", .map b.scalingEntries)]
      "scaling_config" none (optional Bounds.readScaling) = .ok (some b) :=
    field_of_get? rfl (map_ok (keeps_scaling h))
  refine withFaults_eq_ok_iff.mpr ⟨?_, rfl⟩
  exact apply_ok (apply_ok (apply_ok (apply_ok (apply_ok (apply_ok (apply_ok (apply_ok (apply_ok
    (apply_ok (apply_ok (apply_ok (apply_ok (apply_ok (apply_ok (apply_ok (apply_ok (apply_ok
      (map_ok rfl) rfl) rfl) rfl) rfl) scaling) rfl) rfl) rfl) rfl) rfl) rfl) rfl) rfl) rfl) rfl)
    rfl) rfl) rfl

/-- How the bounds of a group bear on whether its options are accepted, and on the group. -/
structure BoundsGoUnchecked (name : String) : Prop where
  /-- Options are accepted or refused whatever bounds they have. -/
  worker : ∀ (o : WorkerOptions) (b : Bounds),
    WorkerOptions.check name { o with bounds := b } = o.check name
  managed : ∀ (o : ManagedOptions) (b : Option Bounds),
    ManagedOptions.check name { o with scaling := b } = o.check name
  /-- All bounds that can be read are those of options that are accepted. -/
  accepted : ∀ b : Bounds, b.IsAtLeast 0 → ∃ o, WorkerOptions.ofFields b.capacityEntries = .ok o ∧
    o.bounds = b ∧ o.check name = .ok ()
  managedAccepted : ∀ b : Bounds, b.IsAtLeast 1 → ∀ arn, arn ≠ "" → ∃ o,
    ManagedOptions.ofFields [("node_role_arn", .text arn),
      ("scaling_config", .map b.scalingEntries)] = .ok o ∧
      o.scaling = some b ∧ o.check name = .ok ()
  /-- Only some of them leave room. -/
  ordered : ∀ o : WorkerOptions,
    (Capacity.of o.bounds o.machine.spotPrice.isTruthy .small).range.IsOrdered ↔ o.bounds.HasRoom
  managedOrdered : ∀ o : ManagedOptions, (ManagedGroup.scaling o.scaling .small).IsOrdered ↔
    ∀ b, o.scaling = some b → b.HasRoom

theorem ManagedOptions.check_smallManagedOptions {name arn : String} (h : arn ≠ "")
    (b : Option Bounds) : check name { smallManagedOptions arn with scaling := b } = .ok () := by
  have given : TextInput.isTruthy (.now (some arn)) = true := by simpa [TextInput.isTruthy] using h
  simp [check, smallManagedOptions, given]

/-- No bounds are refused when options are checked, though not all of them leave room. -/
theorem boundsGoUnchecked (name : String) : BoundsGoUnchecked name where
  worker _ _ := rfl
  managed _ _ := rfl
  accepted b h := ⟨_, WorkerOptions.ofFields_capacityEntries h, rfl, rfl⟩
  managedAccepted b h arn harn :=
    ⟨_, ManagedOptions.ofFields_scalingEntries h arn, rfl,
      ManagedOptions.check_smallManagedOptions harn _⟩
  ordered o := o.bounds.isOrdered_fill_iff
  managedOrdered o := by
    cases o.scaling with
    | none => exact iff_of_true ⟨by decide, by decide⟩ fun _ h => nomatch h
    | some b =>
        refine b.isOrdered_fill_iff.trans ⟨?_, fun room => room b rfl⟩
        rintro room _ ⟨⟩
        exact room

/-- A lower bound above the upper one is read and accepted, in either sort of group. -/
theorem crossed_bounds_accepted :
    (∃ o, WorkerOptions.ofFields [("min_size", .int 5), ("max_size", .int 3)] = .ok o ∧
      o.check "workers" = .ok () ∧
        ¬(Capacity.of o.bounds o.machine.spotPrice.isTruthy .small).range.IsOrdered) ∧
    ∃ o, ManagedOptions.ofFields [("node_role_arn", .text "arn:nodes"),
        ("scaling_config", .map [("min_size", .int 5), ("max_size", .int 3)])] = .ok o ∧
      o.check "workers" = .ok () ∧ ¬(ManagedGroup.scaling o.scaling .small).IsOrdered :=
  ⟨⟨_, rfl, rfl, by decide⟩, ⟨_, rfl, rfl, by decide⟩⟩

end FleetPlan
