import FleetPlan.Proofs.Settling
import FleetPlan.Stack.GroupList

/-!
What the entries of a list of groups are read as.

An entry that is read is a map with a name that counts as given, a kind that is known and options
that are read as that kind. Its place in the list matters only where it is refused. The kind of the
texts makes no difference, nor does what reads the options.
-/
namespace FleetPlan.GroupSpec

variable {τ φ ω : Type} [DecidableEq τ] [Texts τ]
variable {read : GroupKind → Entries (Json τ) τ → Except φ ω}

theorem readEntry_eq_ok_iff {index : Int} {v : Json τ} {spec : GroupSpec τ ω} :
    readEntry read index v = .ok spec ↔
      ∃ es kind, v = .map es ∧ v.member (Texts.ofString "name") = spec.name ∧
        spec.name.isTruthy = true ∧ kindOf? es = .ok kind ∧
        read kind (optionFields es) = .ok spec.options := by
  constructor
  · intro h
    cases v with
    | map es =>
        simp only [readEntry] at h
        split at h
        case isTrue given =>
          split at h
          case h_1 => cases h
          case h_2 kind asked =>
            split at h
            case h_1 => cases h
            case h_2 options accepted =>
              cases h
              exact ⟨es, kind, rfl, rfl, given, asked, accepted⟩
        case isFalse => cases h
    | null | bool _ | number _ | text _ | list _ => cases h
    | leaf a => cases a
  · obtain ⟨name, options⟩ := spec
    rintro ⟨es, kind, rfl, rfl, given, asked, accepted⟩
    rw [Value.member] at given ⊢
    simp only [readEntry, given, if_true, asked, accepted]

theorem names_of_readEntries {index : Nat} {vs : List (Json τ)} {specs : List (GroupSpec τ ω)}
    (h : readEntries read index vs = .ok specs) :
    specs.map name = vs.map (fun v => v.member (Texts.ofString "name")) ∧
      ∀ spec ∈ specs, spec.name.isTruthy = true := by
  induction vs generalizing index specs with
  | nil =>
      cases h
      exact ⟨rfl, List.forall_mem_nil _⟩
  | cons v vs ih =>
      obtain ⟨spec, hspec, h⟩ := except_bind_eq_ok.1 h
      obtain ⟨others, hothers, h⟩ := except_bind_eq_ok.1 h
      cases h
      obtain ⟨_, _, _, named, given, _, _⟩ := readEntry_eq_ok_iff.1 hspec
      obtain ⟨names, all⟩ := ih hothers
      exact ⟨by rw [List.map_cons, List.map_cons, named, names],
        List.forall_mem_cons.2 ⟨given, all⟩⟩

end FleetPlan.GroupSpec
