import FleetPlan.Proofs.ReadEntries
import FleetPlan.Proofs.ReadValues

/-!
How the loader of a list of groups ends.

It gives groups whose names count as given and are pairwise different, or a fault of the
configuration, with one exception: names that are not all texts and are repeated end it in a
failure of another kind. A list whose names are texts never meets the exception. This is so whatever
code points the configuration and the texts in it are made of, and whatever options are.
-/
namespace FleetPlan.GroupSpec

section Names

variable {τ : Type}

theorem exists_nonText {names : List (Json τ)} (h : allTexts names = none) :
    ∃ n ∈ names, n.text? = none := by
  induction names with
  | nil => cases h
  | cons n names ih =>
      cases n with
      | text s =>
          obtain ⟨m, hm, htext⟩ := ih (by simpa [allTexts] using h)
          exact ⟨m, List.mem_cons_of_mem _ hm, htext⟩
      | null | bool _ | number _ | list _ | map _ => exact ⟨_, List.mem_cons_self, rfl⟩
      | leaf a => cases a

/-- The texts that some names are. -/
theorem exists_texts {names : List (Json τ)} (h : ∀ n ∈ names, n.text?.isSome = true) :
    ∃ texts : List τ, names = texts.map .text := by
  induction names with
  | nil => exact ⟨[], rfl⟩
  | cons n names ih =>
      obtain ⟨hn, hnames⟩ := List.forall_mem_cons.1 h
      obtain ⟨texts, rfl⟩ := ih hnames
      cases n with
      | text s => exact ⟨s :: texts, rfl⟩
      | null | bool _ | number _ | list _ | map _ => cases hn
      | leaf a => cases a

variable [DecidableEq τ]

theorem hasDistinctKeys_member {v : Json τ} (h : v.HasDistinctKeys) (key : τ) :
    Json.HasDistinctKeys (v.member key) := by
  cases v with
  | map es =>
      cases hfound : Entries.get? es key with
      | none => simp [Value.member, hfound, Value.ofOption, Json.HasDistinctKeys]
      | some w =>
          have members := (Json.membersHaveDistinctKeys_iff es).1 h.2
          simpa [Value.member, hfound, Value.ofOption] using members _ (Entries.mem_of_get? hfound)
  | null | bool _ | number _ | text _ | list _ => trivial
  | leaf a => cases a

/-- Without repeated names no two are the same. -/
theorem pairwise_of_repeated_nil {names : List (Json τ)} (hself : ∀ n ∈ names, n.same n = true)
    (h : repeated names = []) : names.Pairwise fun m n => m.same n = false := by
  rw [List.pairwise_iff_forall_sublist]
  intro m n hsub
  refine Bool.eq_false_iff.2 fun hsame => ?_
  have hm : m ∈ names := hsub.subset (by simp)
  have twice : 1 < names.countP m.same := by
    have counted := hsub.countP_le (p := m.same)
    simpa [List.countP_cons, hself m hm, hsame, Nat.succ_le_iff] using counted
  have mem : m ∈ repeated names := List.mem_filter.2 ⟨hm, by simpa using twice⟩
  simp [h] at mem

/-- Texts that are pairwise not the same are distinct. -/
theorem exists_distinct_texts [Texts τ] {names : List (Json τ)}
    (htexts : ∀ n ∈ names, n.text?.isSome = true) (htruthy : ∀ n ∈ names, n.isTruthy = true)
    (hpairs : names.Pairwise fun m n => m.same n = false) :
    ∃ texts : List τ, names = texts.map .text ∧ Texts.ofString "" ∉ texts ∧ texts.Nodup := by
  obtain ⟨texts, rfl⟩ := exists_texts htexts
  refine ⟨texts, rfl, fun hempty => ?_, ?_⟩
  · exact absurd (htruthy _ (List.mem_map_of_mem hempty)) (by simp [Value.isTruthy])
  · rw [List.pairwise_map] at hpairs
    exact hpairs.imp fun h => by simpa [Json.same] using h

variable {φ : Type} [LE τ] [DecidableLE τ]

/-- The check of names fails in the way of a configuration unless a repeated name is no text. -/
theorem checkDistinct_eq_error {names : List (Json τ)} {e : LoadFailure τ φ}
    (h : checkDistinct names = .error e) :
    (∃ fault, e = .fault fault) ∨
      e = .repeatedNonTexts ∧ ∃ n ∈ repeated names, n.text? = none := by
  unfold checkDistinct at h
  split at h
  · cases h
  · split at h
    · cases h
      exact .inr ⟨rfl, exists_nonText ‹_›⟩
    · cases h
      exact .inl ⟨_, rfl⟩

theorem checkDistinct_eq_ok {names : List (Json τ)}
    (h : checkDistinct names = (.ok () : Except (LoadFailure τ φ) Unit)) :
    repeated names = [] := by
  unfold checkDistinct at h
  split at h
  · assumption
  · split at h <;> cases h

end Names

section Loaded

variable {σ τ φ ω : Type} [Glyph σ] [DecidableEq τ] [Texts τ]

/-- The names of the entries of a text, whether or not the entries can be read. -/
def givenNames (text : Option (List σ)) : List (Json τ) :=
  match text.bind Json.spelled? with
  | some (.list vs) => vs.map fun v => v.member (Texts.ofString "name")
  | _ => []

theorem givenNames_of_listed {text : Option (List σ)} {vs : List (Json τ)}
    (h : listed text = (.ok vs : Except (ConfigFault τ φ) (List (Json τ)))) :
    givenNames text = vs.map fun v => v.member (Texts.ofString "name") := by
  cases text with
  | none =>
      cases h
      rfl
  | some s =>
      cases hread : (Json.spelled? s : Option (Json τ)) with
      | none => simp [listed, readText, hread] at h
      | some v =>
          cases v with
          | list xs =>
              obtain rfl : xs = vs := by simpa [listed, readText, hread] using h
              simp [givenNames, hread]
          | null | bool _ | number _ | text _ | map _ => simp [listed, readText, hread] at h
          | leaf a => cases a

/-- A text holds no map that repeats a key, so every name in it is the same as itself. -/
theorem same_self_of_mem_givenNames {text : Option (List σ)} {n : Json τ}
    (h : n ∈ givenNames text) : n.same n = true := by
  unfold givenNames at h
  split at h
  case h_1 vs hread =>
    obtain ⟨v, hv, rfl⟩ := List.mem_map.1 h
    obtain ⟨s, _, hs⟩ := Option.bind_eq_some_iff.1 hread
    have entries := (Json.haveDistinctKeys_iff vs).1 (Json.hasDistinctKeys_of_spelled? hs)
    exact Json.same_self (hasDistinctKeys_member (entries v hv) _)
  case h_2 => cases h

variable [LE τ] [DecidableLE τ] {read : GroupKind → Entries (Json τ) τ → Except φ ω}
variable {text : Option (List σ)} {vs : List (Json τ)} {fault : ConfigFault τ φ}

theorem load_of_fault (h : listed text = .error fault) :
    load read text = .error (.fault fault) := by
  rw [load, h]
  rfl

theorem load_of_entry_fault (h : listed text = (.ok vs : Except (ConfigFault τ φ) _))
    (hspecs : readEntries read 0 vs = .error fault) : load read text = .error (.fault fault) := by
  simp only [load, h, Except.mapError, bind, Except.bind, hspecs]

theorem load_of_specs {specs : List (GroupSpec τ ω)}
    (h : listed text = (.ok vs : Except (ConfigFault τ φ) _))
    (hspecs : readEntries read 0 vs = .ok specs) :
    load read text = (checkDistinct (specs.map name)).map fun _ => specs := by
  simp only [load, h, Except.mapError, bind, Except.bind, hspecs]
  cases (checkDistinct (specs.map name) : Except (LoadFailure τ φ) Unit) <;> rfl

/-- Unless a fault is found before, the names that are given decide. -/
theorem load_cases (read : GroupKind → Entries (Json τ) τ → Except φ ω)
    (text : Option (List σ)) :
    (∃ fault, load read text = .error (.fault fault)) ∨
      ∃ specs, specs.map name = givenNames text ∧ (∀ n ∈ specs.map name, n.isTruthy = true) ∧
        load read text = (checkDistinct (specs.map name)).map fun _ => specs := by
  cases hlisted : (listed text : Except (ConfigFault τ φ) (List (Json τ))) with
  | error fault => exact .inl ⟨fault, load_of_fault hlisted⟩
  | ok vs =>
      cases hspecs : readEntries read 0 vs with
      | error fault => exact .inl ⟨fault, load_of_entry_fault hlisted hspecs⟩
      | ok specs =>
          obtain ⟨names, truthy⟩ := names_of_readEntries hspecs
          rw [← givenNames_of_listed hlisted] at names
          exact .inr ⟨specs, names, List.forall_mem_map.2 truthy, load_of_specs hlisted hspecs⟩

/-- Groups that are loaded have the names that are given, which count as given and differ. -/
theorem names_of_load {specs : List (GroupSpec τ ω)} (h : load read text = .ok specs) :
    specs.map name = givenNames text ∧ (∀ n ∈ specs.map name, n.isTruthy = true) ∧
      (specs.map name).Pairwise fun m n => m.same n = false := by
  obtain ⟨fault, failed⟩ | ⟨loaded, names, truthy, checked⟩ := load_cases read text
  · cases failed.symm.trans h
  · rw [checked] at h
    cases hcheck : (checkDistinct (loaded.map name) : Except (LoadFailure τ φ) Unit) with
    | error e =>
        rw [hcheck] at h
        cases h
    | ok _ =>
        rw [hcheck] at h
        cases h
        have own : ∀ n ∈ loaded.map name, n.same n = true :=
          names ▸ fun n => same_self_of_mem_givenNames
        exact ⟨names, truthy, pairwise_of_repeated_nil own (checkDistinct_eq_ok hcheck)⟩

/-- A fault of the configuration ends the loading, or a repeated name that is no text. -/
theorem failure_of_load {e : LoadFailure τ φ} (h : load read text = .error e) :
    (∃ fault, e = .fault fault) ∨
      e = .repeatedNonTexts ∧
        ∃ n ∈ repeated (givenNames text : List (Json τ)), n.text? = none := by
  obtain ⟨fault, failed⟩ | ⟨loaded, names, _, checked⟩ := load_cases read text
  · exact .inl ⟨fault, Except.error.inj (h.symm.trans failed)⟩
  · rw [checked] at h
    cases hcheck : (checkDistinct (loaded.map name) : Except (LoadFailure τ φ) Unit) with
    | ok _ =>
        rw [hcheck] at h
        cases h
    | error e' =>
        rw [hcheck] at h
        cases h
        exact names ▸ checkDistinct_eq_error hcheck

/-- Every way in which the loading of a list of groups ends, whether its texts are made of characters
or of any code points, and whatever its options are read as. -/
theorem load_outcome (read : GroupKind → Entries (Json τ) τ → Except φ ω)
    (text : Option (List σ)) :
    match load read text with
    | .ok specs =>
      specs.map name = givenNames text ∧
        (∀ spec ∈ specs, spec.name.isTruthy = true) ∧
        (specs.map name).Pairwise (fun m n => m.same n = false) ∧
        ((∀ spec ∈ specs, spec.name.text?.isSome = true) →
          ∃ names : List τ, specs.map name = names.map .text ∧
            Texts.ofString "" ∉ names ∧ names.Nodup)
    | .error e =>
      (∃ fault, e = .fault fault) ∨
        e = .repeatedNonTexts ∧
          ∃ n ∈ repeated (givenNames text : List (Json τ)), n.text? = none := by
  cases h : load read text with
  | error e => exact failure_of_load h
  | ok specs =>
      obtain ⟨names, truthy, differ⟩ := names_of_load h
      refine ⟨names, List.forall_mem_map.1 truthy, differ, fun texts => ?_⟩
      exact exists_distinct_texts (List.forall_mem_map.2 texts) truthy differ

end Loaded

/-- Whether the loading ended in the one failure that is none of the configuration's. -/
def escapes {τ φ α : Type} : Except (LoadFailure τ φ) α → Bool
  | .error .repeatedNonTexts => true
  | _ => false

theorem eq_error_of_escapes {τ φ α : Type} {r : Except (LoadFailure τ φ) α}
    (h : escapes r = true) : r = .error .repeatedNonTexts := by
  unfold escapes at h
  split at h
  · rfl
  · cases h

/-- A name that is a number may be given once; given twice, it ends the loading in a failure that
is none of the configuration's. -/
theorem repeated_number_escapes :
    parseList (some "[\x7b\"name\": 1\x7d, \x7b\"name\": 1\x7d]") = .error .repeatedNonTexts ∧
      ∀ fault, Failure.repeatedNonTexts ≠ .config fault := by
  have ends : load GroupOptions.ofData
      (some "[\x7b\"name\": 1\x7d, \x7b\"name\": 1\x7d]".toList) =
        .error .repeatedNonTexts := eq_error_of_escapes (by decide +kernel)
  refine ⟨?_, fun fault h => by cases h⟩
  rw [parseList, Option.map_some, ends]
  rfl

/-- Two groups that a number names, and one that halves of characters name, the first of them as an
escape. -/
def halfNamed : CodePoints :=
  ("[\x7b\"name\": 1\x7d, \x7b\"name\": 1\x7d, \x7b\"name\": \"\\ud800".toList.map .ofChar) ++
    Json.unitPoint 0xDC00 :: ("\"\x7d]".toList.map .ofChar)

/-- The name that is no text of characters is one of code points, so the numbers decide. -/
example :
    escapes (load (fun _ _ => (.ok () : Except Empty Unit)) (some halfNamed) :
      Except (LoadFailure CodePoints Empty) _) = true := by
  decide +kernel

end FleetPlan.GroupSpec
