import FleetPlan.Proofs.GroupNames
import FleetPlan.Proofs.OptionTypes
import Mathlib.Data.List.Forall2
import Mathlib.Data.List.Nodup
import Mathlib.Data.String.Basic

/-!
Lists of groups, entry by entry.

What an entry is read as does not depend on where it stands, so a list is read exactly if each of its
entries is and no name stands in it twice. The first entry that cannot be read is reported before names
are compared at all. Only names that are texts are considered, or missing: what becomes of others that
are repeated is said where names are.
-/
namespace FleetPlan

/-- The place of the entry that a fault is about. -/
def ConfigFault.place? : ConfigFault → Option Int
  | entryNotAMap index | entryUnnamed index | unknownKind index _ _ | invalidOptions index _ _ =>
    some index
  | notJson _ | groupsNotAList | tagsNotAMap | repeatedNames _ => none

theorem ConfigFault.namedEntry_append (index : Int) (name : Json) (rest : String) :
    namedEntry index name ++ rest = entry index ++ (" (" ++ name.display ++ ")" ++ rest) := by
  simp only [namedEntry, String.append_assoc]

/-- The message about an entry begins with its place. -/
theorem ConfigFault.message_of_place? {fault : ConfigFault} {index : Int}
    (h : fault.place? = some index) : ∃ rest, fault.message = entry index ++ rest := by
  cases fault with
  | entryNotAMap i =>
      obtain rfl : i = index := Option.some.inj h
      exact ⟨" must be an object", rfl⟩
  | entryUnnamed i =>
      obtain rfl : i = index := Option.some.inj h
      exact ⟨" is missing a name", rfl⟩
  | unknownKind i name kind =>
      obtain rfl : i = index := Option.some.inj h
      show ∃ rest, namedEntry i name ++ " has unknown kind '" ++ kind.display ++ "'" = _
      rw [String.append_assoc, String.append_assoc, namedEntry_append]
      exact ⟨_, rfl⟩
  | invalidOptions i name _ =>
      obtain rfl : i = index := Option.some.inj h
      show ∃ rest, namedEntry i name ++ " has invalid options" = _
      rw [namedEntry_append]
      exact ⟨_, rfl⟩
  | notJson _ | groupsNotAList | tagsNotAMap | repeatedNames _ => cases h

namespace GroupSpec

/-- An entry is read as a group, wherever in a list it stands. -/
def Reads (v : Json) (spec : GroupSpec) : Prop := ∀ index, ofEntry index v = .ok spec

theorem ofEntry_eq_ok {i j : Int} {v : Json} {spec : GroupSpec} (h : ofEntry i v = .ok spec) :
    ofEntry j v = .ok spec := readEntry_eq_ok_iff.2 (readEntry_eq_ok_iff.1 h)

theorem ofEntries_cons (i : Nat) (v : Json) (vs : List Json) :
    ofEntries i (v :: vs) =
      (ofEntry i v).bind fun spec => (ofEntries (i + 1) vs).bind fun specs => .ok (spec :: specs) :=
  rfl

/-- Entries can be read together if each of them can be read, wherever it stands. -/
theorem ofEntries_eq_ok_iff {i : Nat} {vs : List Json} {specs : List GroupSpec} :
    ofEntries i vs = .ok specs ↔ List.Forall₂ (fun v spec => ofEntry 0 v = .ok spec) vs specs := by
  induction vs generalizing i specs with
  | nil =>
      rw [List.forall₂_nil_left_iff]
      exact ⟨fun h => (Except.ok.inj h).symm, fun h => h ▸ rfl⟩
  | cons v vs ih =>
      rw [List.forall₂_cons_left_iff]
      constructor
      · intro h
        obtain ⟨spec, hspec, h⟩ := except_bind_eq_ok.1 h
        obtain ⟨others, hothers, h⟩ := except_bind_eq_ok.1 h
        cases h
        exact ⟨spec, others, ofEntry_eq_ok hspec, ih.1 hothers, rfl⟩
      · rintro ⟨spec, others, hspec, hothers, rfl⟩
        refine except_bind_eq_ok.2 ⟨spec, ofEntry_eq_ok hspec, ?_⟩
        exact except_bind_eq_ok.2 ⟨others, ih.2 hothers, rfl⟩

theorem exists_specs {vs : List Json} (h : ∀ v ∈ vs, ∃ spec, Reads v spec) :
    ∃ specs, ofEntries 0 vs = .ok specs := by
  have each : ∃ specs, List.Forall₂ (fun v spec => ofEntry 0 v = .ok spec) vs specs := by
    induction vs with
    | nil => exact ⟨[], .nil⟩
    | cons v vs ih =>
        obtain ⟨⟨spec, hspec⟩, h⟩ := List.forall_mem_cons.1 h
        obtain ⟨specs, hspecs⟩ := ih h
        exact ⟨spec :: specs, .cons (hspec 0) hspecs⟩
  obtain ⟨specs, hspecs⟩ := each
  exact ⟨specs, ofEntries_eq_ok_iff.2 hspecs⟩

/-! Entries that cannot be read. -/

theorem exists_fault {v : Json} (h : ¬∃ spec, Reads v spec) (index : Int) :
    ∃ fault, ofEntry index v = .error fault := by
  cases hv : ofEntry index v with
  | ok spec => exact absurd ⟨spec, fun _ => ofEntry_eq_ok hv⟩ h
  | error fault => exact ⟨fault, rfl⟩

theorem place?_of_ofEntry {index : Int} {v : Json} {fault : ConfigFault}
    (h : ofEntry index v = .error fault) : fault.place? = some index := by
  cases v with
  | map es =>
      simp only [ofEntry, readEntry] at h
      split at h
      · split at h
        · cases h
          rfl
        · split at h
          · cases h
            rfl
          · cases h
      · cases h
        rfl
  | null | bool _ | number _ | text _ | list _ =>
      cases h
      rfl
  | leaf a => cases a

/-- The first entry that cannot be read ends the reading with its own fault. -/
theorem ofEntries_of_first_fault {before after : List Json} {v : Json} {fault : ConfigFault}
    {i : Nat} (h : ∀ w ∈ before, ∃ spec, Reads w spec)
    (hv : ofEntry (i + before.length : Nat) v = .error fault) :
    ofEntries i (before ++ v :: after) = .error fault := by
  induction before generalizing i with
  | nil =>
      have here : ofEntry i v = .error fault := hv
      rw [List.nil_append, ofEntries_cons, here]
      rfl
  | cons w before ih =>
      obtain ⟨⟨spec, hspec⟩, h⟩ := List.forall_mem_cons.1 h
      have later : ofEntries (i + 1) (before ++ v :: after) = .error fault := by
        apply ih h
        rw [← hv, List.length_cons, Nat.add_assoc, Nat.add_comm 1]
      rw [List.cons_append, ofEntries_cons, hspec, later]
      rfl

/-! Kinds of entries. -/

/-- The kind that an entry asks for by its code; an entry that does not say asks for the first. -/
inductive AsksFor (es : Entries Json) : GroupKind → Prop
  | said {kind : GroupKind} (said : Entries.get? es "kind" = some (.text kind.code)) :
      AsksFor es kind
  | unsaid (unsaid : Entries.get? es "kind" = none) : AsksFor es .stack

theorem asksFor_of_kindOf? {es : Entries Json} {kind : GroupKind} (h : kindOf? es = .ok kind) :
    AsksFor es kind := by
  unfold kindOf? at h
  split at h
  case h_1 unsaid =>
    cases h
    exact .unsaid unsaid
  case h_2 s said =>
    split at h
    case h_1 k found =>
      cases h
      have code : kind.code = s := by simpa using List.find?_some found
      exact .said (code ▸ said)
    case h_2 => cases h
  case h_3 => cases h

theorem kind_of_ofFields {es : Entries Setting} {kind : GroupKind} {o : GroupOptions}
    (h : GroupOptions.ofFields es kind = .ok o) : o.kind = kind := by
  cases kind with
  | stack | template | managed =>
      obtain ⟨_, _, rfl⟩ := Checked.map_eq_ok h
      rfl

/-- A group that is read of an entry has the options of the kind that the entry asks for. -/
theorem asksFor_of_ofEntry {index : Int} {v : Json} {spec : GroupSpec}
    (h : ofEntry index v = .ok spec) : ∃ es, v = .map es ∧ AsksFor es spec.options.kind := by
  obtain ⟨es, kind, rfl, _, _, asked, read⟩ := readEntry_eq_ok_iff.1 h
  exact ⟨es, rfl, (kind_of_ofFields read).symm ▸ asksFor_of_kindOf? asked⟩

/-! Names that are texts. -/

/-- An entry whose name is a text, if it has one. -/
def IsNamedByText (v : Json) : Prop := v.member "name" = .null ∨ ∃ s, v.member "name" = .text s

/-- The names of some entries, of those that have a text for one. -/
def textNames (vs : List Json) : List String := vs.filterMap fun v => (v.member "name").text?

theorem names_eq_texts {vs : List Json} (named : ∀ v ∈ vs, IsNamedByText v)
    (given : ∀ v ∈ vs, Value.isTruthy (v.member "name") = true) :
    (vs.map fun v => v.member "name") = (textNames vs).map .text := by
  induction vs with
  | nil => rfl
  | cons v vs ih =>
      obtain ⟨hv, named⟩ := List.forall_mem_cons.1 named
      obtain ⟨truthy, given⟩ := List.forall_mem_cons.1 given
      rcases hv with none | ⟨s, text⟩
      · rw [none] at truthy
        cases truthy
      · have first : textNames (v :: vs) = s :: textNames vs :=
          List.filterMap_cons_some (by rw [text]; rfl)
        rw [List.map_cons, ih named given, first, text]
        rfl

theorem repeated_map_text (texts : List String) :
    repeated (texts.map .text) = (texts.filter fun t => 1 < texts.count t).map .text := by
  rw [repeated, List.filter_map]
  congr 1
  refine List.filter_congr fun t _ => ?_
  have times : (texts.map Value.text).countP (Json.same (.text t)) = texts.count t := by
    rw [List.countP_map, List.count]
    exact List.countP_congr fun u _ => by simpa [Json.same] using eq_comm
  simp only [Function.comp_apply, times]

/-- No text is repeated among distinct ones, and among no others. -/
theorem repeated_texts {texts : List String} : repeated (texts.map .text) = [] ↔ texts.Nodup := by
  rw [repeated_map_text, List.map_eq_nil_iff, List.filter_eq_nil_iff, List.nodup_iff_count_le_one]
  simp only [decide_eq_true_eq, Nat.not_lt]
  refine ⟨fun once t => ?_, fun once t _ => once t⟩
  by_cases given : t ∈ texts
  · exact once t given
  · simp [List.count_eq_zero_of_not_mem given]

theorem allTexts_map_text (texts : List String) : allTexts (texts.map .text) = some texts := by
  induction texts with
  | nil => rfl
  | cons t texts ih => simp [allTexts, ih]

theorem nodup_eraseDups (texts : List String) : texts.eraseDups.Nodup := by
  induction h : texts.length using Nat.strong_induction_on generalizing texts with
  | h n ih =>
      cases texts with
      | nil => exact List.nodup_nil
      | cons t texts =>
          rw [List.eraseDups_cons, List.nodup_cons, List.mem_eraseDups]
          refine ⟨by simp, ih _ ?_ _ rfl⟩
          rw [← h]
          exact Nat.lt_succ_of_le (List.length_filter_le _ _)

/-- Each of some texts once, in the order of their characters. -/
def sortedOnce (texts : List String) : List String :=
  texts.eraseDups.mergeSort fun a b => decide (a ≤ b)

theorem mem_sortedOnce {texts : List String} {t : String} : t ∈ sortedOnce texts ↔ t ∈ texts := by
  rw [sortedOnce, List.mem_mergeSort, List.mem_eraseDups]

theorem pairwise_sortedOnce (texts : List String) : (sortedOnce texts).Pairwise (· < ·) := by
  have sorted : (sortedOnce texts).Pairwise (· ≤ ·) := by
    refine (List.pairwise_mergeSort ?_ ?_ texts.eraseDups).imp of_decide_eq_true
    · intro a b c hab hbc
      exact decide_eq_true (le_trans (of_decide_eq_true hab) (of_decide_eq_true hbc))
    · intro a b
      simpa using le_total a b
  have distinct : (sortedOnce texts).Pairwise (· ≠ ·) :=
    (List.mergeSort_perm _ _).nodup_iff.mpr (nodup_eraseDups _)
  exact (sorted.and distinct).imp fun ⟨le, ne⟩ => lt_of_le_of_ne le ne

/-- Names that are texts pass the check if they are distinct, and those repeated are listed. -/
theorem checkNames_map_text (texts : List String) :
    checkNames (texts.map .text) =
      if texts.Nodup then .ok ()
      else .error (.config (.repeatedNames
        (sortedOnce (texts.filter fun t => 1 < texts.count t)))) := by
  split
  case isTrue distinct =>
    rw [checkNames, checkDistinct, repeated_texts.mpr distinct]
    rfl
  case isFalse twice =>
    unfold checkNames checkDistinct
    split
    case h_1 none =>
      exact absurd (repeated_texts.mp none) twice
    case h_2 => rw [repeated_map_text, allTexts_map_text]; rfl

/-! The reading of a whole list. -/

/-- What is read as a group has the kind that it asks for. -/
def IsGroupOf (v : Json) (spec : GroupSpec) : Prop :=
  Reads v spec ∧ ∃ es, v = .map es ∧ AsksFor es spec.options.kind

theorem isGroupOf_of_ofEntry {index : Int} {v : Json} {spec : GroupSpec}
    (h : ofEntry index v = .ok spec) : IsGroupOf v spec :=
  ⟨fun _ => ofEntry_eq_ok h, asksFor_of_ofEntry h⟩

theorem reads_of_ofEntries {i : Nat} {vs : List Json} {specs : List GroupSpec}
    (h : ofEntries i vs = .ok specs) : ∀ v ∈ vs, ∃ spec, Reads v spec := by
  induction vs generalizing i specs with
  | nil => exact List.forall_mem_nil _
  | cons v vs ih =>
      obtain ⟨spec, hspec, h⟩ := except_bind_eq_ok.1 h
      obtain ⟨others, hothers, _⟩ := except_bind_eq_ok.1 h
      exact List.forall_mem_cons.2 ⟨⟨spec, fun _ => ofEntry_eq_ok hspec⟩, ih hothers⟩

theorem parseList_of_fault {text : Option String} {fault : ConfigFault}
    (h : entriesOf text = .error fault) : parseList text = .error (.config fault) := by
  rw [parseList, load_of_fault h]
  rfl

theorem parseList_of_entry_fault {text : Option String} {vs : List Json} {fault : ConfigFault}
    (h : entriesOf text = .ok vs) (hspecs : ofEntries 0 vs = .error fault) :
    parseList text = .error (.config fault) := by
  rw [parseList, load_of_entry_fault h hspecs]
  rfl

theorem parseList_of_specs {text : Option String} {vs : List Json} {specs : List GroupSpec}
    (h : entriesOf text = .ok vs) (hspecs : ofEntries 0 vs = .ok specs) :
    parseList text = (checkNames (specs.map name)).map fun _ => specs := by
  rw [parseList, load_of_specs h hspecs, checkNames]
  cases (checkDistinct (specs.map name) : Except LoadFailure Unit) <;> rfl

theorem load_of_parseList {text : Option String} {specs : List GroupSpec}
    (h : parseList text = .ok specs) :
    load GroupOptions.ofData (text.map String.toList) = .ok specs := by
  rw [parseList] at h
  cases loaded : load GroupOptions.ofData (text.map String.toList) with
  | error e =>
      rw [loaded] at h
      cases h
  | ok _ =>
      rw [loaded] at h
      cases h
      rfl

theorem parseList_eq_ok {text : Option String} {specs : List GroupSpec}
    (h : parseList text = .ok specs) :
    ∃ vs, entriesOf text = .ok vs ∧ ofEntries 0 vs = .ok specs := by
  cases hentries : entriesOf text with
  | error fault => cases (parseList_of_fault hentries).symm.trans h
  | ok vs =>
      cases hspecs : ofEntries 0 vs with
      | error fault => cases (parseList_of_entry_fault hentries hspecs).symm.trans h
      | ok specs' =>
          rw [parseList_of_specs hentries hspecs] at h
          cases hcheck : checkNames (specs'.map name) with
          | error e =>
              rw [hcheck] at h
              cases h
          | ok _ =>
              rw [hcheck] at h
              cases h
              exact ⟨vs, rfl, hspecs⟩

section Listed

variable {text : Option String} {vs : List Json} {specs : List GroupSpec}

/-- Once all entries are read, their names decide. -/
theorem parseList_of_ofEntries (h : entriesOf text = .ok vs) (named : ∀ v ∈ vs, IsNamedByText v)
    (hspecs : ofEntries 0 vs = .ok specs) :
    parseList text =
      if (textNames vs).Nodup then .ok specs
      else .error (.config (.repeatedNames
        (sortedOnce ((textNames vs).filter fun t => 1 < (textNames vs).count t)))) := by
  obtain ⟨_, truthy⟩ := names_of_readEntries hspecs
  have names : specs.map name = vs.map fun v => v.member "name" := (names_of_readEntries hspecs).1
  have given : ∀ v ∈ vs, Value.isTruthy (v.member "name") = true := by
    have all : ∀ n ∈ vs.map (fun v => v.member "name"), n.isTruthy = true :=
      names ▸ List.forall_mem_map.2 truthy
    exact List.forall_mem_map.1 all
  rw [parseList_of_specs h hspecs, names, names_eq_texts named given, checkNames_map_text]
  split <;> rfl

/-- How the reading of a list of entries ends. -/
structure IsReadingOf (vs : List Json) (read : Except Failure (List GroupSpec)) : Prop where
  /-- There are groups exactly if each entry can be read by itself and no name stands twice. -/
  accepts : (∃ specs, read = .ok specs) ↔
    (∀ v ∈ vs, ∃ spec, Reads v spec) ∧ (textNames vs).Nodup
  /-- There is one group for each entry, in order, and it is what the entry is read as by itself. -/
  groups : ∀ specs, read = .ok specs → List.Forall₂ IsGroupOf vs specs
  /-- The first entry that cannot be read is reported at its place, however names are repeated. -/
  refuses : ∀ before v after, vs = before ++ v :: after →
    (∀ w ∈ before, ∃ spec, Reads w spec) → (¬∃ spec, Reads v spec) →
    ∃ fault, ofEntry before.length v = .error fault ∧ read = .error (.config fault) ∧
      ∃ rest, fault.message = ConfigFault.entry before.length ++ rest
  /-- Otherwise the names that stand more than once are listed, each of them once and in order. -/
  repeats : (∀ v ∈ vs, ∃ spec, Reads v spec) → ¬(textNames vs).Nodup →
    ∃ names : List String, read = .error (.config (.repeatedNames names)) ∧
      names.Pairwise (· < ·) ∧ ∀ n, n ∈ names ↔ 1 < (textNames vs).count n

end Listed

/-- A list with an entry that is no map, in front of which a name is repeated and behind it another. -/
def repeatingText : String :=
  "[\x7b\"name\": \"b\"\x7d, \x7b\"kind\": \"managed\", \"name\": \"a\"\x7d, " ++
    "\x7b\"name\": \"b\"\x7d, 7, \x7b\"name\": \"a\"\x7d]"

def repeatingEntries : List Json := [
  .map [("name", .text "b")], .map [("kind", .text "managed"), ("name", .text "a")],
  .map [("name", .text "b")], .int 7, .map [("name", .text "a")]]

end GroupSpec
end FleetPlan
