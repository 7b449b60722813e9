import FleetPlan.Node.Bootstrap
import Mathlib.Data.List.Basic

/-!
The flags of the node's agent read back.

A flag lists its entries between commas; the first equals sign of an entry ends its key, and the last
colon of a taint stands before its effect. So labels and taints are read back as they are, if no key
holds a comma or an equals sign and no value a comma, and the taints of a managed group are the same
ones. That other texts are kept apart is not claimed.
-/
namespace FleetPlan

namespace Text

/-- What stands before a character and behind it, where it is first. -/
def cutFirst (c : Char) (cs : List Char) : Option (List Char × List Char) :=
  match cs.dropWhile (· != c) with
  | [] => none
  | _ :: rest => some (cs.takeWhile (· != c), rest)

/-- What stands before a character and behind it, where it is last. -/
def cutLast (c : Char) (cs : List Char) : Option (List Char × List Char) :=
  (cutFirst c cs.reverse).map fun p => (p.2.reverse, p.1.reverse)

variable {c : Char} {u v w : List Char}

theorem cutFirst_append (h : c ∉ u) (v : List Char) : cutFirst c (u ++ c :: v) = some (u, v) := by
  have other : ∀ d ∈ u, (d != c) = true := fun d hd => bne_iff_ne.mpr fun same => h (same ▸ hd)
  simp [cutFirst, List.dropWhile_append_of_pos other, List.takeWhile_append_of_pos other]

theorem cutLast_append (u : List Char) (h : c ∉ v) : cutLast c (u ++ c :: v) = some (u, v) := by
  have reversed : (u ++ c :: v).reverse = v.reverse ++ c :: u.reverse := by simp
  rw [cutLast, reversed, cutFirst_append (List.mem_reverse.not.mpr h), Option.map_some,
    List.reverse_reverse, List.reverse_reverse]

/-! Words that are joined are split again. -/

theorem foldr_wordStep_solid (h : ∀ c ∈ w, isBlank c = false) (p : List (List Char) × List Char) :
    w.foldr wordStep p = (p.1, w ++ p.2) := by
  induction w with
  | nil => rfl
  | cons c w ih =>
      obtain ⟨hc, hw⟩ := List.forall_mem_cons.mp h
      rw [List.foldr_cons, ih hw, wordStep]
      simp [hc]

theorem wordsOf_solid (hne : w ≠ []) (h : ∀ c ∈ w, isBlank c = false) : wordsOf w = [w] := by
  rw [wordsOf, foldr_wordStep_solid h]
  simp [hne]

theorem wordsOf_append_space (hne : w ≠ []) (h : ∀ c ∈ w, isBlank c = false) (rest : List Char) :
    wordsOf (w ++ ' ' :: rest) = w :: wordsOf rest := by
  have space : wordStep ' ' (rest.foldr wordStep ([], [])) = (wordsOf rest, []) := rfl
  rw [wordsOf, List.foldr_append, List.foldr_cons, space, foldr_wordStep_solid h]
  simp [hne]

theorem wordsOf_intercalate {ws : List (List Char)}
    (h : ∀ w ∈ ws, w ≠ [] ∧ ∀ c ∈ w, isBlank c = false) : wordsOf ([' '].intercalate ws) = ws := by
  induction ws with
  | nil => rfl
  | cons w ws ih =>
      obtain ⟨⟨hne, hw⟩, hws⟩ := List.forall_mem_cons.mp h
      cases ws with
      | nil => rw [List.intercalate_singleton, wordsOf_solid hne hw]
      | cons v vs =>
          rw [List.intercalate_cons_cons, List.append_assoc, List.singleton_append,
            wordsOf_append_space hne hw, ih hws]

theorem words_intercalate_words (s : String) : words (" ".intercalate (words s)) = words s := by
  have joined : (" ".intercalate (words s)).toList = [' '].intercalate (wordsOf s.toList) := by
    rw [String.toList_intercalate, words, List.map_map]
    simp [Function.comp_def]
  rw [words, joined, wordsOf_intercalate fun w hw => clean_of_mem_wordsOf hw, words]

/-! Entries that are listed between commas are read one by one. -/

section Listed

variable {α : Type} {read : List Char → Option α} {entry : α → String} {xs : List α}

/-- The entries behind the name of a flag, each read from the text between two commas. -/
def readFlag (name : String) (read : List Char → Option α) (flag : String) : Option (List α) :=
  (name.toList.isPrefixOf? flag.toList).bind fun listed => (listed.splitOn ',').mapM read

theorem mapM_of_reads {β : Type} {read : β → Option α} {write : α → β}
    (h : ∀ x ∈ xs, read (write x) = some x) : (xs.map write).mapM read = some xs := by
  induction xs with
  | nil => rfl
  | cons x xs ih =>
      obtain ⟨hx, hxs⟩ := List.forall_mem_cons.mp h
      rw [List.map_cons, List.mapM_cons, hx, ih hxs]
      rfl

theorem readFlag_listed (name : String) (hne : xs ≠ []) (hcomma : ∀ x ∈ xs, ',' ∉ (entry x).toList)
    (hread : ∀ x ∈ xs, read (entry x).toList = some x) :
    readFlag name read (name ++ ",".intercalate (xs.map entry)) = some xs := by
  have behind : name.toList.isPrefixOf? (name ++ ",".intercalate (xs.map entry)).toList =
      some ([','].intercalate (xs.map fun x => (entry x).toList)) := by
    rw [List.isPrefixOf?_eq_some_iff_append_eq, String.toList_append, String.toList_intercalate,
      List.map_map]
    rfl
  have split : ([','].intercalate (xs.map fun x => (entry x).toList)).splitOn ',' =
      xs.map fun x => (entry x).toList := by
    refine List.splitOn_intercalate ',' ?_ (List.map_eq_nil_iff.not.mpr hne)
    exact List.forall_mem_map.mpr hcomma
  rw [readFlag, behind, Option.bind_some, split]
  exact mapM_of_reads hread

end Listed

end Text

open Text

namespace TaintEffect

/-- The effect that a code of the node's stands for. -/
def ofCode? (code : String) : Option TaintEffect := all.find? (·.code == code)

/-- The effect that a code of a managed group's stands for. -/
def ofManagedCode? (code : String) : Option TaintEffect := all.find? (·.managedCode == code)

theorem ofCode?_code (e : TaintEffect) : ofCode? e.code = some e := by
  cases e <;> decide

theorem ofManagedCode?_managedCode (e : TaintEffect) : ofManagedCode? e.managedCode = some e := by
  cases e <;> decide

end TaintEffect

namespace AgentSettings

/-- A label as it is listed in its flag. -/
def readLabel (cs : List Char) : Option (String × String) :=
  (cutFirst '=' cs).map fun p => (String.ofList p.1, String.ofList p.2)

/-- A taint as it is listed in its flag. -/
def readTaint (cs : List Char) : Option (String × Taint) := do
  let (key, rest) ← cutFirst '=' cs
  let (value, code) ← cutLast ':' rest
  let effect ← TaintEffect.ofCode? (String.ofList code)
  return (String.ofList key, ⟨String.ofList value, effect⟩)

def readLabels (flag : String) : Option (Entries String) :=
  readFlag "--node-labels=" readLabel flag

def readTaints (flag : String) : Option (Entries Taint) :=
  readFlag "--register-with-taints=" readTaint flag

/-- The flag for the labels, if there are some. -/
def labelFlags (labels : Option (Entries String)) : List String :=
  if (labels.getD []).isEmpty then [] else [labelFlag (labels.getD [])]

/-- The flag for the taints, if there are some. -/
def taintFlags (taints : Option (Entries Taint)) : List String :=
  if (taints.getD []).isEmpty then [] else [taintFlag (taints.getD [])]

end AgentSettings

/-- A taint as a managed group has it. -/
def readManagedTaint (v : Json) : Option (String × Taint) := do
  let key ← (v.member "key").text?
  let value ← (v.member "value").text?
  let code ← (v.member "effect").text?
  let effect ← TaintEffect.ofManagedCode? code
  return (key, ⟨value, effect⟩)

/-- The taints that a managed group has, none if none are given. -/
def readManagedTaints : Json → Option (Entries Taint)
  | .null => some []
  | .list vs => vs.mapM readManagedTaint
  | _ => none

namespace AgentSettings

/-- A key that can be told from its value and from other entries. -/
def IsKey (s : String) : Prop := '=' ∉ s.toList ∧ ',' ∉ s.toList

/-- A value that can be told from other entries. -/
def IsValue (s : String) : Prop := ',' ∉ s.toList

instance (s : String) : Decidable (IsKey s) := inferInstanceAs (Decidable (_ ∧ _))

instance (s : String) : Decidable (IsValue s) := inferInstanceAs (Decidable (¬ _))

/-- The labels and taints have keys and values that can be told apart. -/
structure IsSeparable (a : AgentSettings) : Prop where
  labels : ∀ e ∈ a.labels.getD [], IsKey e.1 ∧ IsValue e.2
  taints : ∀ e ∈ a.taints.getD [], IsKey e.1 ∧ IsValue e.2.value

/-- Entries are told by one flag, from which they are read as they are, and none by no flag. -/
structure Tells {α : Type} (read : String → Option (Entries α)) (es : Entries α)
    (flags : List String) : Prop where
  given : es ≠ [] → ∃ flag, flags = [flag] ∧ read flag = some es
  missing : es = [] → flags = []

/-- What the arguments of the node's agent say of its settings. -/
structure ReadsBack (a : AgentSettings) : Prop where
  args : a.args = words (a.extraArgs.getD "") ++ labelFlags a.labels ++ taintFlags a.taints
  solid : ∀ w ∈ words (a.extraArgs.getD ""), w ≠ "" ∧ ∀ c ∈ w.toList, isBlank c = false
  joined : words (" ".intercalate (words (a.extraArgs.getD ""))) = words (a.extraArgs.getD "")
  labels : Tells readLabels (a.labels.getD []) (labelFlags a.labels)
  taints : Tells readTaints (a.taints.getD []) (taintFlags a.taints)
  /-- Without labels, or without taints, the other arguments stay as they are. -/
  unlabelled : ∀ ls : Option (Entries String), ls.getD [] = [] →
    AgentSettings.args { a with labels := ls } = words (a.extraArgs.getD "") ++ taintFlags a.taints
  untainted : ∀ ts : Option (Entries Taint), ts.getD [] = [] →
    AgentSettings.args { a with taints := ts } = words (a.extraArgs.getD "") ++ labelFlags a.labels
  /-- A managed group with these taints has the same, and is told of none if no flag is. -/
  managed : readManagedTaints (managedTaints a.taints) = some (a.taints.getD [])
  unmanaged : managedTaints a.taints = .null ↔ taintFlags a.taints = []

variable {a : AgentSettings}

theorem readLabel_entry {e : String × String} (h : IsKey e.1) :
    readLabel (e.1 ++ "=" ++ e.2).toList = some e := by
  have entry : (e.1 ++ "=" ++ e.2).toList = e.1.toList ++ '=' :: e.2.toList := by simp
  rw [readLabel, entry, cutFirst_append h.1, Option.map_some, String.ofList_toList,
    String.ofList_toList]

theorem readTaint_entry {e : String × Taint} (h : IsKey e.1) :
    readTaint (e.1 ++ "=" ++ e.2.value ++ ":" ++ e.2.effect.code).toList = some e := by
  have entry : (e.1 ++ "=" ++ e.2.value ++ ":" ++ e.2.effect.code).toList =
      e.1.toList ++ '=' :: (e.2.value.toList ++ ':' :: e.2.effect.code.toList) := by simp
  have code : ':' ∉ e.2.effect.code.toList := by cases e.2.effect <;> decide
  simp only [readTaint, entry, cutFirst_append h.1, cutLast_append _ code, String.ofList_toList,
    TaintEffect.ofCode?_code, Option.bind_eq_bind, Option.bind_some]
  rfl

theorem readLabels_labelFlag {labels : Entries String} (hne : labels ≠ [])
    (h : ∀ e ∈ labels, IsKey e.1 ∧ IsValue e.2) : readLabels (labelFlag labels) = some labels := by
  refine readFlag_listed "--node-labels=" hne (fun e he => ?_) fun e he => readLabel_entry (h e he).1
  obtain ⟨⟨_, key⟩, value⟩ := h e he
  simp only [IsValue] at value
  simp [key, value]

theorem readTaints_taintFlag {taints : Entries Taint} (hne : taints ≠ [])
    (h : ∀ e ∈ taints, IsKey e.1 ∧ IsValue e.2.value) :
    readTaints (taintFlag taints) = some taints := by
  refine readFlag_listed "--register-with-taints=" hne (fun e he => ?_) fun e he =>
    readTaint_entry (h e he).1
  obtain ⟨⟨_, key⟩, value⟩ := h e he
  simp only [IsValue] at value
  have code : ',' ∉ e.2.effect.code.toList := by cases e.2.effect <;> decide
  simp [key, value, code]

theorem tells_of_read {α : Type} {read : String → Option (Entries α)} {flag : Entries α → String}
    {es : Entries α} (h : es ≠ [] → read (flag es) = some es) :
    Tells read es (if es.isEmpty then [] else [flag es]) where
  given hne := ⟨flag es, if_neg (by simp [hne]), h hne⟩
  missing he := if_pos (by simp [he])

theorem readManagedTaints_managedTaints (taints : Option (Entries Taint)) :
    readManagedTaints (managedTaints taints) = some (taints.getD []) := by
  match taints with
  | none => rfl
  | some [] => rfl
  | some (t :: ts) =>
      refine mapM_of_reads fun e _ => ?_
      have effect := TaintEffect.ofManagedCode?_managedCode e.2.effect
      simp [readManagedTaint, Value.member, Entries.get?, Value.ofOption, Value.text?, effect]

theorem managedTaints_eq_null (taints : Option (Entries Taint)) :
    managedTaints taints = .null ↔ taintFlags taints = [] := by
  match taints with
  | none => exact iff_of_true rfl rfl
  | some [] => exact iff_of_true rfl rfl
  | some (_ :: _) => exact iff_of_false (fun h => nomatch h) (List.cons_ne_nil _ _)

/-- What can be told apart is read back from the arguments, as it is and in its order, and the taints
of a managed group are the same. -/
theorem readsBack_of_isSeparable (h : a.IsSeparable) : a.ReadsBack where
  args := rfl
  solid w hw := by
    obtain ⟨cs, hcs, rfl⟩ := List.mem_map.mp hw
    obtain ⟨nonempty, clean⟩ := clean_of_mem_wordsOf hcs
    rw [String.toList_ofList]
    exact ⟨fun empty => nonempty (String.ofList_eq_empty_iff.mp empty), clean⟩
  joined := words_intercalate_words _
  labels := tells_of_read fun given => readLabels_labelFlag given h.labels
  taints := tells_of_read fun given => readTaints_taintFlag given h.taints
  unlabelled ls none := by
    have quiet : labelFlags ls = [] := if_pos (by simp [none])
    show words _ ++ labelFlags ls ++ taintFlags a.taints = _
    rw [quiet, List.append_nil]
  untainted ts none := by
    have quiet : taintFlags ts = [] := if_pos (by simp [none])
    show words _ ++ labelFlags a.labels ++ taintFlags ts = _
    rw [quiet, List.append_nil]
  managed := readManagedTaints_managedTaints _
  unmanaged := managedTaints_eq_null _

/-- Settings whose values hold the marks that end a key or stand before an effect. -/
def markedSettings : AgentSettings where
  extraArgs := some " --max-pods=30\t--v=2 "
  labels := some [("role", "a=b"), ("", "")]
  taints := some [("only:web", ⟨"x=y:z", .preferNoSchedule⟩), ("gpu", ⟨"", .noExecute⟩)]

theorem readsBack_of_isSeparable_markedSettings :
    markedSettings.IsSeparable ∧ markedSettings.ReadsBack := by
  have separable : markedSettings.IsSeparable := { labels := by decide, taints := by decide }
  exact ⟨separable, readsBack_of_isSeparable separable⟩

end AgentSettings

end FleetPlan
