import FleetPlan.Node.Bootstrap
import Mathlib.Data.List.Basic

/-!
How a shell splits the tail of the bootstrap command into words.

A blank outside single quotes ends a word, and single quotes group. Several arguments of the node's
agent arrive as one word because they are quoted; a single argument is not quoted, so it arrives as it
is only if it holds no blank. What a shell does with other quotes, variables or escapes is left open.
-/
namespace FleetPlan

namespace Shell

/-- The blanks between the words of a command. -/
def isBlank (c : Char) : Bool := c == ' ' || c == '\t' || c == '\n'

/-- The words of a text behind a word that was begun, or behind none, inside or outside quotes. -/
def wordsFrom (quoted : Bool) (begun : Option (List Char)) : List Char → List (List Char)
  | [] => begun.toList
  | c :: cs =>
    if c = '\'' then wordsFrom (!quoted) (some (begun.getD [])) cs
    else if isBlank c && !quoted then begun.toList ++ wordsFrom false none cs
    else wordsFrom quoted (some (begun.getD [] ++ [c])) cs

def words (s : String) : List String := (wordsFrom false none s.toList).map String.ofList

/-- A text without single quotes. -/
def Unquoted (s : String) : Prop := ∀ c ∈ s.toList, c ≠ '\''

/-- A text without blanks. -/
def Solid (s : String) : Prop := ∀ c ∈ s.toList, isBlank c = false

-- The characters of the text are tried, not all characters there are.
instance (s : String) : Decidable (Unquoted s) := List.decidableBAll (fun c => c ≠ '\'') s.toList

instance (s : String) : Decidable (Solid s) :=
  List.decidableBAll (fun c => isBlank c = false) s.toList

section WordsFrom

variable {begun : Option (List Char)} {u rest w : List Char} {c : Char}

theorem wordsFrom_blank (h : isBlank c = true) :
    wordsFrom false begun (c :: rest) = begun.toList ++ wordsFrom false none rest := by
  have plain : c ≠ '\'' := by
    rintro rfl
    cases h
  simp [wordsFrom, plain, h]

theorem wordsFrom_solid (hq : c ≠ '\'') (h : isBlank c = false) :
    wordsFrom false begun (c :: rest) = wordsFrom false (some (begun.getD [] ++ [c])) rest := by
  simp [wordsFrom, hq, h]

/-- A blank behind text without quotes ends the words of that text. -/
theorem wordsFrom_append_blank (hu : ∀ c ∈ u, c ≠ '\'') (h : isBlank c = true) :
    wordsFrom false begun (u ++ c :: rest) =
      wordsFrom false begun u ++ wordsFrom false none rest := by
  induction u generalizing begun with
  | nil => exact wordsFrom_blank h
  | cons d u ih =>
      obtain ⟨hd, hu⟩ := List.forall_mem_cons.mp hu
      cases blank : isBlank d with
      | true => rw [List.cons_append, wordsFrom_blank blank, wordsFrom_blank blank, ih hu,
          List.append_assoc]
      | false => rw [List.cons_append, wordsFrom_solid hd blank,
          wordsFrom_solid hd blank, ih hu]

/-- Text without quotes and blanks prolongs the word that was begun. -/
theorem wordsFrom_word (hq : ∀ c ∈ u, c ≠ '\'') (h : ∀ c ∈ u, isBlank c = false) :
    wordsFrom false (some w) u = [w ++ u] := by
  induction u generalizing w with
  | nil => rw [List.append_nil]; rfl
  | cons d u ih =>
      obtain ⟨hd, hq⟩ := List.forall_mem_cons.mp hq
      obtain ⟨solid, h⟩ := List.forall_mem_cons.mp h
      rw [wordsFrom_solid hd solid, ih hq h]
      simp

/-- Inside quotes every character prolongs the word, up to the quote that closes. -/
theorem wordsFrom_quoted (hu : ∀ c ∈ u, c ≠ '\'') :
    wordsFrom true (some w) (u ++ '\'' :: rest) = wordsFrom false (some (w ++ u)) rest := by
  induction u generalizing w with
  | nil => simp [wordsFrom]
  | cons d u ih =>
      obtain ⟨hd, hu⟩ := List.forall_mem_cons.mp hu
      have step : wordsFrom true (some w) (d :: (u ++ '\'' :: rest)) =
          wordsFrom true (some (w ++ [d])) (u ++ '\'' :: rest) := by
        simp [wordsFrom, hd]
      rw [List.cons_append, step, ih hu, List.append_assoc, List.singleton_append]

/-- No word of text without quotes holds a blank. -/
theorem solid_of_mem_wordsFrom (hu : ∀ c ∈ u, c ≠ '\'') (hb : ∀ v ∈ begun, ∀ c ∈ v, isBlank c = false)
    (hw : w ∈ wordsFrom false begun u) : ∀ c ∈ w, isBlank c = false := by
  induction u generalizing begun with
  | nil => exact hb w (Option.mem_toList.mp hw)
  | cons d u ih =>
      obtain ⟨hd, hu⟩ := List.forall_mem_cons.mp hu
      cases blank : isBlank d with
      | true =>
          rw [wordsFrom_blank blank] at hw
          rcases List.mem_append.mp hw with hw | hw
          · exact hb w (Option.mem_toList.mp hw)
          · exact ih hu (fun v hv => (Option.not_mem_none v hv).elim) hw
      | false =>
          rw [wordsFrom_solid hd blank] at hw
          refine ih hu (fun v hv c hc => ?_) hw
          obtain rfl := Option.mem_some.mp hv
          rcases List.mem_append.mp hc with hc | hc
          · cases begun with
            | none => cases hc
            | some b => exact hb b rfl c hc
          · rwa [List.mem_singleton.mp hc]

end WordsFrom

variable {s t : String}

theorem words_empty : words "" = [] := rfl

/-- A blank joins the words of two texts. -/
theorem words_append_blank (hs : Unquoted s) : words (s ++ " " ++ t) = words s ++ words t := by
  have split : wordsFrom false none (s.toList ++ ' ' :: t.toList) =
      wordsFrom false none s.toList ++ wordsFrom false none t.toList :=
    wordsFrom_append_blank hs rfl
  simp only [words, String.toList_append, List.append_assoc]
  rw [← List.map_append, ← split]
  rfl

theorem words_solid (hq : Unquoted s) (h : Solid s) (hne : s ≠ "") : words s = [s] := by
  obtain ⟨c, cs, hs⟩ := List.exists_cons_of_ne_nil (mt String.toList_eq_nil_iff.mp hne)
  obtain ⟨hc, hcs⟩ := List.forall_mem_cons.mp (hs ▸ hq : ∀ d ∈ c :: cs, d ≠ '\'')
  obtain ⟨solid, h⟩ := List.forall_mem_cons.mp (hs ▸ h : ∀ d ∈ c :: cs, isBlank d = false)
  rw [words, hs, wordsFrom_solid hc solid, wordsFrom_word hcs h, List.map_singleton,
    ← String.ofList_toList (s := s), hs]
  rfl

theorem words_quote (hq : Unquoted s) : words ("'" ++ s ++ "'") = [s] := by
  have text : ("'" ++ s ++ "'").toList = '\'' :: (s.toList ++ ['\'']) := by
    simp [String.toList_append]
  have opened : wordsFrom false none ('\'' :: (s.toList ++ ['\''])) =
      wordsFrom true (some []) (s.toList ++ ['\'']) := rfl
  rw [words, text, opened, wordsFrom_quoted hq, List.nil_append]
  show [String.ofList s.toList] = [s]
  rw [String.ofList_toList]

theorem solid_of_mem_words (hq : Unquoted s) (ht : t ∈ words s) : Solid t := by
  obtain ⟨w, hw, rfl⟩ := List.mem_map.mp ht
  rw [Solid, String.toList_ofList]
  exact solid_of_mem_wordsFrom hq (fun v hv => (Option.not_mem_none v hv).elim) hw

theorem unquoted_append : Unquoted (s ++ t) ↔ Unquoted s ∧ Unquoted t := by
  rw [Unquoted, String.toList_append, List.forall_mem_append]
  rfl

theorem unquoted_intercalate {parts : List String} (hs : Unquoted s)
    (h : ∀ p ∈ parts, Unquoted p) : Unquoted (s.intercalate parts) := by
  induction parts with
  | nil => exact List.forall_mem_nil _
  | cons p ps ih =>
      obtain ⟨hp, hps⟩ := List.forall_mem_cons.mp h
      cases ps with
      | nil => rwa [String.intercalate_singleton]
      | cons q qs =>
          rw [String.intercalate_cons_cons, unquoted_append, unquoted_append]
          exact ⟨⟨hp, hs⟩, ih hps⟩

end Shell

namespace Text

theorem wordStep_subset {c : Char} {cs : List Char} {p : List (List Char) × List Char}
    (hw : ∀ w ∈ p.1, w ⊆ cs) (hcur : p.2 ⊆ cs) :
    (∀ w ∈ (wordStep c p).1, w ⊆ c :: cs) ∧ (wordStep c p).2 ⊆ c :: cs := by
  obtain ⟨ws, cur⟩ := p
  have kept : ∀ w ∈ ws, w ⊆ c :: cs := fun w h => List.subset_cons_of_subset c (hw w h)
  cases blank : isBlank c with
  | false => simpa [wordStep, blank] using ⟨kept, List.subset_cons_of_subset c hcur⟩
  | true =>
      have closed : ∀ w ∈ cur :: ws, w ⊆ c :: cs :=
        List.forall_mem_cons.mpr ⟨List.subset_cons_of_subset c hcur, kept⟩
      cases cur with
      | nil => simpa [wordStep, blank] using kept
      | cons x xs => simpa [wordStep, blank] using closed

theorem foldr_wordStep_subset (cs : List Char) :
    (∀ w ∈ (cs.foldr wordStep ([], [])).1, w ⊆ cs) ∧ (cs.foldr wordStep ([], [])).2 ⊆ cs := by
  induction cs with
  | nil => exact ⟨List.forall_mem_nil _, List.nil_subset _⟩
  | cons c cs ih => exact wordStep_subset ih.1 ih.2

/-- A word holds only characters of its text. -/
theorem subset_of_mem_wordsOf {cs w : List Char} (h : w ∈ wordsOf cs) : w ⊆ cs := by
  have held := foldr_wordStep_subset cs
  unfold wordsOf at h
  generalize cs.foldr wordStep ([], []) = p at held h
  obtain ⟨ws, cur⟩ := p
  cases cur with
  | nil => exact held.1 w (by simpa using h)
  | cons y ys =>
      rcases List.mem_cons.mp (by simpa using h) with rfl | hw
      · exact held.2
      · exact held.1 w hw

/-- The blanks of a shell are blanks of any text. -/
theorem isBlank_of_shell {c : Char} (h : Shell.isBlank c = true) : isBlank c = true := by
  simp only [Shell.isBlank, Bool.or_eq_true, beq_iff_eq] at h
  rcases h with (rfl | rfl) | rfl <;> rfl

theorem solid_of_mem_words {s t : String} (h : t ∈ words s) : Shell.Solid t := by
  obtain ⟨w, hw, rfl⟩ := List.mem_map.mp h
  intro c hc
  rw [String.toList_ofList] at hc
  cases blank : Shell.isBlank c with
  | false => rfl
  | true => exact absurd ((clean_of_mem_wordsOf hw).2 c hc) (by simp [isBlank_of_shell blank])

theorem unquoted_of_mem_words {s t : String} (hs : Shell.Unquoted s) (h : t ∈ words s) :
    Shell.Unquoted t := by
  obtain ⟨w, hw, rfl⟩ := List.mem_map.mp h
  intro c hc
  rw [String.toList_ofList] at hc
  exact hs c (subset_of_mem_wordsOf hw hc)

theorem ne_empty_of_mem_words {s t : String} (h : t ∈ words s) : t ≠ "" := by
  obtain ⟨w, hw, rfl⟩ := List.mem_map.mp h
  intro empty
  exact (clean_of_mem_wordsOf hw).1 (String.ofList_eq_empty_iff.mp empty)

end Text

open Shell

namespace AgentSettings

/-- No text among the settings holds a single quote. -/
structure IsUnquoted (a : AgentSettings) : Prop where
  extraArgs : Unquoted (a.extraArgs.getD "")
  labels : ∀ e ∈ a.labels.getD [], Unquoted e.1 ∧ Unquoted e.2
  taints : ∀ e ∈ a.taints.getD [], Unquoted e.1 ∧ Unquoted e.2.value

/-- The flags for the labels and the taints, each where there are some. -/
def flags (a : AgentSettings) : List String :=
  (if (a.labels.getD []).isEmpty then [] else [labelFlag (a.labels.getD [])]) ++
    (if (a.taints.getD []).isEmpty then [] else [taintFlag (a.taints.getD [])])

variable {a : AgentSettings} {arg : String}

theorem args_eq (a : AgentSettings) : a.args = Text.words (a.extraArgs.getD "") ++ a.flags :=
  List.append_assoc _ _ _

theorem mem_flags (h : arg ∈ a.flags) :
    arg = labelFlag (a.labels.getD []) ∨ arg = taintFlag (a.taints.getD []) := by
  rcases List.mem_append.mp h with h | h
  · split at h
    · cases h
    · exact .inl (List.mem_singleton.mp h)
  · split at h
    · cases h
    · exact .inr (List.mem_singleton.mp h)

theorem unquoted_labelFlag {labels : Entries String}
    (h : ∀ e ∈ labels, Unquoted e.1 ∧ Unquoted e.2) : Unquoted (labelFlag labels) := by
  refine unquoted_append.mpr ⟨by decide, unquoted_intercalate (by decide) ?_⟩
  rw [List.forall_mem_map]
  intro e he
  exact unquoted_append.mpr ⟨unquoted_append.mpr ⟨(h e he).1, by decide⟩, (h e he).2⟩

theorem unquoted_taintFlag {taints : Entries Taint}
    (h : ∀ e ∈ taints, Unquoted e.1 ∧ Unquoted e.2.value) : Unquoted (taintFlag taints) := by
  refine unquoted_append.mpr ⟨by decide, unquoted_intercalate (by decide) ?_⟩
  rw [List.forall_mem_map]
  intro e he
  have effect : Unquoted e.2.effect.code := by cases e.2.effect <;> decide
  simp only [unquoted_append]
  exact ⟨⟨⟨⟨(h e he).1, by decide⟩, (h e he).2⟩, by decide⟩, effect⟩

theorem unquoted_of_mem_args (ha : a.IsUnquoted) (h : arg ∈ a.args) : Unquoted arg := by
  rw [args_eq, List.mem_append] at h
  rcases h with word | flag
  · exact Text.unquoted_of_mem_words ha.extraArgs word
  · rcases mem_flags flag with rfl | rfl
    · exact unquoted_labelFlag ha.labels
    · exact unquoted_taintFlag ha.taints

theorem ne_empty_of_mem_args (h : arg ∈ a.args) : arg ≠ "" := by
  have longer {s : String} (t : String) (hs : s ≠ "") : s ++ t ≠ "" :=
    fun empty => hs (String.append_eq_empty_iff.mp empty).1
  rw [args_eq, List.mem_append] at h
  rcases h with word | flag
  · exact Text.ne_empty_of_mem_words word
  · rcases mem_flags flag with rfl | rfl
    · exact longer _ (by decide)
    · exact longer _ (by decide)

/-- Only the flag for the labels or for the taints can hold a blank. -/
theorem mem_flags_of_not_solid (h : arg ∈ a.args) (blank : ¬Solid arg) : arg ∈ a.flags := by
  rw [args_eq, List.mem_append] at h
  exact h.resolve_left fun word => blank (Text.solid_of_mem_words word)

end AgentSettings

/-- The tail of a bootstrap command with the agent's arguments in quotes, however many they are. -/
def quotedTail (extraArgs : Option String) (agentArgs : List String) : String :=
  bootstrapTail extraArgs [] ++ " --kubelet-extra-args '" ++ " ".intercalate agentArgs ++ "'"

section Tail

variable {extra : Option String} {s arg : String} {args : List String}

theorem words_bootstrapTail_nil (extra : Option String) :
    words (bootstrapTail extra []) = words (extra.getD "") := by
  cases extra with
  | none => rfl
  | some e =>
      by_cases empty : e.isEmpty = true
      · have lead : bootstrapTail (some e) [] = "" := if_pos empty
        rw [lead, Option.getD_some, String.isEmpty_iff.mp empty]
      · have lead : bootstrapTail (some e) [] = "" ++ " " ++ e := if_neg empty
        rw [lead, words_append_blank (by decide), words_empty, List.nil_append, Option.getD_some]

theorem unquoted_bootstrapTail_nil (h : Unquoted (extra.getD "")) :
    Unquoted (bootstrapTail extra []) := by
  cases extra with
  | none => decide
  | some e =>
      show Unquoted (if e.isEmpty then "" else " " ++ e)
      split
      · decide
      · exact unquoted_append.mpr ⟨by decide, h⟩

/-- What is behind the extra arguments is split by itself. -/
theorem words_behind (h : Unquoted (extra.getD "")) :
    words (bootstrapTail extra [] ++ " " ++ s) = words (extra.getD "") ++ words s := by
  rw [words_append_blank (unquoted_bootstrapTail_nil h), words_bootstrapTail_nil]

theorem words_option (s : String) :
    words ("--kubelet-extra-args" ++ " " ++ s) = "--kubelet-extra-args" :: words s := by
  rw [words_append_blank (by decide), words_solid (by decide) (by decide) (by decide),
    List.singleton_append]

theorem words_bootstrapTail_single (h : Unquoted (extra.getD "")) (arg : String) :
    words (bootstrapTail extra [arg]) =
      words (extra.getD "") ++ "--kubelet-extra-args" :: words arg := by
  have option : " --kubelet-extra-args " = " " ++ ("--kubelet-extra-args" ++ " ") := by decide
  have tail : bootstrapTail extra [arg] =
      bootstrapTail extra [] ++ " --kubelet-extra-args " ++ arg := rfl
  rw [tail, option, ← String.append_assoc, String.append_assoc, words_behind h, words_option]

theorem words_quotedTail (h : Unquoted (extra.getD "")) (hargs : ∀ arg ∈ args, Unquoted arg) :
    words (quotedTail extra args) =
      words (extra.getD "") ++ ["--kubelet-extra-args", " ".intercalate args] := by
  have option : " --kubelet-extra-args '" = " " ++ ("--kubelet-extra-args" ++ " " ++ "'") := by
    decide
  have tail : quotedTail extra args = bootstrapTail extra [] ++ " " ++
      ("--kubelet-extra-args" ++ " " ++ ("'" ++ " ".intercalate args ++ "'")) := by
    simp only [quotedTail, option, String.append_assoc]
  rw [tail, words_behind h, words_option, words_quote (unquoted_intercalate (by decide) hargs)]

theorem bootstrapTail_of_two_le (h : 2 ≤ args.length) :
    bootstrapTail extra args = quotedTail extra args := by
  match args, h with
  | _ :: _ :: _, _ => rfl

end Tail

/-- How the shell delivers the arguments of the node's agent. -/
structure DeliversArgs (extra : Option String) (a : AgentSettings) : Prop where
  nothing : a.args = [] → words (bootstrapTail extra a.args) = words (extra.getD "")
  /-- All arguments arrive as one word, exactly when there are several or the only one holds no
  blank. -/
  together : a.args ≠ [] →
    (words (bootstrapTail extra a.args) =
        words (extra.getD "") ++ ["--kubelet-extra-args", " ".intercalate a.args] ↔
      2 ≤ a.args.length ∨ ∃ sole, a.args = [sole] ∧ Solid sole)
  /-- The form in quotes always delivers them so. -/
  quoted : words (quotedTail extra a.args) =
    words (extra.getD "") ++ ["--kubelet-extra-args", " ".intercalate a.args]
  /-- The only argument, if it holds a blank, is a flag that arrives in pieces. -/
  torn : ∀ sole, a.args = [sole] → ¬Solid sole →
    sole ∈ a.flags ∧ sole ∉ words sole ∧
      words (bootstrapTail extra a.args) =
        words (extra.getD "") ++ "--kubelet-extra-args" :: words sole

/-- A single argument arrives as it is, exactly if it holds no blank. -/
theorem words_eq_self_iff (hq : Unquoted arg) (hne : arg ≠ "") : words arg = [arg] ↔ Solid arg := by
  constructor
  · intro whole
    exact solid_of_mem_words hq (whole ▸ List.mem_singleton_self arg)
  · exact fun solid => words_solid hq solid hne

theorem deliversArgs_of_isUnquoted {extra : Option String} {a : AgentSettings}
    (hextra : Unquoted (extra.getD "")) (ha : a.IsUnquoted) : DeliversArgs extra a := by
  have quiet : ∀ arg ∈ a.args, Unquoted arg := fun _ => AgentSettings.unquoted_of_mem_args ha
  constructor
  case nothing =>
    intro none
    rw [none]
    exact words_bootstrapTail_nil extra
  case quoted => exact words_quotedTail hextra quiet
  case together =>
    intro some_
    by_cases several : 2 ≤ a.args.length
    · rw [bootstrapTail_of_two_le several, words_quotedTail hextra quiet]
      exact iff_of_true rfl (.inl several)
    · obtain ⟨sole, only⟩ : ∃ sole, a.args = [sole] := by
        rw [← List.length_eq_one_iff]
        have := List.length_pos_iff.mpr some_
        omega
      have mem : sole ∈ a.args := only ▸ List.mem_singleton_self sole
      have whole := words_eq_self_iff (quiet sole mem) (AgentSettings.ne_empty_of_mem_args mem)
      rw [only, words_bootstrapTail_single hextra, String.intercalate_singleton,
        List.append_cancel_left_eq, List.cons.injEq, whole]
      simp
  case torn =>
    intro sole only blank
    have mem : sole ∈ a.args := only ▸ List.mem_singleton_self sole
    refine ⟨AgentSettings.mem_flags_of_not_solid mem blank, ?_, ?_⟩
    · exact fun whole => blank (solid_of_mem_words (quiet sole mem) whole)
    · rw [only]
      exact words_bootstrapTail_single hextra sole

/-- Settings whose only argument is a flag with a blank in it. -/
def blankLabel : AgentSettings := ⟨none, some [("role", "batch jobs")], none⟩

theorem deliversArgs_of_isUnquoted_blankLabel :
    DeliversArgs (some "--use-max-pods false") blankLabel :=
  deliversArgs_of_isUnquoted (by decide)
    { extraArgs := by decide
      labels := by decide
      taints := List.forall_mem_nil _ }

example : words (bootstrapTail (some "--use-max-pods false") blankLabel.args) =
    ["--use-max-pods", "false", "--kubelet-extra-args", "--node-labels=role=batch", "jobs"] := by
  decide

end FleetPlan
