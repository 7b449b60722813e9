import FleetPlan.Request.WorkerOptions

/-!
What is found in the script that starts a node.

Labels and taints stand in their flags, a flag and any other argument of the node's agent stands in
the tail of the bootstrap command, and the tail stands in the script, as does the user's own script.
What surrounds a part plays no part: arguments are found whether or not they are quoted.
-/
namespace FleetPlan

namespace Text

/-- The first text stands somewhere in the second. -/
def IsPart (part s : String) : Prop := part.toList <:+: s.toList

variable {part s t : String}

theorem IsPart.refl (s : String) : IsPart s s := List.infix_refl _

theorem IsPart.trans (h : IsPart part s) (h' : IsPart s t) : IsPart part t :=
  List.IsInfix.trans h h'

theorem IsPart.before (h : IsPart part s) (t : String) : IsPart part (s ++ t) := by
  rw [IsPart, String.toList_append]
  exact List.IsInfix.trans h (List.prefix_append _ _).isInfix

theorem IsPart.behind (h : IsPart part t) (s : String) : IsPart part (s ++ t) := by
  rw [IsPart, String.toList_append]
  exact List.IsInfix.trans h (List.suffix_append _ _).isInfix

theorem isPart_empty (s : String) : IsPart "" s := List.nil_infix

theorem isPart_intercalate (sep : String) {parts : List String} (h : part ∈ parts) :
    IsPart part (sep.intercalate parts) := by
  induction parts with
  | nil => cases h
  | cons p ps ih =>
      cases ps with
      | nil =>
          rw [String.intercalate_singleton, List.mem_singleton.mp h]
          exact .refl p
      | cons q qs =>
          rw [String.intercalate_cons_cons]
          rcases List.mem_cons.mp h with rfl | later
          · exact ((IsPart.refl part).before _).before _
          · exact (ih later).behind _

end Text

open Text

namespace AgentSettings

variable {a : AgentSettings}

theorem isPart_labelFlag {labels : Entries String} {e : String × String} (h : e ∈ labels) :
    IsPart (e.1 ++ "=" ++ e.2) (labelFlag labels) := by
  have listed : e.1 ++ "=" ++ e.2 ∈ labels.map fun e => e.1 ++ "=" ++ e.2 :=
    List.mem_map.mpr ⟨e, h, rfl⟩
  exact (isPart_intercalate "," listed).behind _

theorem isPart_taintFlag {taints : Entries Taint} {e : String × Taint} (h : e ∈ taints) :
    IsPart (e.1 ++ "=" ++ e.2.value ++ ":" ++ e.2.effect.code) (taintFlag taints) := by
  have listed : e.1 ++ "=" ++ e.2.value ++ ":" ++ e.2.effect.code ∈
      taints.map fun e => e.1 ++ "=" ++ e.2.value ++ ":" ++ e.2.effect.code :=
    List.mem_map.mpr ⟨e, h, rfl⟩
  exact (isPart_intercalate "," listed).behind _

theorem word_mem_args {w : String} (h : w ∈ words (a.extraArgs.getD "")) : w ∈ a.args :=
  List.mem_append_left _ (List.mem_append_left _ h)

theorem labelFlag_mem_args {e : String × String} (h : e ∈ a.labels.getD []) :
    labelFlag (a.labels.getD []) ∈ a.args := by
  refine List.mem_append_left _ (List.mem_append_right _ ?_)
  rw [List.isEmpty_eq_false_iff_exists_mem.mpr ⟨e, h⟩]
  exact List.mem_singleton_self _

theorem taintFlag_mem_args {e : String × Taint} (h : e ∈ a.taints.getD []) :
    taintFlag (a.taints.getD []) ∈ a.args := by
  refine List.mem_append_right _ ?_
  rw [List.isEmpty_eq_false_iff_exists_mem.mpr ⟨e, h⟩]
  exact List.mem_singleton_self _

end AgentSettings

theorem isPart_bootstrapTail (extraArgs : Option String) {args : List String} {arg : String}
    (h : arg ∈ args) : IsPart arg (bootstrapTail extraArgs args) := by
  match args with
  | [] => cases h
  | [only] =>
      rw [List.mem_singleton.mp h]
      exact (IsPart.refl only).behind _
  | _ :: _ :: _ => exact ((isPart_intercalate " " h).behind _).before _

/-- The extra arguments of the command come first in its tail. -/
theorem extraArgs_isPart_bootstrapTail (e : String) (args : List String) :
    IsPart e (bootstrapTail (some e) args) := by
  have first : IsPart e (if e.isEmpty then "" else " " ++ e) := by
    split
    case isTrue empty =>
      rw [String.isEmpty_iff.mp empty]
      exact .refl ""
    case isFalse => exact (IsPart.refl e).behind _
  match args with
  | [] => exact first
  | [_] => exact (first.before _).before _
  | _ :: _ :: _ => exact ((first.before _).before _).before _

namespace BootstrapScript

variable (b : BootstrapScript)

theorem tail_isPart_render : IsPart b.tail b.render :=
  (((((IsPart.refl b.tail).behind _).before _).before _).before _).before _

theorem userScript_isPart_render (h : b.userScript.isTruthy = true) :
    IsPart b.userScript.display b.render := by
  have inStage : IsPart b.userScript.display (staged b.marker b.userScript) := by
    rw [staged, if_pos h]
    exact ((((((IsPart.refl _).behind _).before _).before _).before _).before _).before _
  exact ((inStage.behind _).before _).before _

end BootstrapScript

/-- Every setting of a bootstrap is found in a script. -/
structure Startup.ShowsIn (u : Startup) (script : String) : Prop where
  userScript : ∀ v, u.userScript.value.outcome = .ok v → v.isTruthy = true → IsPart v.display script
  labels : ∀ e ∈ u.agent.labels.getD [], IsPart (e.1 ++ "=" ++ e.2) script
  taints : ∀ e ∈ u.agent.taints.getD [],
    IsPart (e.1 ++ "=" ++ e.2.value ++ ":" ++ e.2.effect.code) script
  agentArgs : ∀ w ∈ words (u.agent.extraArgs.getD ""), IsPart w script
  bootstrapArgs : IsPart (u.bootstrapArgs.getD "") script

/-- A script that goes by the settings of a bootstrap shows all of them. -/
theorem BootstrapScript.showsIn_render {u : Startup} {b : BootstrapScript}
    (htail : b.tail = bootstrapTail u.bootstrapArgs u.agent.args)
    (hscript : u.userScript.value.outcome = .ok b.userScript) : u.ShowsIn b.render := by
  have inTail {part : String} (h : IsPart part (bootstrapTail u.bootstrapArgs u.agent.args)) :
      IsPart part b.render := (htail ▸ h).trans b.tail_isPart_render
  constructor
  case userScript =>
    intro v hv given
    obtain rfl := Except.ok.inj (hscript.symm.trans hv)
    exact b.userScript_isPart_render given
  case labels =>
    intro e he
    have flag := isPart_bootstrapTail u.bootstrapArgs (AgentSettings.labelFlag_mem_args he)
    exact inTail ((AgentSettings.isPart_labelFlag he).trans flag)
  case taints =>
    intro e he
    have flag := isPart_bootstrapTail u.bootstrapArgs (AgentSettings.taintFlag_mem_args he)
    exact inTail ((AgentSettings.isPart_taintFlag he).trans flag)
  case agentArgs =>
    intro w hw
    exact inTail (isPart_bootstrapTail u.bootstrapArgs (AgentSettings.word_mem_args hw))
  case bootstrapArgs =>
    cases given : u.bootstrapArgs with
    | none => exact isPart_empty _
    | some e =>
        rw [given] at inTail
        exact inTail (extraArgs_isPart_bootstrapTail e _)

end FleetPlan
