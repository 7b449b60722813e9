import FleetPlan.Node.Bootstrap
import Mathlib.Data.List.Basic

/-!
The user's own script inside the script that starts a node.

A script is read line by line. A document inside it runs from behind the line that opens it to the
first later line that ends it, so the user's script arrives whole exactly if none of its own lines
ends it. Of the other parts of a script nothing is asked but that they hold no newline; what a shell
makes of its commands is left open.
-/
namespace FleetPlan

namespace Text

/-- A text without newlines. -/
def IsLine (s : String) : Prop := '\n' ∉ s.toList

instance (s : String) : Decidable (IsLine s) := inferInstanceAs (Decidable (¬ _))

/-- The parts of a text between its newlines. -/
def pieces (s : String) : List String := (s.toList.splitOn '\n').map String.ofList

/-- Lines one below the other, each ended by a newline. -/
def ended : List String → String
  | [] => ""
  | l :: ls => l ++ "\n" ++ ended ls

/-- The lines of a text: a newline ends a line, and behind the last one a line stands only if there
is something. -/
def lines (s : String) : List String :=
  if (pieces s).getLast? = some "" then (pieces s).dropLast else pieces s

variable {s t l : String} {ls ks : List String}

theorem isLine_append : IsLine (s ++ t) ↔ IsLine s ∧ IsLine t := by
  simp [IsLine, String.toList_append]

/-- What a list is split at is in none of the parts. -/
theorem not_mem_of_mem_splitOn {c : Char} {cs w : List Char} (h : w ∈ cs.splitOn c) : c ∉ w := by
  induction cs generalizing w with
  | nil =>
      rw [List.splitOn_nil, List.mem_singleton] at h
      exact h ▸ List.not_mem_nil
  | cons d cs ih =>
      rw [List.splitOn_cons_eq_if_modifyHead] at h
      split at h
      case isTrue =>
        rcases List.mem_cons.mp h with rfl | later
        · exact List.not_mem_nil
        · exact ih later
      case isFalse other =>
        cases parts : cs.splitOn c with
        | nil => exact absurd parts (List.splitOn_ne_nil c cs)
        | cons p ps =>
            rw [parts] at h ih
            rcases List.mem_cons.mp h with rfl | later
            · exact fun found => (List.mem_cons.mp found).elim
                (fun same => other (by simp [same])) (ih (.head _))
            · exact ih (.tail _ later)

theorem isLine_of_mem_pieces (h : l ∈ pieces s) : IsLine l := by
  obtain ⟨cs, hcs, rfl⟩ := List.mem_map.mp h
  rw [IsLine, String.toList_ofList]
  exact not_mem_of_mem_splitOn hcs

theorem pieces_append_newline (s t : String) :
    pieces (s ++ "\n" ++ t) = pieces s ++ pieces t := by
  have split := List.splitOn_append_cons_self (a := '\n') s.toList t.toList
  simp only [pieces, String.toList_append, List.append_assoc]
  rw [← List.map_append, ← split]
  rfl

theorem pieces_of_isLine (h : IsLine s) : pieces s = [s] := by
  rw [pieces, List.splitOn_eq_singleton h, List.map_singleton, String.ofList_toList]

theorem ended_append (ks ls : List String) : ended (ks ++ ls) = ended ks ++ ended ls := by
  induction ks with
  | nil => rw [ended, String.empty_append, List.nil_append]
  | cons k ks ih => rw [List.cons_append, ended, ended, ih, ← String.append_assoc]

theorem ended_map_ofList {ps : List (List Char)} (h : ps ≠ []) :
    ended (ps.map String.ofList) = String.ofList (['\n'].intercalate ps) ++ "\n" := by
  induction ps with
  | nil => exact absurd rfl h
  | cons p ps ih =>
      cases ps with
      | nil => rw [List.intercalate_singleton]; exact String.append_empty
      | cons q qs =>
          rw [List.map_cons, ended, ih (List.cons_ne_nil q qs), List.intercalate_cons_cons,
            String.ofList_append, String.ofList_append, ← String.append_assoc]

/-- A text is its pieces, one below the other. -/
theorem ended_pieces (s : String) : ended (pieces s) = s ++ "\n" := by
  rw [pieces, ended_map_ofList (List.splitOn_ne_nil _ _), List.intercalate_splitOn,
    String.ofList_toList]

theorem lines_ended (h : ∀ l ∈ ls, IsLine l) : lines (ended ls) = ls := by
  have all : pieces (ended ls) = ls ++ [""] := by
    induction ls with
    | nil => rfl
    | cons l ls ih =>
        obtain ⟨hl, hls⟩ := List.forall_mem_cons.mp h
        rw [ended, pieces_append_newline, pieces_of_isLine hl, ih hls, List.singleton_append,
          List.cons_append]
  rw [lines, all, if_pos List.getLast?_concat, List.dropLast_concat]

/-- The document that the first line like `opening` opens: it runs to the first later line like
`ending`, and that line is the first of those behind it. -/
def document? (opening ending : String) (ls : List String) :
    Option (List String × List String) :=
  match ls.dropWhile (· != opening) with
  | [] => none
  | _ :: later => some (later.takeWhile (· != ending), later.dropWhile (· != ending))

theorem document?_of_not_mem {opening ending : String} {before body behind : List String}
    (hopening : opening ∉ before) (hending : ending ∉ body) :
    document? opening ending (before ++ opening :: (body ++ ending :: behind)) =
      some (body, ending :: behind) := by
  have other {x : String} {xs : List String} (h : x ∉ xs) : ∀ l ∈ xs, (l != x) = true :=
    fun l hl => bne_iff_ne.mpr fun same => h (same ▸ hl)
  have reached : (before ++ opening :: (body ++ ending :: behind)).dropWhile (· != opening) =
      opening :: (body ++ ending :: behind) := by
    rw [List.dropWhile_append_of_pos (other hopening)]
    simp
  rw [document?, reached]
  simp [List.takeWhile_append_of_pos (other hending), List.dropWhile_append_of_pos (other hending)]

end Text

open Text

namespace BootstrapScript

/-- The line that opens a document which goes on to the line that ends it. -/
def openingLine (ending : String) : String := "cat >/opt/user-data <<" ++ ending

/-- The line that joins the cluster. -/
def joinLine (b : BootstrapScript) : String :=
  "/etc/eks/bootstrap.sh --apiserver-endpoint \"" ++ b.endpoint.display ++
    "\" --b64-cluster-ca \"" ++ b.authority.display ++ "\" \"" ++ b.cluster.display ++ "\"" ++ b.tail

/-- The line that tells a stack how the script ended. -/
def reportLine (s : Signal) : String :=
  "/opt/aws/bin/cfn-signal --exit-code $? --stack " ++ s.stack.display ++
    " --resource NodeGroup --region " ++ s.region.display

/-- No part of a script but the user's own holds a newline. -/
structure IsOfLines (b : BootstrapScript) : Prop where
  cluster : IsLine b.cluster.display
  endpoint : IsLine b.endpoint.display
  authority : IsLine b.authority.display
  tail : IsLine b.tail
  marker : IsLine b.marker.display
  signal : ∀ s ∈ b.signal, IsLine s.stack.display ∧ IsLine s.region.display

/-- The lines before the user's script, or before the end if there is none. -/
def firstLines (b : BootstrapScript) : List String := ["#!/bin/bash", "", b.joinLine]

/-- The user's script between the line that opens it and those that end it and run it. -/
def stagedLines (ending : String) (script : Json) : List String :=
  if script.isTruthy then
    openingLine ending ::
      (pieces script.display ++ [ending, "chmod +x /opt/user-data", "/opt/user-data"])
  else []

/-- An empty line, and the one that tells a stack if there is one to tell. -/
def lastLines (signal : Option Signal) : List String := "" :: (signal.map reportLine).toList

variable {b : BootstrapScript}

theorem staged_eq_ended (marker script : Json) :
    staged marker script = ended (stagedLines (endLine marker) script) := by
  unfold staged stagedLines
  split
  case isTrue =>
    unfold openingLine
    simp only [ended, ended_append, ended_pieces, String.append_assoc, String.append_empty]
    rfl
  case isFalse => rfl

theorem ended_lastLines (signal : Option Signal) :
    ended (lastLines signal) = "\n" ++ signalLine signal := by
  cases signal with
  | none => rfl
  | some s =>
      have report : ended (lastLines (some s)) = "" ++ "\n" ++ (reportLine s ++ "\n" ++ "") := rfl
      have signal : signalLine (some s) = reportLine s ++ "\n" := rfl
      rw [report, signal, String.append_empty, String.empty_append]

theorem render_eq_ended (b : BootstrapScript) :
    b.render =
      ended (b.firstLines ++
        (stagedLines (endLine b.marker) b.userScript ++ lastLines b.signal)) := by
  have start : "#!/bin/bash\n\n/etc/eks/bootstrap.sh --apiserver-endpoint \"" =
      "#!/bin/bash" ++ "\n" ++ ("" ++ "\n" ++
        "/etc/eks/bootstrap.sh --apiserver-endpoint \"") := by simp
  rw [ended_append, ended_append, ended_lastLines, ← staged_eq_ended]
  unfold render firstLines joinLine
  simp only [start, ended, String.append_assoc, String.empty_append]

/-! The lines of a script whose parts hold no newline. -/

theorem IsOfLines.joinLine (h : b.IsOfLines) : IsLine b.joinLine := by
  unfold BootstrapScript.joinLine
  simp only [isLine_append]
  exact ⟨⟨⟨⟨⟨⟨⟨by decide, h.endpoint⟩, by decide⟩, h.authority⟩, by decide⟩, h.cluster⟩, by decide⟩,
    h.tail⟩

theorem IsOfLines.openingLine (h : b.IsOfLines) :
    IsLine (openingLine (BootstrapScript.endLine b.marker)) :=
  isLine_append.mpr ⟨by decide, isLine_append.mpr ⟨h.marker, by decide⟩⟩

theorem IsOfLines.endLine (h : b.IsOfLines) : IsLine (endLine b.marker) :=
  isLine_append.mpr ⟨h.marker, by decide⟩

theorem IsOfLines.reportLine (h : b.IsOfLines) {s : Signal} (hs : s ∈ b.signal) :
    IsLine (reportLine s) := by
  unfold BootstrapScript.reportLine
  simp only [isLine_append]
  exact ⟨⟨⟨by decide, (h.signal s hs).1⟩, by decide⟩, (h.signal s hs).2⟩

theorem IsOfLines.stagedLines (h : b.IsOfLines) :
    ∀ l ∈ stagedLines (BootstrapScript.endLine b.marker) b.userScript, IsLine l := by
  unfold BootstrapScript.stagedLines
  split
  case isTrue =>
    simp only [List.forall_mem_cons, List.forall_mem_append]
    exact ⟨h.openingLine, fun l => isLine_of_mem_pieces, h.endLine, by decide, by decide,
      List.forall_mem_nil _⟩
  case isFalse => exact List.forall_mem_nil _

theorem IsOfLines.lastLines (h : b.IsOfLines) : ∀ l ∈ lastLines b.signal, IsLine l := by
  refine List.forall_mem_cons.mpr ⟨by decide, fun l hl => ?_⟩
  obtain ⟨s, hs, rfl⟩ := Option.map_eq_some_iff.mp (Option.mem_toList.mp hl)
  exact h.reportLine hs

theorem lines_render (h : b.IsOfLines) :
    lines b.render =
      b.firstLines ++ (stagedLines (endLine b.marker) b.userScript ++ lastLines b.signal) := by
  rw [render_eq_ended, lines_ended]
  simp only [List.forall_mem_append]
  refine ⟨?_, h.stagedLines, h.lastLines⟩
  exact List.forall_mem_cons.mpr ⟨by decide, List.forall_mem_cons.mpr
    ⟨by decide, List.forall_mem_singleton.mpr h.joinLine⟩⟩

/-- No line of a script opens a document but the one that is meant to. -/
theorem openingLine_ne {l : String} (ending : String) (h : l.toList.head? ≠ some 'c') :
    openingLine ending ≠ l := by
  rintro rfl
  refine h ?_
  unfold openingLine
  simp

theorem openingLine_not_mem_firstLines (ending : String) :
    openingLine ending ∉ b.firstLines := by
  have join : b.joinLine.toList.head? ≠ some 'c' := by
    unfold joinLine
    simp
  simp only [firstLines, List.mem_cons, List.not_mem_nil, or_false, not_or]
  exact ⟨openingLine_ne ending (by decide), openingLine_ne ending (by decide),
    openingLine_ne ending join⟩

theorem openingLine_not_mem_lastLines (ending : String) (signal : Option Signal) :
    openingLine ending ∉ lastLines signal := by
  intro found
  rcases List.mem_cons.mp found with empty | report
  · exact openingLine_ne ending (by decide) empty
  · obtain ⟨s, _, hs⟩ := Option.map_eq_some_iff.mp (Option.mem_toList.mp report)
    refine openingLine_ne ending ?_ hs.symm
    unfold reportLine
    simp

/-- What stands behind the user's script, from the line that ends it on. -/
def linesBehind (b : BootstrapScript) (ending : String) : List String :=
  ending :: "chmod +x /opt/user-data" :: "/opt/user-data" :: lastLines b.signal

/-- The document inside a script up to the line that ends it, and what stands behind it. -/
def stagedDocument? (b : BootstrapScript) (ending : String) : Option (List String × List String) :=
  document? (openingLine ending) ending (lines b.render)

theorem stagedDocument?_eq (h : b.IsOfLines) (hgiven : b.userScript.isTruthy = true)
    {body behind : List String} (hbody : endLine b.marker ∉ body)
    (hsplit : pieces b.userScript.display ++ b.linesBehind (endLine b.marker) =
      body ++ endLine b.marker :: behind) :
    b.stagedDocument? (endLine b.marker) = some (body, endLine b.marker :: behind) := by
  have staged : stagedLines (endLine b.marker) b.userScript ++ lastLines b.signal =
      openingLine (endLine b.marker) ::
        (pieces b.userScript.display ++ b.linesBehind (endLine b.marker)) := by
    rw [stagedLines, if_pos hgiven, List.cons_append, List.append_assoc]
    rfl
  rw [stagedDocument?, lines_render h, staged, hsplit]
  exact document?_of_not_mem (openingLine_not_mem_firstLines _) hbody

/-- The line that signals is the last of a script. -/
theorem render_append (b : BootstrapScript) (signal : Option Signal) :
    render { b with signal := none } ++ signalLine signal = render { b with signal := signal } := by
  have unsigned : signalLine none = "" := rfl
  change (_ ++ signalLine none) ++ signalLine signal = _ ++ signalLine signal
  rw [unsigned, String.append_empty]

theorem render_of_signal {s : Signal} (hs : b.signal = some s) :
    b.render = render { b with signal := none } ++ (reportLine s ++ "\n") := by
  have report : signalLine (some s) = reportLine s ++ "\n" := rfl
  rw [← report, render_append b (some s), ← hs]

/-- How a script holds the user's own up to the line that ends it, and what it ends with itself. -/
structure Stages (b : BootstrapScript) (ending : String) : Prop where
  /-- The document inside is the user's script, exactly if none of its lines ends the document. -/
  given : b.userScript.isTruthy = true →
    ∃ body behind, b.stagedDocument? ending = some (body, behind) ∧
      (body = pieces b.userScript.display ↔ ending ∉ pieces b.userScript.display)
  whole : b.userScript.isTruthy = true → ending ∉ pieces b.userScript.display →
    b.stagedDocument? ending = some (pieces b.userScript.display, b.linesBehind ending) ∧
      ended (pieces b.userScript.display) = b.userScript.display ++ "\n"
  /-- Otherwise it is cut at the first line that ends the document, and its other lines are left. -/
  cut : b.userScript.isTruthy = true → ending ∈ pieces b.userScript.display →
    ∃ body left, pieces b.userScript.display = body ++ ending :: left ∧ ending ∉ body ∧
      b.stagedDocument? ending = some (body, ending :: (left ++ b.linesBehind ending))
  /-- Without a script of the user's no document is opened, whatever would end it. -/
  missing : b.userScript.isTruthy = false → ∀ other, openingLine other ∉ lines b.render
  reported : ∀ s, b.signal = some s → (lines b.render).getLast? = some (reportLine s) ∧
    b.render = render { b with signal := none } ++ (reportLine s ++ "\n")
  unreported : b.signal = none → ∀ s, (lines b.render).getLast? ≠ some (reportLine s)

theorem reportLine_ne_empty (s : Signal) : reportLine s ≠ "" := by
  unfold reportLine
  simp

theorem getLast?_lines_render (h : b.IsOfLines) :
    (lines b.render).getLast? = (lastLines b.signal).getLast? := by
  have last : lastLines b.signal ≠ [] := List.cons_ne_nil _ _
  rw [lines_render h, List.getLast?_append_of_ne_nil _ (List.append_ne_nil_of_right_ne_nil _ last),
    List.getLast?_append_of_ne_nil _ last]

/-- A script whose other parts are of one line each holds the user's own verbatim, exactly if none of
its lines ends the document, and ends with the line that tells the stack, if there is one. -/
theorem stages_of_isOfLines (h : b.IsOfLines) :
    b.Stages (b.marker.display ++ "-user-data") := by
  have ending : b.marker.display ++ "-user-data" = endLine b.marker := rfl
  rw [ending]
  have whole (given : b.userScript.isTruthy = true)
      (free : endLine b.marker ∉ pieces b.userScript.display) :
      b.stagedDocument? (endLine b.marker) =
        some (pieces b.userScript.display, b.linesBehind (endLine b.marker)) :=
    stagedDocument?_eq h given free rfl
  have cut (given : b.userScript.isTruthy = true)
      (ends : endLine b.marker ∈ pieces b.userScript.display) :
      ∃ body left, pieces b.userScript.display = body ++ endLine b.marker :: left ∧
        endLine b.marker ∉ body ∧ b.stagedDocument? (endLine b.marker) =
          some (body, endLine b.marker :: (left ++ b.linesBehind (endLine b.marker))) := by
    obtain ⟨body, left, split, fresh⟩ := List.eq_append_cons_of_mem ends
    refine ⟨body, left, split, fresh, stagedDocument?_eq h given fresh ?_⟩
    rw [split, List.append_assoc, List.cons_append]
  constructor
  case given =>
    intro given
    by_cases ends : endLine b.marker ∈ pieces b.userScript.display
    · obtain ⟨body, left, split, fresh, found⟩ := cut given ends
      refine ⟨body, _, found, iff_of_false (fun same => fresh ?_) (not_not_intro ends)⟩
      exact same ▸ ends
    · exact ⟨_, _, whole given ends, iff_of_true rfl ends⟩
  case whole => exact fun given free => ⟨whole given free, ended_pieces _⟩
  case cut => exact cut
  case missing =>
    intro missing other
    rw [lines_render h, stagedLines, if_neg (by simp [missing]), List.nil_append, List.mem_append]
    exact not_or.mpr ⟨openingLine_not_mem_firstLines other, openingLine_not_mem_lastLines other _⟩
  case reported =>
    intro s hs
    refine ⟨?_, render_of_signal hs⟩
    rw [getLast?_lines_render h, hs]
    rfl
  case unreported =>
    intro none s
    rw [getLast?_lines_render h, none]
    exact fun last => reportLine_ne_empty s (Option.some.inj last).symm

/-- A script of a user's whose second line is the one that ends it. -/
def cutScript : BootstrapScript where
  cluster := .text "demo"
  endpoint := .text "https://e.eks"
  authority := .text "Q0E="
  tail := ""
  userScript := .text "echo a\nworkers-user-data\n\necho b\n"
  marker := .text "workers"
  signal := some ⟨.text "workers", .text "us-west-2"⟩

theorem stages_of_isOfLines_cutScript :
    cutScript.IsOfLines ∧ cutScript.Stages "workers-user-data" := by
  have ofLines : cutScript.IsOfLines := {
    cluster := by decide
    endpoint := by decide
    authority := by decide
    tail := by decide
    marker := by decide
    signal := by
      rintro s hs
      obtain rfl := Option.some.inj hs
      decide }
  exact ⟨ofLines, stages_of_isOfLines ofLines⟩

end BootstrapScript
end FleetPlan
