import FleetPlan.Proofs.Base64RoundTrip
import FleetPlan.Proofs.KeptSettings

/-!
The encoded script of a group that is launched from a template.

An encoding is made of the characters of the alphabet and at most two signs that fill it up, its
length follows from that of the text, and it is decoded to the text it was made of, so that
different texts are encoded differently. What is registered for a complete group is decoded to the
override, or to the script of its settings and the cluster's parts, which signals no stack. What a
machine makes of the script is not said.
-/
namespace FleetPlan

open Plan Deferred

namespace Text.Base64

/-- A list of characters as an encoding writes it: symbols, and at the end perhaps padding. -/
def IsPadded (cs : List Char) : Prop :=
  ∃ body n, cs = body ++ List.replicate n '=' ∧ n ≤ 2 ∧ ∀ c ∈ body, c ∈ alphabet

theorem alphabet_standard :
    alphabet.length = 64 ∧ alphabet.Nodup ∧ '=' ∉ alphabet := by decide +kernel

theorem symbol_mem {n : Nat} (h : n < 64) : symbol n ∈ alphabet := by
  have inside : n < alphabet.length := alphabet_standard.1 ▸ h
  rw [symbol, ← List.getElem_eq_getD (h := inside)]
  exact List.getElem_mem inside

theorem isPadded_encode (bytes : List UInt8) : IsPadded (encode bytes) := by
  induction bytes using encode.induct with
  | case1 => exact ⟨[], 0, rfl, by omega, List.forall_mem_nil _⟩
  | case2 a =>
      have ha := a.toNat_lt
      refine ⟨[_, _], 2, rfl, by omega, ?_⟩
      simp only [List.forall_mem_cons]
      exact ⟨symbol_mem (by omega), symbol_mem (by omega), List.forall_mem_nil _⟩
  | case3 a b =>
      have ha := a.toNat_lt
      have hb := b.toNat_lt
      refine ⟨[_, _, _], 1, rfl, by omega, ?_⟩
      simp only [List.forall_mem_cons]
      exact ⟨symbol_mem (by omega), symbol_mem (by omega), symbol_mem (by omega),
        List.forall_mem_nil _⟩
  | case4 a b c rest ih =>
      have ha := a.toNat_lt
      have hb := b.toNat_lt
      have hc := c.toNat_lt
      obtain ⟨body, n, written, few, symbols⟩ := ih
      refine ⟨_ :: _ :: _ :: _ :: body, n, by rw [encode, written]; rfl, few, ?_⟩
      simp only [List.forall_mem_cons]
      exact ⟨symbol_mem (by omega), symbol_mem (by omega), symbol_mem (by omega),
        symbol_mem (by omega), symbols⟩

theorem length_encode (bytes : List UInt8) :
    (encode bytes).length = 4 * ((bytes.length + 2) / 3) := by
  induction bytes using encode.induct with
  | case1 => rfl
  | case2 _ | case3 _ _ => simp only [encode, List.length_cons, List.length_nil]
  | case4 a b c rest ih =>
      simp only [encode, List.length_cons, ih]
      omega

/-- What an encoding of a text is like. -/
structure Encodes (encoded text : String) : Prop where
  decodes : decodeText? encoded = some text
  padded : IsPadded encoded.toList
  length : encoded.length = 4 * ((text.utf8ByteSize + 2) / 3)

theorem encodes_encodeText (s : String) : Encodes (encodeText s) s where
  decodes := decodeText?_encodeText s
  padded := by
    rw [encodeText, String.toList_ofList]
    exact isPadded_encode _
  length := by
    rw [encodeText, ← String.length_toList, String.toList_ofList, length_encode]
    rfl

theorem encodeText_injective {s t : String} (h : encodeText s = encodeText t) : s = t := by
  have decoded := decodeText?_encodeText s
  rw [h, decodeText?_encodeText] at decoded
  exact (Option.some.inj decoded).symm

end Text.Base64

/-! What is registered for a group. -/

/-- The script that a group launched from a template runs: its override, or the script of its
settings and the cluster's parts, with no stack to signal. -/
structure TemplateOptions.Runs (name : String) (cluster : Deferred Cluster) (o : TemplateOptions)
    (script : String) : Prop where
  override : o.startup.override.isTruthy = true →
    o.startup.override.value.outcome = .ok (.text script)
  bootstrap : o.startup.override.isTruthy = false → ∃ b : BootstrapScript,
    b.IsOf cluster o.startup ∧ b.marker = .text name ∧ b.signal = none ∧ script = b.render

theorem TemplateGroup.runs_of_settle {name : String} {cluster : Deferred Cluster}
    {o : TemplateOptions} {placement : Placement} {p : Preparation} {device : Deferred Json}
    {past : History} {m : Registration}
    (htail : p.tail = bootstrapTail o.startup.bootstrapArgs o.startup.agent.args)
    (hm : (templateDraft name o p placement device (userData name p o cluster)).settle past =
      .ok m) : ∃ script, m.input "userData" = .text (Text.Base64.encodeText script) ∧
        o.Runs name cluster script := by
  obtain ⟨_, known, sent⟩ := carries_template hm (by decide : "userData" ∈ _)
    (x := userData name p o cluster) rfl
  obtain ⟨script, rfl, own, boot⟩ := outcome_userData known
  refine ⟨script, sent.trans (Json.wire_text _), own, fun given => ?_⟩
  obtain ⟨_, _, _, _, _, hname, hendpoint, hauthority, huser, _, rendered⟩ :=
    Preparation.outcome_script (boot given)
  exact ⟨_, ⟨hname, hendpoint, hauthority, htail, huser⟩, rfl, rfl, rendered⟩

theorem Fleet.Completes.runs {name : String} {x : ClusterInput} {s : Site} {o : TemplateOptions}
    {form : GroupForm} {m r : Registration}
    (h : (Fleet.template o).Completes name x s form m r) :
    ∃ script, m.input "userData" = .text (Text.Base64.encodeText script) ∧
      o.Runs name x.cluster script := by
  obtain ⟨_, _, at_, machine, _⟩ := h.exists_drafts
  obtain ⟨p, _, _, hp, _, rfl⟩ := TemplateGroup.drafts_eq_ok at_.drafted
  exact TemplateGroup.runs_of_settle (Preparation.keyOf_of_make hp).1 machine

/-- Every text is encoded so that it is decoded to itself, and that is how a complete group launched
from a template registers the script that it runs. -/
theorem scripts_encoded :
    (∀ s, Text.Base64.Encodes (Text.Base64.encodeText s) s) ∧
    (∀ s t, Text.Base64.encodeText s = Text.Base64.encodeText t → s = t) ∧
    ∀ (name : String) (x : ClusterInput) (s : Site) (o : TemplateOptions) (form : GroupForm)
      (m r : Registration), (Fleet.template o).Completes name x s form m r →
      ∃ encoded script, m.input "userData" = .text encoded ∧
        Text.Base64.Encodes encoded script ∧ o.Runs name x.cluster script := by
  refine ⟨Text.Base64.encodes_encodeText, fun s t => Text.Base64.encodeText_injective, ?_⟩
  intro name x s o form m r completes
  obtain ⟨script, sent, runs⟩ := completes.runs
  exact ⟨_, script, sent, Text.Base64.encodes_encodeText script, runs⟩

/-- Options with an override that is known only later. -/
def overriddenOptions : TemplateOptions :=
  { keyedOptions with
    startup := {
      userScript := .absent
      override := .later (Pure.pure (.text "#!/bin/sh\necho Å"))
      agent := ⟨none, none, none⟩
      bootstrapArgs := none } }

theorem scripts_encoded_keyedRun :
    (∃ m r encoded script, (Fleet.template keyedOptions).Completes "workers"
        (.descriptor smallCluster) smallSite (.component none) m r ∧
      m.input "userData" = .text encoded ∧ Text.Base64.decodeText? encoded = some script ∧
      ∃ b : BootstrapScript, b.signal = none ∧ script = b.render) ∧
    ∃ m r encoded, (Fleet.template overriddenOptions).Completes "workers"
        (.descriptor smallCluster) smallSite (.component none) m r ∧
      m.input "userData" = .text encoded ∧
      Text.Base64.decodeText? encoded = some "#!/bin/sh\necho Å" := by
  constructor
  · obtain ⟨m, r, completes⟩ := exists_completes_keyedRun (f := .template keyedOptions)
      (by decide +kernel)
    obtain ⟨encoded, script, sent, encodes, runs⟩ := scripts_encoded.2.2 _ _ _ _ _ m r completes
    obtain ⟨b, -, -, unsignalled, rendered⟩ := runs.bootstrap rfl
    exact ⟨m, r, encoded, script, completes, sent, encodes.decodes, b, unsignalled, rendered⟩
  · obtain ⟨m, r, completes⟩ := exists_completes_keyedRun (f := .template overriddenOptions)
      (by decide +kernel)
    obtain ⟨encoded, script, sent, encodes, runs⟩ := scripts_encoded.2.2 _ _ _ _ _ m r completes
    have whole := runs.override rfl
    cases whole
    exact ⟨m, r, encoded, completes, sent, encodes.decodes⟩

end FleetPlan
