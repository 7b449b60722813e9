import FleetPlan.Fleet.GroupTemplate
import FleetPlan.Stack.Provider
import Mathlib.Data.List.Nodup

/-!
Tags that are composed of layers.

Whatever the layers hold, each key of theirs stands once in the result, where it first appears, with
the value of the last layer that has it. The tags of workers, of stacks, of security groups and of
the provider are composed of two to four layers each, and what is composed of composed tags is
composed of all their layers.
-/
namespace FleetPlan

section Distinct

variable {α : Type} [BEq α] [LawfulBEq α]

theorem eraseDups_of_nodup {l : List α} (h : l.Nodup) : l.eraseDups = l := by
  induction l with
  | nil => rfl
  | cons a l ih =>
      obtain ⟨fresh, distinct⟩ := List.nodup_cons.mp h
      have kept : l.filter (fun b => !b == a) = l := by
        refine List.filter_eq_self.mpr fun b hb => ?_
        have other : b ≠ a := fun same => fresh (same ▸ hb)
        simpa using other
      rw [List.eraseDups_cons, kept, ih distinct]

theorem filter_eraseDups (p : α → Bool) : ∀ l : List α,
    l.eraseDups.filter p = (l.filter p).eraseDups
  | [] => rfl
  | a :: l => by
    have ih := filter_eraseDups p (l.filter fun b => !b == a)
    rw [List.eraseDups_cons, List.filter_cons, List.filter_cons, ih, List.filter_filter]
    by_cases ha : p a = true
    · rw [if_pos ha, if_pos ha, List.eraseDups_cons, List.filter_filter]
      simp only [Bool.and_comm]
    · rw [if_neg ha, if_neg ha]
      refine congrArg _ (List.filter_congr fun b _ => ?_)
      by_cases hb : p b = true
      · have other : b ≠ a := fun same => ha (same ▸ hb)
        simp [hb, other]
      · simp [hb]
termination_by l => l.length
decreasing_by exact Nat.lt_succ_of_le (List.length_filter_le _ _)

theorem eraseDups_append_left {l m : List α} (h : l.eraseDups.Nodup) :
    (l.eraseDups ++ m).eraseDups = (l ++ m).eraseDups := by
  rw [List.eraseDups_append, List.eraseDups_append, eraseDups_of_nodup h]
  simp [List.removeAll, List.mem_eraseDups]

theorem eraseDups_append_right {l m : List α} (h : m.eraseDups.Nodup) :
    (l ++ m.eraseDups).eraseDups = (l ++ m).eraseDups := by
  have kept : (m.eraseDups.removeAll l).eraseDups = (m.removeAll l).eraseDups := by
    rw [List.removeAll, eraseDups_of_nodup (h.filter _), filter_eraseDups]
    rfl
  rw [List.eraseDups_append, List.eraseDups_append, kept]

end Distinct

namespace Entries

variable {α : Type} {layers upper : List (Entries α)} {es top : Entries α}

/-- Keys keep the order in which they first appear below and above. -/
theorem keys_overlay (h : (keys es).Nodup) :
    keys (overlay es top) = (keys es ++ keys top).eraseDups := by
  induction top generalizing es with
  | nil =>
      have all : keys es ++ keys ([] : Entries α) = keys es := List.append_nil _
      rw [all, eraseDups_of_nodup h]
      rfl
  | cons e top ih =>
      have step : keys (overlay es (e :: top)) = (keys (put es e.1 e.2) ++ keys top).eraseDups :=
        ih (nodup_keys_put h e.1 e.2)
      have next : keys (e :: top) = e.1 :: keys top := rfl
      rw [step, keys_put, next]
      by_cases known : e.1 ∈ keys es
      · rw [if_pos known, List.eraseDups_append, List.eraseDups_append]
        simp [List.removeAll, known]
      · rw [if_neg known, List.append_assoc, List.singleton_append]

theorem get?_eq_some (h : (keys es).Nodup) {key : String} {x : α} :
    get? es key = some x ↔ (key, x) ∈ es :=
  ⟨mem_of_get?, get?_of_mem h⟩

/-- Among distinct keys it does not matter from which end an entry is sought. -/
theorem get?_reverse (h : (keys es).Nodup) (key : String) : get? es.reverse key = get? es key := by
  have reversed : (keys es.reverse).Nodup := by
    rw [keys, List.map_reverse]
    exact List.nodup_reverse.mpr h
  refine Option.ext fun x => ?_
  rw [get?_eq_some h, get?_eq_some reversed, List.mem_reverse]

/-- Entries that are composed of layers, from the lowest up: the keys are those of the layers, each
once and where it first appears, and each has the value of the last layer that has it. -/
structure IsLayered (layers : List (Entries α)) (es : Entries α) : Prop where
  distinct : (keys es).Nodup
  members : ∀ key, key ∈ keys es ↔ ∃ layer ∈ layers, key ∈ keys layer
  order : keys es = (layers.flatMap keys).eraseDups
  value : ∀ lower layer upper, layers = lower ++ layer :: upper → (keys layer).Nodup →
    ∀ key x, (key, x) ∈ layer → (∀ above ∈ upper, key ∉ keys above) → get? es key = some x

/-- As above, where a value is what is found first from the end of all layers. -/
structure IsComposed (layers : List (Entries α)) (es : Entries α) : Prop where
  distinct : (keys es).Nodup
  order : keys es = (layers.flatMap keys).eraseDups
  found : ∀ key, get? es key = get? layers.flatten.reverse key

theorem isComposed_nil : IsComposed [] ([] : Entries α) := ⟨List.nodup_nil, rfl, fun _ => rfl⟩

namespace IsComposed

/-- Composed entries that are laid over others add all of their layers. -/
theorem overlay (h : IsComposed layers es) (htop : IsComposed upper top) :
    IsComposed (layers ++ upper) (Entries.overlay es top) where
  distinct := nodup_keys_overlay h.distinct top
  order := by
    rw [keys_overlay h.distinct, h.order, htop.order, List.flatMap_append,
      eraseDups_append_left (h.order ▸ h.distinct),
      eraseDups_append_right (htop.order ▸ htop.distinct)]
  found key := by
    rw [get?_overlay, get?_reverse htop.distinct, htop.found, h.found, List.flatten_append,
      List.reverse_append, get?_append]

/-- Whatever is laid over composed entries is one more layer. -/
theorem under (h : IsComposed layers es) (top : Entries α) :
    IsComposed (layers ++ [top]) (Entries.overlay es top) where
  distinct := nodup_keys_overlay h.distinct top
  order := by
    rw [keys_overlay h.distinct, h.order, List.flatMap_append, List.flatMap_singleton,
      eraseDups_append_left (h.order ▸ h.distinct)]
  found key := by
    rw [get?_overlay, h.found, List.flatten_append, List.flatten_singleton, List.reverse_append,
      get?_append]

theorem single (e : String × α) : IsComposed [[e]] [e] := isComposed_nil.under [e]

theorem isLayered (h : IsComposed layers es) : IsLayered layers es where
  distinct := h.distinct
  members key := by rw [h.order, List.mem_eraseDups, List.mem_flatMap]
  order := h.order
  value lower layer upper hlayers hlayer key x hx above := by
    have unset : get? upper.flatten.reverse key = none := by
      refine Option.eq_none_iff_forall_ne_some.mpr fun y found => ?_
      have here := List.mem_reverse.mp (mem_of_get? found)
      obtain ⟨l, hl, hy⟩ := List.mem_flatten.mp here
      exact above l hl (List.mem_map_of_mem hy)
    have last : get? layer.reverse key = some x := by
      rw [get?_reverse hlayer, get?_eq_some hlayer]
      exact hx
    rw [h.found, hlayers, List.flatten_append, List.flatten_cons, List.reverse_append,
      List.reverse_append, get?_append, get?_append, unset, last, Option.none_or, Option.some_or]

end IsComposed
end Entries

/-- What a value adds to tags: the entries of a map, and nothing when it does not count as given. -/
def Json.Adds (v : Json) (es : Entries Json) : Prop := v.isTruthy = false ∧ es = [] ∨ v = .map es

theorem Json.layer?_of_adds {v : Json} {es : Entries Json} (h : v.Adds es) (base : Entries Json) :
    layer? base v = some (Entries.overlay base es) := by
  obtain ⟨absent, rfl⟩ | rfl := h
  · simp [layer?, absent, Entries.overlay]
  · exact layer?_map base es

theorem Json.exists_adds {base t : Entries Json} {v : Json} (h : layer? base v = some t) :
    ∃ es, v.Adds es := by
  cases given : v.isTruthy with
  | false => exact ⟨[], .inl ⟨given, rfl⟩⟩
  | true =>
      cases v with
      | map es => exact ⟨es, .inr rfl⟩
      | null | bool _ | number _ | text _ | list _ | leaf _ => simp [layer?, given] at h

namespace Tags

open Entries

/-- The layers of the tags of every worker, from the lowest up. -/
def workerLayers (cluster : String) (given : Entries Json) : List (Entries Json) :=
  [[("Name", .text (cluster ++ "-worker"))], [ownership cluster], given]

def stackLayers (group : String) (asked cluster : Entries Json) : List (Entries Json) :=
  [[("Name", .text (group ++ "-nodes"))], asked, cluster]

def groupLayers (group cluster : String) (forGroups own : Entries Json) : List (Entries Json) :=
  [[("Name", .text (group ++ "-nodeSecurityGroup"))], [ownership cluster], forGroups, own]

def providerLayers (stack : String) (clusterStack : Setting) (given : Entries Setting) :
    List (Entries Setting) :=
  [[("ManagedBy", .text "Pulumi")], [("Stack", .text stack)], [("ClusterStack", clusterStack)],
    given]

variable (group cluster : String) {v w : Json} {es fs : Entries Json}

theorem exists_workers (h : v.Adds es) :
    ∃ t, workers cluster v = some t ∧ IsLayered (workerLayers cluster es) t := by
  have name := IsComposed.single ("Name", (.text (cluster ++ "-worker") : Json))
  exact ⟨_, Json.layer?_of_adds h _, ((name.under [ownership cluster]).under es).isLayered⟩

/-- A name that is given takes the place of the standard one, and keeps its position. -/
example : workers "blue" (.map [("team", .text "ops"), ("Name", .text "mine")]) =
    some [("Name", .text "mine"), ownership "blue", ("team", .text "ops")] := rfl

theorem exists_stack (hv : v.Adds es) (hw : w.Adds fs) :
    ∃ t, stack group v w = some t ∧ IsLayered (stackLayers group es fs) t := by
  have name := IsComposed.single ("Name", (.text (group ++ "-nodes") : Json))
  refine ⟨_, ?_, ((name.under es).under fs).isLayered⟩
  rw [stack, Json.layer?_of_adds hv, Option.bind_some, Json.layer?_of_adds hw]

/-- The tags of a cluster are composed by themselves before those of the group. -/
theorem exists_securityGroup (hv : v.Adds es) (hw : w.Adds fs) :
    ∃ t, ofCluster v w = some t ∧
      IsLayered (groupLayers group cluster es fs) (securityGroup group cluster t) := by
  have name := IsComposed.single ("Name", (.text (group ++ "-nodeSecurityGroup") : Json))
  have given := (isComposed_nil.under es).under fs
  refine ⟨_, ?_, ((name.under [ownership cluster]).overlay given).isLayered⟩
  rw [ofCluster, Json.layer?_of_adds hv, Option.bind_some, Json.layer?_of_adds hw]

theorem exists_defaultTags (stack : String) {s : ProviderSettings} {es : Entries Setting}
    (h : s.tags = .map es) : ∃ t, s.defaultTags stack = .ok t ∧
      IsLayered (providerLayers stack s.clusterStack es) t := by
  have manager := IsComposed.single ("ManagedBy", (.text "Pulumi" : Setting))
  have standard := (manager.under [("Stack", .text stack)]).under [("ClusterStack", s.clusterStack)]
  refine ⟨_, ?_, (standard.under es).isLayered⟩
  rw [ProviderSettings.defaultTags, h]
  rfl

end Tags
end FleetPlan
