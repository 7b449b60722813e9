import FleetPlan.Fleet.GroupTemplate
import FleetPlan.Proofs.PrintedCharacters

/-!
Templates of groups as texts.

The text of a template reads back as the template, field by field, and has nothing but printable
characters and newlines; so templates over texts that differ anywhere have different texts.
-/
namespace FleetPlan

/-- What stands at the end of a path of keys. -/
def Json.along (v : Json) (keys : List String) : Json := keys.foldl Value.member v

namespace GroupTemplate

/-- The template as its text is read. -/
def reread (t : GroupTemplate) : GroupTemplate where
  launchConfiguration := Json.reread t.launchConfiguration
  capacity := t.capacity
  subnets := t.subnets.map Json.reread
  tags := Entries.mapValues Json.reread t.tags

theorem reread_tag (e : String × Json) : Json.reread (tag e) = tag (e.1, Json.reread e.2) := by
  rw [tag, Json.reread_map (by simp [Entries.keys])]
  simp [Entries.mapValues, Json.reread_text, tag]

theorem reread_toJson (t : GroupTemplate) : Json.reread t.toJson = t.reread.toJson := by
  simp +decide [toJson, properties, updatePolicy, Json.reread_map, Entries.keys, Entries.mapValues,
    Json.reread_text, Json.reread_int, Json.reread_list, reread_tag, reread, groupKey]

/-- The text of any template reads back as the template, but for doubles and repeated keys inside
its parts. -/
theorem read?_text (t : GroupTemplate) : Json.read? t.text = some t.reread.toJson := by
  rw [text, Json.read?_print Json.isBlank_indented, reread_toJson]

theorem printed_text (t : GroupTemplate) : Printed t.text.toList := by
  rw [text, Json.print, String.toList_ofList]
  exact Json.printed_write printed_nil 0 t.toJson

/-- A template whose parts are texts. -/
def ofTexts (configuration : String) (capacity : Capacity) (subnets : List String)
    (tags : Entries String) : GroupTemplate :=
  ⟨.text configuration, capacity, subnets.map .text, Entries.mapValues .text tags⟩

theorem reread_ofTexts (configuration : String) (capacity : Capacity) (subnets : List String)
    (tags : Entries String) :
    (ofTexts configuration capacity subnets tags).reread =
      ofTexts configuration capacity subnets tags := by
  simp [reread, ofTexts, Entries.mapValues, Json.reread_text]

/-- A property of the group that a template declares. -/
def property (v : Json) (key : String) : Json :=
  v.along ["Resources", groupKey, "Properties", key]

/-- The number of instances that the rolling update of a template keeps in service. -/
def inServiceOf (v : Json) : Json :=
  v.along ["Resources", groupKey, "UpdatePolicy", "AutoScalingRollingUpdate",
    "MinInstancesInService"]

theorem ofTexts_inj {configuration configuration' : String} {capacity capacity' : Capacity}
    {subnets subnets' : List String} {tags tags' : Entries String}
    (h : (ofTexts configuration capacity subnets tags).toJson =
      (ofTexts configuration' capacity' subnets' tags').toJson) :
    configuration = configuration' ∧ capacity = capacity' ∧ subnets = subnets' ∧
      tags = tags' := by
  simp only [toJson, properties, updatePolicy, ofTexts, Entries.mapValues, Value.map.injEq,
    Value.list.injEq, Value.text.injEq, Value.number.injEq, Number.int.injEq, List.cons.injEq,
    Prod.mk.injEq, true_and, and_true, List.map_map] at h
  obtain ⟨⟨desired, name, least, most, ids, tagged⟩, inService⟩ := h
  have kept := Json.toString_int_inj inService
  refine ⟨name, ?_, ?_, ?_⟩
  · obtain ⟨⟨_, _, _⟩, _⟩ := capacity
    obtain ⟨⟨_, _, _⟩, _⟩ := capacity'
    simp_all
  · exact (List.map_inj_right fun s t hst => by simpa using hst).1 ids
  · exact (List.map_inj_right fun e f hef => by simpa [tag, Prod.ext_iff] using hef).1 tagged

/-- Nothing is lost in the text of a template over texts: it reads back as the template, and the
text of another template is another. -/
theorem text_roundTrip (configuration : String) (capacity : Capacity) (subnets : List String)
    (tags : Entries String) :
    (∃ v, Json.read? (ofTexts configuration capacity subnets tags).text = some v ∧
      property v "DesiredCapacity" = .int capacity.range.desired ∧
      property v "MinSize" = .int capacity.range.least ∧
      property v "MaxSize" = .int capacity.range.most ∧
      inServiceOf v = .text (toString capacity.inService) ∧
      property v "LaunchConfigurationName" = .text configuration ∧
      property v "VPCZoneIdentifier" = .list (subnets.map .text) ∧
      property v "Tags" = .list (tags.map fun e => .map [("Key", .text e.1),
        ("Value", .text e.2), ("PropagateAtLaunch", .text "true")])) ∧
    Printed (ofTexts configuration capacity subnets tags).text.toList ∧
    ∀ configuration' capacity' subnets' tags',
      (ofTexts configuration capacity subnets tags).text =
        (ofTexts configuration' capacity' subnets' tags').text →
      configuration = configuration' ∧ capacity = capacity' ∧ subnets = subnets' ∧
        tags = tags' := by
  refine ⟨⟨_, read?_text _, ?_⟩, printed_text _, ?_⟩
  · rw [reread_ofTexts]
    refine ⟨rfl, rfl, rfl, rfl, rfl, rfl, ?_⟩
    show Value.list ((Entries.mapValues Value.text tags).map tag) = _
    simp [Entries.mapValues, tag]
  · intro configuration' capacity' subnets' tags' htext
    have read := congrArg Json.read? htext
    rw [read?_text, read?_text, reread_ofTexts, reread_ofTexts, Option.some.injEq] at read
    exact ofTexts_inj read

end GroupTemplate
end FleetPlan
