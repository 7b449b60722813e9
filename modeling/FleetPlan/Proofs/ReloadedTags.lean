import FleetPlan.Proofs.JsonLexemes
import FleetPlan.Proofs.LayeredTags
import FleetPlan.Stack.GroupList

/-!
Tags that are written as a text and read again.

Written tags are read as they were. A text is read as tags exactly if it spells a map: each key stands
once, where it is first spelled, with the last value spelled for it as that is displayed. Every other
text is a fault of the configuration, and what was read once is not changed by writing and reading it.
-/
namespace FleetPlan

namespace Entries

variable {α : Type}

/-- Each pair is one more layer over those in front of it. -/
theorem isComposed_ofPairs (pairs : Entries α) :
    IsComposed (pairs.map fun e => [e]) (ofPairs pairs) := by
  induction pairs using List.reverseRecOn with
  | nil => exact isComposed_nil
  | append_singleton pairs e ih =>
      rw [List.map_append, ofPairs, overlay_append]
      exact ih.under [e]

theorem keys_ofPairs (pairs : Entries α) : keys (ofPairs pairs) = (keys pairs).eraseDups :=
  keys_overlay List.nodup_nil

/-- The last value of a key is the one that is kept. -/
theorem get?_ofPairs_of_last {before after : Entries α} {key : String} {x : α}
    (h : key ∉ keys after) : get? (ofPairs (before ++ (key, x) :: after)) key = some x := by
  have layered := (isComposed_ofPairs (before ++ (key, x) :: after)).isLayered
  refine layered.value _ [(key, x)] _ (by rw [List.map_append]; rfl) (by simp [keys]) key x
    (.head _) fun above habove => ?_
  obtain ⟨e, he, rfl⟩ := List.mem_map.1 habove
  have other : key ≠ e.1 := fun same => h (same ▸ List.mem_map_of_mem he)
  simpa [keys] using other

end Entries

/-- Tags as a text: a map of texts on one line. -/
def writeTags (tags : Entries String) : String :=
  Json.print .inline (.map (Entries.mapValues .text tags))

/-- The tags that the members of a map give, as a text spells them one after another. -/
structure AreTagsOf (members : List (String × Json)) (tags : Entries String) : Prop where
  distinct : (Entries.keys tags).Nodup
  /-- Keys stand where they are first spelled. -/
  order : Entries.keys tags = (Entries.keys members).eraseDups
  /-- A key has the value that is spelled for it last, as a text. -/
  value : ∀ before key v after, members = before ++ (key, v) :: after →
    key ∉ Entries.keys after →
    Entries.get? tags key = some (Json.settled v).display

theorem areTagsOf_settled (members : List (String × Json)) :
    AreTagsOf members (Entries.mapValues Json.display
      (Entries.ofPairs (Entries.mapValues Json.settled members))) where
  distinct := by
    rw [Entries.keys_mapValues]
    exact Entries.nodup_keys_ofPairs _
  order := by rw [Entries.keys_mapValues, Entries.keys_ofPairs, Entries.keys_mapValues]
  value before key v after hmembers hlast := by
    have parts : Entries.mapValues Json.settled members =
        Entries.mapValues Json.settled before ++
          (key, Json.settled v) :: Entries.mapValues Json.settled after := by
      rw [hmembers]
      exact List.map_append
    have last : key ∉ Entries.keys (Entries.mapValues Json.settled after) := by
      rwa [Entries.keys_mapValues]
    rw [Entries.get?_mapValues, parts, Entries.get?_ofPairs_of_last last]
    rfl

/-- How the reading of a text as tags ends. -/
structure ReadsTags (text : String) (read : Except ConfigFault (Entries String)) : Prop where
  accepts : (∃ tags, read = .ok tags) ↔ ∃ members, Json.Spells text (.map members)
  /-- The tags are those of the members that the text spells. -/
  members : ∀ members tags, Json.Spells text (.map members) → read = .ok tags →
    AreTagsOf members tags
  /-- What is read stays as it is when it is written and read again. -/
  settles : ∀ tags, read = .ok tags → parseTags (some (writeTags tags)) = .ok tags
  /-- All other values are refused, and so are texts that spell no value at all. -/
  refuses : ∀ fault, read = .error fault →
    fault = .tagsNotAMap ∧ (∃ v, Json.Spells text v ∧ ∀ members, v ≠ .map members) ∨
      fault = .notJson "tags" ∧ ∀ v, ¬Json.Spells text v

theorem parseTags_of_read? {text : String} {es : Entries Json}
    (h : Json.read? text = some (.map es)) :
    parseTags (some text) = .ok (Entries.mapValues Json.display es) := by
  simp only [parseTags, GroupSpec.readText, Option.map_some, Json.spelled?_toList, h]

theorem parseTags_writeTags {tags : Entries String} (h : (Entries.keys tags).Nodup) :
    parseTags (some (writeTags tags)) = .ok tags := by
  have distinct : (Entries.keys (Entries.mapValues (.text : String → Json) tags)).Nodup := by
    rwa [Entries.keys_mapValues]
  have read : Json.read? (writeTags tags) = some (.map (Entries.mapValues .text tags)) := by
    rw [writeTags, Json.read?_print Json.isBlank_inline, Json.reread_map distinct]
    simp [Entries.mapValues, Json.reread_text]
  rw [parseTags_of_read? read, Entries.mapValues, Entries.mapValues, List.map_map]
  exact congrArg Except.ok (List.map_id tags)

theorem parseTags_of_spells {text : String} {members : List (String × Json)}
    (h : Json.Spells text (.map members)) :
    parseTags (some text) = .ok (Entries.mapValues Json.display
      (Entries.ofPairs (Entries.mapValues Json.settled members))) := by
  apply parseTags_of_read?
  rw [← Json.settled_map]
  exact Json.read?_eq_some_iff.2 ⟨_, h, rfl⟩

/-- Every way in which the reading of a text as tags ends. -/
theorem parseTags_outcome (text : String) :
    (∃ members, Json.Spells text (.map members)) ∨
      parseTags (some text) = .error .tagsNotAMap ∧
        (∃ v, Json.Spells text v ∧ ∀ members, v ≠ .map members) ∨
      parseTags (some text) = .error (.notJson "tags") ∧ ∀ v, ¬Json.Spells text v := by
  cases read : Json.read? text with
  | none =>
      refine .inr (.inr ⟨by simp [parseTags, GroupSpec.readText, read], fun v spelled => ?_⟩)
      rw [Json.read?_eq_some_iff.2 ⟨v, spelled, rfl⟩] at read
      cases read
  | some v =>
      obtain ⟨w, spelled, rfl⟩ := Json.read?_eq_some_iff.1 read
      cases w with
      | map members => exact .inl ⟨members, spelled⟩
      | null | bool _ | number _ | text _ | list _ =>
          refine .inr (.inl ⟨?_, _, spelled, fun members => by simp⟩)
          simp [parseTags, GroupSpec.readText, read, Json.settled]
      | leaf a => cases a

theorem exists_members_of_parseTags {text : String} {tags : Entries String}
    (h : parseTags (some text) = .ok tags) : ∃ members, Json.Spells text (.map members) := by
  obtain spelled | ⟨refused, _⟩ | ⟨refused, _⟩ := parseTags_outcome text
  · exact spelled
  · cases refused.symm.trans h
  · cases refused.symm.trans h

theorem areTagsOf_parseTags {text : String} {members : List (String × Json)}
    {tags : Entries String} (h : Json.Spells text (.map members))
    (read : parseTags (some text) = .ok tags) : AreTagsOf members tags := by
  rw [parseTags_of_spells h] at read
  cases read
  exact areTagsOf_settled members

theorem fault_of_parseTags {text : String} {fault : ConfigFault}
    (h : parseTags (some text) = .error fault) :
    fault = .tagsNotAMap ∧ (∃ v, Json.Spells text v ∧ ∀ members, v ≠ .map members) ∨
      fault = .notJson "tags" ∧ ∀ v, ¬Json.Spells text v := by
  obtain ⟨members, spelled⟩ | ⟨refused, other⟩ | ⟨refused, none⟩ := parseTags_outcome text
  · cases (parseTags_of_spells spelled).symm.trans h
  · exact .inl ⟨Except.error.inj (h.symm.trans refused), other⟩
  · exact .inr ⟨Except.error.inj (h.symm.trans refused), none⟩

/-- Tags survive being written and read, whether they were configured as such or read of a text. -/
theorem tags_reload {tags : Entries String} (distinct : (Entries.keys tags).Nodup)
    (text : String) :
    parseTags (some (writeTags tags)) = .ok tags ∧
      ReadsTags text (parseTags (some text)) where
  left := parseTags_writeTags distinct
  right := {
    accepts := ⟨fun ⟨_, read⟩ => exists_members_of_parseTags read,
      fun ⟨_, spelled⟩ => ⟨_, parseTags_of_spells spelled⟩⟩
    members := fun _ _ spelled read => areTagsOf_parseTags spelled read
    settles := fun tags read => by
      obtain ⟨members, spelled⟩ := exists_members_of_parseTags read
      exact parseTags_writeTags (areTagsOf_parseTags spelled read).distinct
    refuses := fun _ => fault_of_parseTags }

/-- Tags with a quote, a backslash, a control character, a character beyond the first plane and an
empty key. -/
def oddTags : Entries String :=
  [("na\"me", "a\\b\x07"), ("", "😀"), ("caf\u00e9", "")]

/-- A map that spells one of its keys again. -/
def repeatingTags : String :=
  "\x7b\"size\" : 1,\n\"flags\": [true, null, -2e2], \"size\": \"\\ud83d\\ude00\"\x7d"

theorem tags_reload_oddTags :
    (Entries.keys oddTags).Nodup ∧
      parseTags (some (writeTags oddTags)) = .ok oddTags ∧
      ReadsTags repeatingTags (parseTags (some repeatingTags)) := by
  have distinct : (Entries.keys oddTags).Nodup := by decide
  exact ⟨distinct, tags_reload distinct repeatingTags⟩

/-- The key stays where it is spelled first. -/
example : (parseTags (some repeatingTags)).toOption =
    some [("size", "😀"), ("flags", "[True, None, -200.0]")] := by decide +kernel

end FleetPlan
