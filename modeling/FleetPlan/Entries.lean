/-!
Maps as lists of entries in the order in which their keys first appeared.

A later value replaces an earlier one without moving its key, and laying one map over another keeps
every key once.
-/
namespace FleetPlan

abbrev Entries (α : Type) (κ : Type := String) := List (κ × α)

namespace Entries

variable {α β κ : Type}

def keys (es : Entries α κ) : List κ := es.map (·.1)

def mapValues (f : α → β) (es : Entries α κ) : Entries β κ := es.map fun e => (e.1, f e.2)

theorem keys_mapValues (f : α → β) (es : Entries α κ) : keys (mapValues f es) = keys es := by
  simp [keys, mapValues]

theorem mem_mapValues {f : α → β} {es : Entries α κ} {k : κ} {v : α} (h : (k, v) ∈ es) :
    (k, f v) ∈ mapValues f es := by
  obtain ⟨before, after, rfl⟩ := List.append_of_mem h
  simp [mapValues]

variable [DecidableEq κ]

def get? : Entries α κ → κ → Option α
  | [], _ => none
  | (k, v) :: es, key => if k = key then some v else get? es key

/-- Replaces the value of a key where it stands, or appends a new entry. -/
def put : Entries α κ → κ → α → Entries α κ
  | [], key, x => [(key, x)]
  | (k, v) :: es, key, x => if k = key then (k, x) :: es else (k, v) :: put es key x

/-- Lays `top` over `es`: its values win, its new keys follow in their order. -/
def overlay (es top : Entries α κ) : Entries α κ :=
  top.foldl (fun acc e => put acc e.1 e.2) es

/-- The map that a list of pairs spells out, the last value of a key winning. -/
def ofPairs (pairs : List (κ × α)) : Entries α κ := overlay [] pairs

def erase (es : Entries α κ) (key : κ) : Entries α κ := es.filter (·.1 != key)

theorem get?_put (es : Entries α κ) (key : κ) (x : α) (k : κ) :
    get? (put es key x) k = if key = k then some x else get? es k := by
  induction es with
  | nil => rfl
  | cons e es ih =>
      obtain ⟨k', v⟩ := e
      by_cases hk : k' = key
      · subst hk
        by_cases h : k' = k <;> simp [put, get?, h]
      · by_cases h : k' = k
        · subst h
          simp [put, get?, hk, Ne.symm hk]
        · simp [put, get?, hk, h, ih]

theorem keys_put (es : Entries α κ) (key : κ) (x : α) :
    keys (put es key x) = if key ∈ keys es then keys es else keys es ++ [key] := by
  induction es with
  | nil => simp [keys, put]
  | cons e es ih =>
      obtain ⟨k, v⟩ := e
      by_cases hk : k = key
      · simp [put, keys, hk]
      · have ih' : List.map (·.1) (put es key x) = _ := ih
        by_cases hm : key ∈ es.map (·.1) <;>
          simp_all [put, keys, Ne.symm hk]

theorem nodup_keys_put {es : Entries α κ} (h : (keys es).Nodup) (key : κ) (x : α) :
    (keys (put es key x)).Nodup := by
  rw [keys_put]
  split
  · exact h
  · rename_i hm
    exact List.nodup_append.2 ⟨h, by simp, fun a ha b hb => by
      rw [List.mem_singleton.1 hb]
      exact fun hab => hm (hab ▸ ha)⟩

theorem mem_of_get? {es : Entries α κ} {key : κ} {x : α} (h : get? es key = some x) :
    (key, x) ∈ es := by
  induction es with
  | nil => cases h
  | cons e es ih =>
      obtain ⟨k, v⟩ := e
      rw [get?] at h
      split at h
      case isTrue hk =>
        cases h
        rw [hk]
        exact .head _
      case isFalse => exact .tail _ (ih h)

/-- Among distinct keys an entry is the one that is found under its key. -/
theorem get?_of_mem {es : Entries α κ} (h : (keys es).Nodup) {e : κ × α} (he : e ∈ es) :
    get? es e.1 = some e.2 := by
  induction es with
  | nil => cases he
  | cons e' es ih =>
      obtain ⟨fresh, distinct⟩ := List.nodup_cons.1 h
      cases he with
      | head => exact if_pos rfl
      | tail _ he =>
          have here : e.1 ∈ keys es := List.mem_map_of_mem he
          have other : ¬e'.1 = e.1 := fun hk => fresh (show e'.1 ∈ keys es from hk ▸ here)
          exact (if_neg other).trans (ih distinct he)

theorem put_of_not_mem {es : Entries α κ} {key : κ} (h : key ∉ keys es) (x : α) :
    put es key x = es ++ [(key, x)] := by
  induction es with
  | nil => rfl
  | cons e es ih =>
      obtain ⟨k, v⟩ := e
      have parts : ¬key = k ∧ key ∉ keys es := by simpa [keys] using h
      simp [put, Ne.symm parts.1, ih parts.2]

/-- Entries whose keys are all new are appended as they are. -/
theorem overlay_of_nodup {es top : Entries α κ} (h : (keys (es ++ top)).Nodup) :
    overlay es top = es ++ top := by
  induction top generalizing es with
  | nil => simp [overlay]
  | cons e top ih =>
      obtain ⟨k, v⟩ := e
      have shift : es ++ (k, v) :: top = (es ++ [(k, v)]) ++ top := by simp
      rw [shift] at h
      have new : k ∉ keys es := fun hk => by
        have distinct : (keys es ++ k :: keys top).Nodup := by simpa [keys] using h
        exact (List.nodup_append.1 distinct).2.2 k hk k List.mem_cons_self rfl
      calc overlay es ((k, v) :: top) = overlay (put es k v) top := rfl
        _ = (es ++ [(k, v)]) ++ top := by rw [put_of_not_mem new, ih h]
        _ = es ++ (k, v) :: top := shift.symm

theorem ofPairs_of_nodup {es : Entries α κ} (h : (keys es).Nodup) : ofPairs es = es :=
  overlay_of_nodup h

theorem overlay_append (es top upper : Entries α κ) :
    overlay es (top ++ upper) = overlay (overlay es top) upper := by
  simp [overlay, List.foldl_append]

theorem nodup_keys_overlay {es : Entries α κ} (h : (keys es).Nodup) (top : Entries α κ) :
    (keys (overlay es top)).Nodup := by
  induction top generalizing es with
  | nil => exact h
  | cons e top ih => exact ih (nodup_keys_put h e.1 e.2)

theorem nodup_keys_ofPairs (es : Entries α κ) : (keys (ofPairs es)).Nodup := by
  have none : (keys ([] : Entries α κ)).Nodup := List.nodup_nil
  exact nodup_keys_overlay none es

theorem get?_append (es fs : Entries α κ) (key : κ) :
    get? (es ++ fs) key = (get? es key).or (get? fs key) := by
  induction es with
  | nil => simp [get?]
  | cons e es ih =>
      obtain ⟨k, v⟩ := e
      by_cases hk : k = key <;> simp [get?, hk, ih]

/-- The last value that the upper layer has for a key wins over the lower layer. -/
theorem get?_overlay (es top : Entries α κ) (key : κ) :
    get? (overlay es top) key = (get? top.reverse key).or (get? es key) := by
  induction top generalizing es with
  | nil => simp [overlay, get?]
  | cons e top ih =>
      have step : overlay es (e :: top) = overlay (put es e.1 e.2) top := rfl
      rw [step, ih, get?_put, List.reverse_cons, get?_append]
      by_cases hk : e.1 = key <;> cases get? top.reverse key <;> simp [get?, hk]

section Forall

variable {P : α → Prop}

theorem forall_put {es : Entries α κ} (h : ∀ e ∈ es, P e.2) (key : κ) {x : α} (hx : P x) :
    ∀ e ∈ put es key x, P e.2 := by
  induction es with
  | nil =>
      intro e he
      rw [List.mem_singleton.mp he]
      exact hx
  | cons e' es ih =>
      rw [put]
      split
      · exact List.forall_mem_cons.mpr ⟨hx, fun e he => h e (.tail _ he)⟩
      · exact List.forall_mem_cons.mpr ⟨h _ (.head _), ih fun e he => h e (.tail _ he)⟩

theorem forall_overlay {es top : Entries α κ} (h : ∀ e ∈ es, P e.2) (ht : ∀ e ∈ top, P e.2) :
    ∀ e ∈ overlay es top, P e.2 := by
  induction top generalizing es with
  | nil => exact h
  | cons e top ih =>
      exact ih (forall_put h e.1 (ht e (.head _))) fun e' he' => ht e' (.tail _ he')

theorem forall_ofPairs {pairs : List (κ × α)} (h : ∀ e ∈ pairs, P e.2) :
    ∀ e ∈ ofPairs pairs, P e.2 := forall_overlay (List.forall_mem_nil _) h

end Forall

theorem get?_map_keyed (g : κ → α → β) (es : Entries α κ) (key : κ) :
    get? (es.map fun e => (e.1, g e.1 e.2)) key = (get? es key).map (g key) := by
  induction es with
  | nil => rfl
  | cons e es ih =>
      obtain ⟨k, v⟩ := e
      by_cases hk : k = key
      · subst hk
        simp [get?]
      · simp [get?, hk, ih]

theorem get?_mapValues (f : α → β) (es : Entries α κ) (key : κ) :
    get? (mapValues f es) key = (get? es key).map f :=
  get?_map_keyed (fun _ => f) es key

theorem mem_keys_erase {es : Entries α κ} {key k : κ} :
    k ∈ keys (erase es key) ↔ k ∈ keys es ∧ k ≠ key := by
  simp only [keys, erase, List.mem_map, List.mem_filter, bne_iff_ne]
  constructor
  · rintro ⟨e, ⟨he, other⟩, rfl⟩
    exact ⟨⟨e, he, rfl⟩, other⟩
  · rintro ⟨⟨e, he, rfl⟩, other⟩
    exact ⟨e, ⟨he, other⟩, rfl⟩

theorem get?_erase {es : Entries α κ} {key k : κ} (hk : k ≠ key) :
    get? (erase es key) k = get? es k := by
  induction es with
  | nil => rfl
  | cons e es ih =>
      obtain ⟨k', v⟩ := e
      by_cases erased : k' = key
      · have rest : erase ((k', v) :: es) key = erase es key := by simp [erase, erased]
        have skipped : ¬k' = k := fun same => hk (same ▸ erased)
        rw [rest, ih, get?, if_neg skipped]
      · have rest : erase ((k', v) :: es) key = (k', v) :: erase es key := by simp [erase, erased]
        rw [rest, get?, get?, ih]

end Entries
end FleetPlan
