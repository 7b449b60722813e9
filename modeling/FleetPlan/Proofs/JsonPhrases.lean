import FleetPlan.Json.Reader

/-!
Values and the tokens that spell them.

A value is spelled by the tokens of its parts, with brackets, commas and colons around them, and a
map may spell a key more than once. The machine that reads tokens accepts those that spell a value
and no others. What it comes to is that value with all maps settled: of a repeated key the first
place and the last value are kept.
-/
namespace FleetPlan.Json

variable {τ : Type}

mutual

/-- The tokens that spell a value. -/
def phrase : Json τ → List (Token τ)
  | .null => [.null]
  | .bool b => [.bool b]
  | .number x => [.number x]
  | .text s => [.text s]
  | .list [] => [.openList, .closeList]
  | .list (x :: xs) => .openList :: (phrase x ++ (elementPhrases xs ++ [.closeList]))
  | .map [] => [.openMap, .closeMap]
  | .map ((k, v) :: es) =>
    .openMap :: .text k :: .colon :: (phrase v ++ (memberPhrases es ++ [.closeMap]))

def elementPhrases : List (Json τ) → List (Token τ)
  | [] => []
  | x :: xs => .comma :: (phrase x ++ elementPhrases xs)

def memberPhrases : List (τ × Json τ) → List (Token τ)
  | [] => []
  | (k, v) :: es => .comma :: .text k :: .colon :: (phrase v ++ memberPhrases es)

end

/-- The tokens of elements that are each followed by a comma. -/
def elementsTaken (xs : List (Json τ)) : List (Token τ) :=
  xs.flatMap fun x => phrase x ++ [.comma]

def membersTaken (es : Entries (Json τ) τ) : List (Token τ) :=
  es.flatMap fun e => .text e.1 :: .colon :: (phrase e.2 ++ [.comma])

theorem elementPhrases_concat (x v : Json τ) (xs : List (Json τ)) :
    phrase x ++ elementPhrases (xs ++ [v]) = elementsTaken (x :: xs) ++ phrase v := by
  induction xs generalizing x with
  | nil => simp [elementPhrases, elementsTaken]
  | cons y xs ih =>
      have rest := ih y
      simp only [elementsTaken, List.flatMap_cons] at rest ⊢
      simp [elementPhrases, rest]

theorem phrase_list_concat (xs : List (Json τ)) (v : Json τ) :
    phrase (.list (xs ++ [v])) = .openList :: (elementsTaken xs ++ (phrase v ++ [.closeList])) := by
  cases xs with
  | nil => simp [phrase, elementPhrases, elementsTaken]
  | cons x xs =>
      have elements := elementPhrases_concat x v xs
      simp [phrase, ← List.append_assoc, elements]

theorem memberPhrases_concat (e : τ × Json τ) (k : τ) (v : Json τ)
    (es : Entries (Json τ) τ) :
    .text e.1 :: .colon :: (phrase e.2 ++ memberPhrases (es ++ [(k, v)])) =
      membersTaken (e :: es) ++ .text k :: .colon :: phrase v := by
  induction es generalizing e with
  | nil => simp [memberPhrases, membersTaken]
  | cons e' es ih =>
      obtain ⟨k', v'⟩ := e'
      have rest := ih (k', v')
      simp only [membersTaken, List.flatMap_cons] at rest ⊢
      simp [memberPhrases, rest]

theorem phrase_map_concat (es : Entries (Json τ) τ) (k : τ) (v : Json τ) :
    phrase (.map (es ++ [(k, v)])) =
      .openMap :: (membersTaken es ++ .text k :: .colon :: (phrase v ++ [.closeMap])) := by
  cases es with
  | nil => simp [phrase, memberPhrases, membersTaken]
  | cons e es =>
      obtain ⟨k', v'⟩ := e
      have members := congrArg (· ++ [Token.closeMap]) (memberPhrases_concat (k', v') k v es)
      simpa [phrase] using members

variable [DecidableEq τ]

mutual

/-- A value in which no map has a key twice: each keeps its first place and its last value. -/
def settled : Json τ → Json τ
  | .list xs => .list (settledElements xs)
  | .map es => .map (Entries.ofPairs (settledMembers es))
  | v => v

def settledElements : List (Json τ) → List (Json τ)
  | [] => []
  | x :: xs => settled x :: settledElements xs

def settledMembers : List (τ × Json τ) → List (τ × Json τ)
  | [] => []
  | (k, v) :: es => (k, settled v) :: settledMembers es

end

theorem settled_list (xs : List (Json τ)) : settled (.list xs) = .list (xs.map settled) := by
  rw [settled]
  congr 1
  induction xs with
  | nil => rfl
  | cons x xs ih => rw [settledElements, ih, List.map_cons]

theorem settled_map (es : Entries (Json τ) τ) :
    settled (.map es) = .map (Entries.ofPairs (Entries.mapValues settled es)) := by
  rw [settled]
  congr 2
  induction es with
  | nil => rfl
  | cons e es ih => rw [settledMembers, ih]; rfl

section Accepted

/-- The tokens of a value do not close the list that it stands in. -/
theorem run_firstElement (stack : List (Frame τ)) (v : Json τ) (ts : List (Token τ)) :
    State.run (.firstElement stack) (phrase v ++ ts) =
      State.run (.value (.list [] :: stack)) (phrase v ++ ts) := by
  match v with
  | .null | .bool _ | .number _ | .text _ => rfl
  | .list [] | .list (_ :: _) | .map [] | .map ((_, _) :: _) => rfl

mutual

/-- Wherever a value is due, its tokens complete it. -/
theorem run_phrase (stack : List (Frame τ)) (v : Json τ) (ts : List (Token τ)) :
    State.run (.value stack) (phrase v ++ ts) = State.run (.complete stack (settled v)) ts := by
  match v with
  | .null | .bool _ | .number _ | .text _ => rfl
  | .list [] | .map [] => rfl
  | .list (x :: xs) =>
      calc State.run (.value stack) (phrase (.list (x :: xs)) ++ ts)
          = State.run (.firstElement stack)
              (phrase x ++ (elementPhrases xs ++ (.closeList :: ts))) := by
            simp [phrase, State.run, State.step, State.begin]
        _ = State.run (.complete (.list [] :: stack) (settled x))
              (elementPhrases xs ++ (.closeList :: ts)) := by
            rw [run_firstElement, run_phrase]
        _ = State.run (.complete stack (settled (.list (x :: xs)))) ts :=
            run_elementPhrases stack [] (settled x) xs ts
  | .map ((k, v) :: es) =>
      calc State.run (.value stack) (phrase (.map ((k, v) :: es)) ++ ts)
          = State.run (.value (.map [] k :: stack))
              (phrase v ++ (memberPhrases es ++ (.closeMap :: ts))) := by
            simp [phrase, State.run, State.step, State.begin]
        _ = State.run (.complete (.map [] k :: stack) (settled v))
              (memberPhrases es ++ (.closeMap :: ts)) := run_phrase _ v _
        _ = State.run (.complete stack (settled (.map ((k, v) :: es)))) ts :=
            run_memberPhrases stack [] k (settled v) es ts

/-- Behind a complete element, those that follow end their list. -/
theorem run_elementPhrases (stack : List (Frame τ)) (done : List (Json τ)) (v : Json τ)
    (xs : List (Json τ)) (ts : List (Token τ)) :
    State.run (.complete (.list done :: stack) v) (elementPhrases xs ++ (.closeList :: ts)) =
      State.run (.complete stack (.list (done.reverse ++ v :: settledElements xs))) ts := by
  match xs with
  | [] => simp [elementPhrases, settledElements, State.run, State.step]
  | x :: xs =>
      calc State.run (.complete (.list done :: stack) v)
            (elementPhrases (x :: xs) ++ (.closeList :: ts))
          = State.run (.value (.list (v :: done) :: stack))
              (phrase x ++ (elementPhrases xs ++ (.closeList :: ts))) := by
            simp [elementPhrases, State.run, State.step]
        _ = State.run (.complete (.list (v :: done) :: stack) (settled x))
              (elementPhrases xs ++ (.closeList :: ts)) := run_phrase _ x _
        _ = State.run (.complete stack (.list (done.reverse ++ v :: settledElements (x :: xs))))
              ts := by
            rw [run_elementPhrases]
            simp [settledElements]

/-- Behind a complete member, those that follow end their map. -/
theorem run_memberPhrases (stack : List (Frame τ)) (done : Entries (Json τ) τ) (k : τ)
    (v : Json τ) (es : List (τ × Json τ)) (ts : List (Token τ)) :
    State.run (.complete (.map done k :: stack) v) (memberPhrases es ++ (.closeMap :: ts)) =
      State.run (.complete stack (.map (Entries.overlay done ((k, v) :: settledMembers es))))
        ts := by
  match es with
  | [] => rfl
  | (k', w) :: es =>
      calc State.run (.complete (.map done k :: stack) v)
            (memberPhrases ((k', w) :: es) ++ (.closeMap :: ts))
          = State.run (.value (.map (Entries.put done k v) k' :: stack))
              (phrase w ++ (memberPhrases es ++ (.closeMap :: ts))) := by
            simp [memberPhrases, State.run, State.step]
        _ = State.run (.complete (.map (Entries.put done k v) k' :: stack) (settled w))
              (memberPhrases es ++ (.closeMap :: ts)) := run_phrase _ w _
        _ = State.run (.complete stack
              (.map (Entries.overlay done ((k, v) :: settledMembers ((k', w) :: es))))) ts :=
            run_memberPhrases stack (Entries.put done k v) k' (settled w) es ts

end

theorem ofTokens?_phrase (v : Json τ) : ofTokens? (phrase v) = some (settled v) := by
  have machine := run_phrase [] v []
  rw [List.append_nil] at machine
  simp [ofTokens?, machine, State.run]

end Accepted

section Taken

theorem ofPairs_settled_concat (es : Entries (Json τ) τ) (k : τ) (v : Json τ) :
    Entries.ofPairs (Entries.mapValues settled (es ++ [(k, v)])) =
      Entries.put (Entries.ofPairs (Entries.mapValues settled es)) k (settled v) := by
  have parts : Entries.mapValues settled (es ++ [(k, v)]) =
      Entries.mapValues settled es ++ [(k, settled v)] := List.map_append
  rw [parts, Entries.ofPairs, Entries.overlay_append]
  rfl

/-- What was taken of a list or map that is open and waits for its next value. -/
inductive Frame.Took : Frame τ → List (Token τ) → Prop
  | list (xs : List (Json τ)) :
    Took (.list (xs.map settled).reverse) (.openList :: elementsTaken xs)
  | map (es : Entries (Json τ) τ) (k : τ) :
    Took (.map (Entries.ofPairs (Entries.mapValues settled es)) k)
      (.openMap :: (membersTaken es ++ [.text k, .colon]))

/-- What was taken of all that is open, from the outermost to the innermost. -/
inductive StackTook : List (Frame τ) → List (Token τ) → Prop
  | nil : StackTook [] []
  | cons {f : Frame τ} {stack : List (Frame τ)} {ts us : List (Token τ)} (h : StackTook stack ts)
    (hf : f.Took us) : StackTook (f :: stack) (ts ++ us)

/-- The tokens that brought the machine from its start to a state. -/
inductive State.Took : State τ → List (Token τ) → Prop
  | value {stack : List (Frame τ)} {ts : List (Token τ)} (h : StackTook stack ts) :
    Took (.value stack) ts
  | firstElement {stack : List (Frame τ)} {ts : List (Token τ)} (h : StackTook stack ts) :
    Took (.firstElement stack) (ts ++ [.openList])
  | key {stack : List (Frame τ)} {ts : List (Token τ)} {closable : Bool} (h : StackTook stack ts)
    (es : Entries (Json τ) τ) (hc : closable = true → es = []) :
    Took (.key stack (Entries.ofPairs (Entries.mapValues settled es)) closable)
      (ts ++ .openMap :: membersTaken es)
  | colon {stack : List (Frame τ)} {ts : List (Token τ)} (h : StackTook stack ts)
    (es : Entries (Json τ) τ) (k : τ) :
    Took (.colon stack (Entries.ofPairs (Entries.mapValues settled es)) k)
      (ts ++ .openMap :: (membersTaken es ++ [.text k]))
  | complete {stack : List (Frame τ)} {ts : List (Token τ)} (h : StackTook stack ts)
    (v : Json τ) :
    Took (.complete stack (settled v)) (ts ++ phrase v)

variable {stack : List (Frame τ)} {ts us : List (Token τ)}

theorem State.took_begin {t : Token τ} {s : State τ}
    (h : State.begin stack t = some s) (took : StackTook stack ts) : s.Took (ts ++ [t]) := by
  cases t with
  | null =>
      cases h
      exact .complete took .null
  | bool b =>
      cases h
      exact .complete took (.bool b)
  | number x =>
      cases h
      exact .complete took (.number x)
  | text s =>
      cases h
      exact .complete took (.text s)
  | openList =>
      cases h
      exact .firstElement took
  | openMap =>
      cases h
      exact .key took [] fun _ => rfl
  | closeList | closeMap | comma | colon => cases h

theorem State.took_step {s s' : State τ} {t : Token τ} (h : s.step t = some s')
    (took : s.Took ts) : s'.Took (ts ++ [t]) := by
  -- The cases are the equations of `step`, in their order; those without a result are void.
  revert h took
  fun_cases State.step s t <;> intro h took <;> try cases h
  case case1 =>
      obtain ⟨stack⟩ := took
      exact took_begin h stack
  case case2 =>
      obtain _ | ⟨stack⟩ := took
      simpa [phrase, settled_list] using State.Took.complete stack (.list [])
  case case3 =>
      obtain _ | ⟨stack⟩ := took
      exact took_begin h (.cons stack (.list []))
  case case4 k =>
      obtain _ | _ | ⟨stack, es⟩ := took
      simpa using State.Took.colon stack es k
  case case5 =>
      obtain _ | _ | ⟨stack, es, closable⟩ := took
      obtain rfl := closable rfl
      simpa [phrase, settled_map, membersTaken] using State.Took.complete stack (.map [])
  case case7 k =>
      obtain _ | _ | _ | ⟨stack, es⟩ := took
      simpa using State.Took.value (.cons stack (.map es k))
  case case9 =>
      obtain _ | _ | _ | _ | ⟨stack, v⟩ := took
      obtain _ | ⟨stack, ⟨xs⟩⟩ := stack
      simpa [elementsTaken] using State.Took.value (.cons stack (.list (xs ++ [v])))
  case case10 =>
      obtain _ | _ | _ | _ | ⟨stack, v⟩ := took
      obtain _ | ⟨stack, ⟨xs⟩⟩ := stack
      simpa [phrase_list_concat, settled_list] using State.Took.complete stack (.list (xs ++ [v]))
  case case11 k _ _ =>
      obtain _ | _ | _ | _ | ⟨stack, v⟩ := took
      obtain _ | ⟨stack, _ | ⟨es⟩⟩ := stack
      have next : State.Took (.key _ _ false) _ := .key stack (es ++ [(k, v)]) nofun
      simpa [membersTaken, ofPairs_settled_concat] using next
  case case12 k _ _ =>
      obtain _ | _ | _ | _ | ⟨stack, v⟩ := took
      obtain _ | ⟨stack, _ | ⟨es⟩⟩ := stack
      have next := State.Took.complete stack (.map (es ++ [(k, v)]))
      simpa [phrase_map_concat, settled_map, ofPairs_settled_concat] using next

theorem State.took_run {s s' : State τ} (h : s.run us = some s')
    (took : s.Took ts) : s'.Took (ts ++ us) := by
  induction us generalizing s ts with
  | nil =>
      cases h
      simpa using took
  | cons u us ih =>
      obtain ⟨next, hstep, hrun⟩ := Option.bind_eq_some_iff.1 h
      simpa using ih hrun (took_step hstep took)

end Taken

/-- The machine accepts the tokens that spell a value, and what they come to is that value with its
maps settled. -/
theorem ofTokens?_eq_some_iff {ts : List (Token τ)} {v : Json τ} :
    ofTokens? ts = some v ↔ ∃ w, ts = phrase w ∧ v = settled w := by
  constructor
  · intro h
    unfold ofTokens? at h
    split at h
    · cases h
      have took := State.took_run ‹_› (.value .nil)
      obtain _ | _ | _ | _ | ⟨⟨⟩, w⟩ := took
      exact ⟨w, rfl, rfl⟩
    · cases h
  · rintro ⟨w, rfl, rfl⟩
    exact ofTokens?_phrase w

end FleetPlan.Json
