import FleetPlan.Json.Reader
import FleetPlan.Plan.Failure
import FleetPlan.Request.ManagedOptions

/-!
The list of groups in a configuration.

Each entry is read by itself, and the first one that cannot be read is reported; only then are the
names compared, and every repeated name is listed once, in increasing order. The loader is the same
for every kind of texts, the configuration's and those that it spells, and however options are read;
the program's own has ordinary texts, and options of the three kinds of groups.
-/
namespace FleetPlan

inductive GroupKind where
  | stack
  | template
  | managed
  deriving DecidableEq, Repr

namespace GroupKind

def all : List GroupKind := [stack, template, managed]

def code : GroupKind → String
  | stack => "self-managed"
  | template => "self-managed-v2"
  | managed => "managed"

end GroupKind

/-- Options of a group, by its kind. -/
inductive GroupOptions where
  | stack (o : WorkerOptions)
  | template (o : TemplateOptions)
  | managed (o : ManagedOptions)

namespace GroupOptions

def kind : GroupOptions → GroupKind
  | stack _ => .stack
  | template _ => .template
  | managed _ => .managed

def ofFields (es : Entries Setting) : GroupKind → Checked GroupOptions
  | .stack => (WorkerOptions.ofFields es).map stack
  | .template => (TemplateOptions.ofFields es).map template
  | .managed => (ManagedOptions.ofFields es).map managed

def ofData (kind : GroupKind) (es : Entries Json) : Checked GroupOptions :=
  ofFields (Json.embedEntries es) kind

end GroupOptions

/-- A group as it is configured. Its name is any value that counts as given. -/
structure GroupSpec (τ : Type := String) (ω : Type := GroupOptions) where
  name : Json τ
  options : ω

/-- Why a list of groups is not loaded. -/
inductive LoadFailure (τ : Type := String) (φ : Type := List FieldFault) where
  | fault (f : ConfigFault τ φ)
  /-- Names that are not all texts are repeated. -/
  | repeatedNonTexts

def LoadFailure.toFailure : LoadFailure → Failure
  | fault f => .config f
  | repeatedNonTexts => .repeatedNonTexts

namespace GroupSpec

section Loader

variable {τ φ ω : Type}

/-- The texts among some values, or nothing if there are others. -/
def allTexts : List (Json τ) → Option (List τ)
  | [] => some []
  | .text s :: vs => (allTexts vs).map (s :: ·)
  | _ => none

variable [DecidableEq τ]

def repeated (names : List (Json τ)) : List (Json τ) :=
  names.filter fun n => 1 < names.countP n.same

/-- Every name that is repeated, each once and in increasing order, is reported if all are texts. -/
def checkDistinct [LE τ] [DecidableLE τ] (names : List (Json τ)) : Except (LoadFailure τ φ) Unit :=
  match repeated names with
  | [] => .ok ()
  | again =>
    match allTexts again with
    | none => .error .repeatedNonTexts
    | some texts =>
      .error (.fault (.repeatedNames (texts.eraseDups.mergeSort fun a b => decide (a ≤ b))))

variable [Texts τ]

/-- The kind that an entry asks for; an entry that does not say is of the first kind. -/
def kindOf? (es : Entries (Json τ) τ) : Except (Json τ) GroupKind :=
  match Entries.get? es (Texts.ofString "kind") with
  | none => .ok .stack
  | some (.text s) =>
    match GroupKind.all.find? fun k => Texts.ofString k.code = s with
    | some k => .ok k
    | none => .error (.text s)
  | some v => .error v

/-- The options among the fields of an entry. -/
def optionFields (es : Entries (Json τ) τ) : Entries (Json τ) τ :=
  Entries.erase (Entries.erase es (Texts.ofString "name")) (Texts.ofString "kind")

variable {σ : Type} [Glyph σ]

/-- The value of a configuration text, or what stands for a missing one. -/
def readText (key : String) (default : Json τ) :
    Option (List σ) → Except (ConfigFault τ φ) (Json τ)
  | none => .ok default
  | some text =>
    match Json.spelled? text with
    | some v => .ok v
    | none => .error (.notJson key)

/-- The entries of a list of groups. -/
def listed (text : Option (List σ)) : Except (ConfigFault τ φ) (List (Json τ)) :=
  match readText "nodeGroups" (.list []) text with
  | .error f => .error f
  | .ok (.list vs) => .ok vs
  | .ok _ => .error .groupsNotAList

variable (read : GroupKind → Entries (Json τ) τ → Except φ ω)

def readEntry (index : Int) : Json τ → Except (ConfigFault τ φ) (GroupSpec τ ω)
  | .map es =>
    let name : Json τ := .ofOption (Entries.get? es (Texts.ofString "name"))
    if name.isTruthy then
      match kindOf? es with
      | .error kind => .error (.unknownKind index name kind)
      | .ok kind =>
        match read kind (optionFields es) with
        | .error faults => .error (.invalidOptions index name faults)
        | .ok options => .ok ⟨name, options⟩
    else .error (.entryUnnamed index)
  | _ => .error (.entryNotAMap index)

def readEntries (index : Nat) : List (Json τ) → Except (ConfigFault τ φ) (List (GroupSpec τ ω))
  | [] => .ok []
  | v :: vs => do
    let spec ← readEntry read index v
    let specs ← readEntries (index + 1) vs
    return spec :: specs

/-- Loads a list of groups whose options are read by `read`. -/
def load [LE τ] [DecidableLE τ] (text : Option (List σ)) :
    Except (LoadFailure τ φ) (List (GroupSpec τ ω)) := do
  let entries ← (listed text).mapError LoadFailure.fault
  let specs ← (readEntries read 0 entries).mapError LoadFailure.fault
  checkDistinct (specs.map GroupSpec.name)
  return specs

end Loader

def ofEntry (index : Int) (v : Json) : Except ConfigFault GroupSpec :=
  readEntry GroupOptions.ofData index v

def ofEntries (index : Nat) (vs : List Json) : Except ConfigFault (List GroupSpec) :=
  readEntries GroupOptions.ofData index vs

def entriesOf (text : Option String) : Except ConfigFault (List Json) :=
  listed (text.map String.toList)

def checkNames (names : List Json) : Except Failure Unit :=
  (checkDistinct names).mapError LoadFailure.toFailure

/-- Loads a list of groups whose texts are ordinary ones. -/
def parseList (text : Option String) : Except Failure (List GroupSpec) :=
  (load GroupOptions.ofData (text.map String.toList)).mapError LoadFailure.toFailure

end GroupSpec

/-- Reads tags: the members of a map, each value as it is displayed. -/
def parseTags (text : Option String) : Except ConfigFault (Entries String) :=
  match GroupSpec.readText "tags" (.map []) (text.map String.toList) with
  | .error f => .error f
  | .ok (.map es) => .ok (Entries.mapValues Json.display es)
  | .ok _ => .error .tagsNotAMap

end FleetPlan
