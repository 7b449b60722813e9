import FleetPlan.Number.Numeral
import FleetPlan.Request.Checked
import FleetPlan.Request.Setting

/-!
Readers of single settings.

A reader takes the setting as it is when it has the wanted form, converts it where one meaning is
beyond doubt, and otherwise says what is wrong; a list or map is read to its end, so that every bad
element is reported. A deferred value is taken whatever it may hold.
-/
namespace FleetPlan

abbrev Reader (α : Type) := Setting → Checked α

namespace Reader

variable {α β : Type}

def text : Reader String
  | .text s => .ok s
  | _ => .refuse .notText

def yesWords : List String := ["1", "true", "t", "yes", "y", "on"]

def noWords : List String := ["0", "false", "f", "no", "n", "off"]

def isWord (n : Int) : Bool :=
  -(Nat.pow 2 63 : Int) ≤ n && n < (Nat.pow 2 63 : Int)

/-- The whole number that a double is, of less than sixty-four bits. -/
def intOfDouble (x : Double) : Checked Int :=
  match x.truncate? with
  | none => .refuse .notFinite
  | some n =>
    if !x.isWhole then .refuse .fractional
    else if n.natAbs < Nat.pow 2 63 then .ok n
    else .refuse .integerTooLarge

def flagOfInt (n : Int) : Checked Bool :=
  if n = 0 then .ok false
  else if n = 1 then .ok true
  else .refuse .unreadableFlag

/-- A truth value, or one of the numbers and words that stand for one. -/
def flag : Reader Bool
  | .bool b => .ok b
  | .number (.int n) => if isWord n then flagOfInt n else .refuse .notFlag
  | .number (.float x) =>
    match intOfDouble x with
    | .ok n => flagOfInt n
    | .error _ => .refuse .notFlag
  | .text s =>
    let word := String.ofList (s.toList.map Char.toLower)
    if yesWords.contains word then .ok true
    else if noWords.contains word then .ok false
    else .refuse .unreadableFlag
  | _ => .refuse .notFlag

/-- An integer, or a value that is one in another form. -/
def integer : Reader Int
  | .number (.int n) => .ok n
  | .bool b => .ok (if b then 1 else 0)
  | .number (.float x) => intOfDouble x
  | .text s =>
    match Numeral.lenientInt? s.toList with
    | some n => .ok n
    | none =>
      if (Numeral.lenientDigits? s.toList).isSome then .refuse .integerTooLarge
      else .refuse .unreadableInteger
  | _ => .refuse .notInteger

def integerFrom (least : Int) : Reader Int := fun v =>
  match integer v with
  | .ok n => if least ≤ n then .ok n else .refuse .belowLeast
  | .error fs => .error fs

/-- A number of either form, kept as it is; other values are read as an integer if they can be,
and else as a double. -/
def amount : Reader Number
  | .number x => .ok x
  | .bool b => .ok (.int (if b then 1 else 0))
  | .text s =>
    match Numeral.lenientInt? s.toList, Numeral.lenientFloat? s.toList with
    | some n, _ => .ok (.int n)
    | none, some x => .ok (.float x)
    | none, none => .refuseAll [.unreadableInteger, .unreadableDouble]
  | _ => .refuseAll [.notInteger, .notDouble]

def choice (all : List α) (code : α → String) : Reader α
  | .text s =>
    match all.find? fun a => code a = s with
    | some a => .ok a
    | none => .refuse .notAChoice
  | _ => .refuse .notAChoice

def optional (r : Reader α) : Reader (Option α)
  | .null => .ok none
  | v => (r v).map some

def elements (r : Reader α) : Nat → List Setting → Checked (List α)
  | _, [] => .ok []
  | i, v :: vs =>
    Checked.apply (((r v).within (.index i)).map List.cons) (elements r (i + 1) vs)

def list (r : Reader α) : Reader (List α)
  | .list vs => elements r 0 vs
  | _ => .refuse .notAList

def members (r : Reader α) : Entries Setting → Checked (Entries α)
  | [] => .ok []
  | (k, v) :: es =>
    Checked.apply (((r v).within (.key k)).map fun a as => (k, a) :: as) (members r es)

def map (r : Reader α) : Reader (Entries α)
  | .map es => members r es
  | _ => .refuse .notAMap

def resource (type : String) : Reader Resource
  | .leaf (.resource r) => if r.ref.type = type then .ok r else .refuse .wrongObject
  | _ => .refuse .wrongObject

def block (kind : BlockKind) : Reader Block
  | .leaf (.block b) => if b.kind = kind then .ok b else .refuse .wrongObject
  | _ => .refuse .wrongObject

def textInput : Reader TextInput
  | .leaf (.later d _) => .ok (.later d)
  | .text s => .ok (.now (some s))
  | _ => .refuseAll [.notText, .wrongObject]

/-- An element of a list, or a value of a map, at hand or deferred. -/
def textElement : Reader (Input String)
  | .leaf (.later d _) => .ok (.later d)
  | .text s => .ok (.now s)
  | _ => .refuseAll [.notText, .wrongObject]

/-- What another reader takes, or a deferred value; one more fault says that a value is not
deferred either. -/
def inputOf (r : Reader α) : Reader (Input α)
  | .leaf (.later d _) => .ok (.later d)
  | v =>
    match r v with
    | .ok a => .ok (.now a)
    | .error fs => .error (fs ++ [⟨[], .wrongObject⟩])

/-- A list of texts, it or its elements at hand or deferred. -/
def listInput : Reader ListInput := inputOf fun v => (list textElement v).map some

def tagsInput : Reader TagsInput := inputOf fun v => (map textElement v).map some

def integerInput : Reader (Input Int) := inputOf integer

/-- Null for an input that is absent, or what another reader takes. -/
def absentOr (r : Reader (Input (Option α))) : Reader (Input (Option α))
  | .null => .ok Input.absent
  | v => r v

/-- The value of a field; a field that is not there has its default. -/
def field (es : Entries Setting) (key : String) (default : α) (r : Reader α) : Checked α :=
  match Entries.get? es key with
  | none => .ok default
  | some v => (r v).within (.key key)

def required (es : Entries Setting) (key : String) (r : Reader α) : Checked α :=
  match Entries.get? es key with
  | none => Checked.within (.key key) (.refuse .missing)
  | some v => (r v).within (.key key)

def strangers (declared : List String) (es : Entries Setting) : List FieldFault :=
  (es.filter fun e => !declared.contains e.1).map fun e => ⟨[.key e.1], .unknownField⟩

end Reader

namespace Taint

def fields : List String := ["value", "effect"]

def ofFields (es : Entries Setting) : Checked Taint :=
  Checked.withFaults
    (Checked.apply ((Reader.required es "value" Reader.text).map Taint.mk)
      (Reader.required es "effect" (Reader.choice TaintEffect.all TaintEffect.code)))
    (Reader.strangers fields es)

def read : Reader Taint
  | .leaf (.taint t) => .ok t
  | .map es => ofFields es
  | _ => .refuse .notARecord

def toEntries (t : Taint) : Entries Setting :=
  [("value", .text t.value), ("effect", .text t.effect.code)]

end Taint

namespace Bounds

def scalingFields : List String := ["desired_size", "min_size", "max_size"]

def ofFields (es : Entries Setting) : Checked Bounds :=
  let bound (key : String) (least : Int) : Checked (Option Int) :=
    Reader.field es key none (Reader.optional (Reader.integerFrom least))
  Checked.withFaults
    (Checked.apply (Checked.apply ((bound "desired_size" 0).map Bounds.mk) (bound "min_size" 0))
      (bound "max_size" 1))
    (Reader.strangers scalingFields es)

def readScaling : Reader Bounds
  | .leaf (.scaling b) => .ok b
  | .map es => ofFields es
  | _ => .refuse .notARecord

def optionalInt : Option Int → Setting
  | none => .null
  | some n => .int n

def scalingEntries (b : Bounds) : Entries Setting :=
  [("desired_size", optionalInt b.desired), ("min_size", optionalInt b.least),
    ("max_size", optionalInt b.most)]

end Bounds
end FleetPlan
