import Mend.Complexity
import Mend.Json.Reader
import Mend.Report
import Mend.Text.Search

/-!
Replies of a model. A reply is expected to be an object, bare or between fences, with a repair and
an explanation; the rest of it is read leniently.
-/

namespace Mend.Reply

def fence : List Char := "```".toList

def jsonFence : List Char := "```json".toList

def before (mark cs : List Char) : List Char :=
  match Text.splitFirst? mark cs with
  | some (a, _) => a
  | none => cs

def inside? (mark cs : List Char) : Option (List Char) :=
  (Text.splitFirst? mark cs).map fun r => Text.trim (before fence r.2)

/-- The text between fences, those that announce an object first, or else the whole text. -/
def unwrap (cs : List Char) : List Char :=
  ((inside? jsonFence cs).or (inside? fence cs)).getD (Text.trim cs)

inductive Problem
  | malformed (e : Json.ReadError)
  | notAnObject (kind : String)
  | missingFields
  | notTexts
  deriving DecidableEq, Repr

def Problem.message : Problem → String
  | malformed e => e.message
  | notAnObject kind => s!"Invalid response format: expected a JSON object, got {kind}"
  | missingFields => "Invalid response format: missing required fields"
  | notTexts => "Invalid response format: fix and explanation must be strings"

/-- Why a reply cannot even be judged. -/
inductive Fault
  | unreadable (e : Json.ReadError)
  /-- A number beyond the range of doubles. -/
  | outOfRange
  deriving DecidableEq, Repr

def Fault.message : Fault → String
  | unreadable e => e.message
  | outOfRange => "int too large to convert to float"

structure Payload where
  fix : String
  explanation : String
  fields : Json.Fields

def value (fs : Json.Fields) (name : String) : Json := (Json.Fields.get? fs name).getD .null

def Payload.ofJson : Json → Except Problem Payload
  | .obj fs =>
    if !(value fs "fix").isFilled || !(value fs "explanation").isFilled then .error .missingFields
    else match value fs "fix", value fs "explanation" with
      | .str fix, .str explanation => .ok ⟨fix, explanation, fs⟩
      | _, _ => .error .notTexts
  | v => .error (.notAnObject v.kindName)

def payload (raw : String) : Except Fault (Except Problem Payload) :=
  match Json.read (.ofList (unwrap raw.toList)) with
  | .ok v => .ok (Payload.ofJson v)
  | .error e =>
    match e with
    | .malformed .. => .ok (.error (.malformed e))
    | _ => .error (.unreadable e)

def defaultConfidence : Number := .real (.ofDecimal false 7 (-1))

/-- A confidence from zero to one; what is no number counts as `default`. -/
def clamp (v : Json) (default : Number) : Except Fault Number :=
  match v with
  | .num n =>
    if n.isNan then .ok default
    else match n.toReal? with
      | none => .error .outOfRange
      | some x =>
        if n.le 0 then .ok (.real .zero)
        else if Number.le 1 n then .ok (.real .one)
        else .ok (.real x)
  | _ => .ok default

def edits : Json → List Edit
  | .arr items => items.filterMap fun
    | .obj fs => some (Edit.ofFields fs)
    | _ => none
  | _ => []

def warnings : Json → List String
  | .str s => if s = "" then [] else [s]
  | .arr items => (items.filter Json.isFilled).map Json.text
  | _ => []

end Mend.Reply
