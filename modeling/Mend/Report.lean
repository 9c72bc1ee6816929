import Mend.Complexity
import Mend.Hint
import Mend.Strategy.Attempt

namespace Mend

structure Provenance where
  model : String
  errorType : String
  complexity : Complexity
  timestamp : String
  generated : Bool
  provider : String
  inputTokens : Int
  outputTokens : Int
  cost : Number
  deriving DecidableEq, Repr

namespace Provenance

def toJson (p : Provenance) : Json :=
  .obj [("aiGenerated", .bool p.generated), ("model", .str p.model),
    ("provider", .str p.provider), ("timestamp", .str p.timestamp),
    ("errorType", .str p.errorType), ("complexity", .str p.complexity.name),
    ("inputTokens", .num (.int p.inputTokens)), ("outputTokens", .num (.int p.outputTokens)),
    ("costEstimate", .num p.cost)]

end Provenance

structure Report where
  success : Bool
  /-- The template's name, or the method if a model answered. -/
  fixType : Option String := none
  method : Option String := none
  fix : Option String := none
  description : Option String := none
  explanation : Option String := none
  edits : List Edit := []
  warnings : List String := []
  confidence : Number := .real .zero
  autoFixable : Bool := false
  reason : Option String := none
  rawResponse : Option String := none
  suggestion : Option String := none
  hints : List Hint := []
  provenance : Option Provenance := none
  deriving DecidableEq, Repr

namespace Report

def byTemplate : String := "template"

def byModel : String := "ai"

def nullable (v : Option String) : Json :=
  match v with
  | some s => .str s
  | none => .null

/-- Fields that are not set, and lists that say nothing, are left out. -/
def toFields (r : Report) : Json.Fields :=
  [("success", .bool r.success), ("fixType", nullable r.fixType), ("confidence", .num r.confidence)] ++
    Edit.textField "method" r.method ++
    (if r.method = some byTemplate then [("autoFixable", .bool r.autoFixable)] else []) ++
    Edit.textField "fix" r.fix ++ Edit.textField "description" r.description ++
    Edit.textField "explanation" r.explanation ++ Edit.textField "reason" r.reason ++
    Edit.textField "rawResponse" r.rawResponse ++ Edit.textField "suggestion" r.suggestion ++
    (if r.success || !r.edits.isEmpty then [("changes", .arr (r.edits.map Edit.toJson))] else []) ++
    (if r.warnings.isEmpty then [] else [("warnings", .arr (r.warnings.map .str))]) ++
    (if r.hints.isEmpty then [] else [("suggestions", .arr (r.hints.map Hint.toJson))]) ++
    match r.provenance with
    | some p => [("metadata", p.toJson)]
    | none => []

def toJson (r : Report) : Json := .obj r.toFields

end Report

end Mend
