import Mend.Catalog.Basic
import Mend.Model.Price
import Mend.Report
import Mend.Screen.Markup
import Mend.Screen.Panel
import Mend.Screen.Table

/-!
What reports and catalogs look like on the screen: a report is a panel whose frame tells how it
went, a catalog a table.
-/

namespace Mend.View

inductive Fault
  | noMessage
  /-- A number beyond the range of doubles. -/
  | outOfRange
  | markup (p : Markup.Problem)
  deriving DecidableEq, Repr

def Fault.message : Fault → String
  | noMessage => "expected string or bytes-like object, got 'NoneType'"
  | outOfRange => "int too large to convert to float"
  | markup p => p.message

inductive Item
  | text (markup : String)
  /-- Text in a frame of its own. -/
  | framed (markup : String)
  deriving DecidableEq, Repr

def styled (name text : String) : String := "[" ++ name ++ "]" ++ text ++ "[/" ++ name ++ "]"

def firstLine (s : String) : String := .ofList (s.toList.takeWhile (!Text.isLineEnd ·))

def firstFilled (texts : List (Option String)) : Option String :=
  (texts.filterMap id).find? (· != "")

def intText (n : Int) : String := (Number.int n).text

def spanText (e : Edit) : String :=
  match e.span? with
  | none => ""
  | some (a, b) =>
    if a = b then "line " ++ intText a else "lines " ++ intText a ++ "-" ++ intText b

def editText (e : Edit) : String :=
  let detail := ((firstFilled [e.description, e.text, e.newCode]).map firstLine).getD ""
  let parts := [e.kind.name, spanText e, detail].filter (· != "")
  " · ".intercalate (parts.map Markup.escaped)

def fixed (places : Nat) (n : Number) : Except Fault String :=
  match n.toReal? with
  | some x => .ok (Decimal.fixedText places x)
  | none => .error .outOfRange

def headline (d : Diagnostic) : Except Fault Item :=
  let place := if d.location = "" then "<unknown>" else d.location
  match d.message with
  | some m => .ok (.text (styled "dim" (Markup.escaped place) ++ "  " ++ Markup.escaped m))
  | none => .error .noMessage

def successItems (r : Report) : Except Fault (List Item) := do
  let method := (firstFilled [r.method]).getD Report.byTemplate
  let line := styled "green" "Fixed" ++ " via " ++ styled "bold" (Markup.escaped method) ++ " " ++
    styled "dim" ("(confidence " ++ (← fixed 2 r.confidence) ++ ")")
  let summary := firstFilled [r.description, r.explanation]
  return .text line :: (summary.map fun s => .text (styled "cyan" (Markup.escaped s))).toList

def labelled (color label text : String) : Item :=
  .text (styled color label ++ " " ++ Markup.escaped text)

def failureItems (r : Report) : List Item :=
  labelled "red" "Not fixed:" ((firstFilled [r.reason]).getD "unknown") ::
    ((firstFilled [r.suggestion]).map (labelled "yellow" "Suggestion:")).toList ++
    r.hints.map fun h => labelled "dim" "Hint:" h.description

def outcomeItems (r : Report) : Except Fault (List Item) :=
  if r.success then successItems r else .ok (failureItems r)

def editItem (e : Edit) : Item := .text ("  " ++ styled "dim" "-" ++ " " ++ editText e)

def costItems (r : Report) : Except Fault (List Item) :=
  match r.provenance with
  | none => .ok []
  | some p =>
    if Number.lt 0 p.cost then
      match Price.text p.cost with
      | some cost =>
        .ok [.text (styled "dim" (Markup.escaped p.model ++ "  " ++
          intText (p.inputTokens + p.outputTokens) ++ " tokens, est. " ++ cost))]
      | none => .error .outOfRange
    else .ok []

def fixItems (r : Report) : List Item :=
  ((firstFilled [r.fix]).map fun s => Item.framed (Markup.escaped s)).toList

def items (d : Diagnostic) (r : Report) (showFix showCost : Bool) : Except Fault (List Item) := do
  let head ← headline d
  let outcome ← outcomeItems r
  let cost ← if showCost then costItems r else .ok []
  return head :: outcome ++ r.edits.map editItem ++ r.warnings.map (labelled "yellow" "Warning:") ++
    cost ++ if showFix then fixItems r else []

def marked (markup : String) : Except Fault Markup.Marked :=
  (Markup.read markup.toList).mapError .markup

def styledText (m : Markup.Marked) : Except Fault StyledText := m.styled.mapError .markup

def readText (markup : String) : Except Fault StyledText := do styledText (← marked markup)

def Item.lines (width : Nat) : Item → Except Fault (List Runs)
  | .text m => do return ((← readText m).wrap .fold width).map (·.runs)
  | .framed m => do
    return Panel.frame (.ofAttribute .dim) width none
      (((← readText m).wrap .fold (width - Panel.frameWidth)).map (·.runs))

/-- Green for a repair that may be applied, yellow for one to be reviewed, red for a failure. -/
def borderColor (r : Report) : Color :=
  if r.success then (if r.autoFixable then .green else .yellow) else .red

def title (d : Diagnostic) (r : Report) : String :=
  styled "bold" (Markup.escaped ((firstFilled [r.fixType]).getD d.bucket.name))

def report (d : Diagnostic) (r : Report) (showFix showCost : Bool) : Except Fault String := do
  let parts ← items d r showFix showCost
  let inside ← parts.mapM (Item.lines (Panel.screenWidth - Panel.frameWidth))
  return Runs.text Panel.screenWidth (Panel.frame (.ofColor (borderColor r)) Panel.screenWidth
    (some (← readText (title d r))) inside.flatten)

def column (header : String) (style : Style) (a : Table.Alignment) (cells : List StyledText) :
    Table.Column := ⟨header, style, a, cells⟩

def catalog (ts : List Template) : Except Fault String := do
  let confidences ← ts.mapM fun t => fixed 2 t.confidence
  let names ← (← ts.mapM fun t => marked t.name).mapM styledText
  let table : Table := ⟨"Fix templates",
    [column "Type" (.ofColor .cyan) .left (ts.map fun t => .ofString t.category.name),
      column "Template" (.ofAttribute .bold) .left names,
      column "Confidence" .none .right (confidences.map .ofString),
      column "Auto-fixable" .none .center
        (ts.map fun t => .ofString (if t.autoFixable then "yes" else "no"))]⟩
  return Runs.text Panel.screenWidth (table.lines Panel.screenWidth)

end Mend.View
