import Mend.Diagnostic
import Mend.Pattern.Search
import Mend.Strategy.Attempt
import Mend.Strategy.Brackets
import Mend.Text.Lines

/-!
Unreachable code: the lines from the reported one up to the first blank line outside braces opened
on the way, which stays, or the first line that ends the flow of control, which goes.
-/

namespace Mend.Strategy.Unreachable

def ending : Pattern :=
  .all [.boundary, .any [.word "return", .word "throw", .word "break"], .boundary]

def isBlankLine (line : Line) : Bool := (Text.trim line).isEmpty

/-- How many lines go, `depth` braces being open before them; none if no line stops the search. -/
def extent? (depth : Int) : List Line → Option Nat
  | [] => none
  | l :: ls =>
    let depth := depth + Brackets.balance l
    if depth ≤ 0 ∧ isBlankLine l then some 0
    else if ending.found l then some 1
    else (extent? depth ls).map (· + 1)

def reason : String := "Could not safely identify unreachable code boundaries"

def attempt (d : Diagnostic) (content : String) : Attempt :=
  let lines := Lines.ofText content
  match Lines.index? d.line lines with
  | none => .decline reason
  | some i =>
    match extent? 0 (lines.drop i) with
    | none => .decline reason
    | some 0 => .decline reason
    | some n =>
      .fixed (Lines.toText (lines.take i ++ lines.drop (i + n))) "Removed unreachable code"
        [{ kind := .delete, line := some (i + 1), endLine := some (i + n),
           text := some "unreachable code block" }]

end Mend.Strategy.Unreachable
