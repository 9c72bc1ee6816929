import Mend.Diagnostic
import Mend.Strategy.Attempt
import Mend.Text.Lines
import Mend.Text.Search

namespace Mend.Strategy.Terminator

def closedEndings : List (List Char) := [[';'], [','], ['{'], ['}']]

def commentOpenings : List (List Char) := [['/', '/'], ['/', '*']]

/-- Words of statements that are taken to be complete. -/
def controlWords : List (List Char) :=
  ["return ", "throw ", "break", "continue"].map String.toList

/-- A line that may take the terminator, judged without the blanks around it. -/
def isOpen (mark : List Char) (line : Line) : Bool :=
  let body := Text.trim line
  !body.isEmpty && !(mark :: closedEndings).any (·.isSuffixOf body) &&
    !commentOpenings.any (·.isPrefixOf body) && !controlWords.any (Text.occurs · body)

def reason : String := "Could not safely add semicolon"

def attempt (mark : String) (d : Diagnostic) (content : String) : Attempt :=
  let lines := Lines.ofText content
  match Lines.index? d.line lines with
  | none => .decline reason
  | some i =>
    let line := lines.getD i []
    if isOpen mark.toList line then
      .fixed (Lines.toText (lines.set i (line ++ mark.toList))) "Added missing semicolon"
        [{ kind := .insert, line := d.line, column := some line.length, text := mark }]
    else .decline reason

end Mend.Strategy.Terminator
