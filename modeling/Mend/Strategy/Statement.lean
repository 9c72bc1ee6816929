import Mend.Diagnostic
import Mend.Pattern.Search
import Mend.Strategy.Attempt
import Mend.Text.Lines
import Mend.Text.Search

namespace Mend.Strategy.Statement

def callText : List Char := "console.".toList

def commentOut (line : Line) : Line :=
  line.takeWhile Text.isBlank ++ '/' :: '/' :: ' ' :: Text.trimLeft line

def consoleAttempt (d : Diagnostic) (content : String) : Attempt :=
  let lines := Lines.ofText content
  match Lines.index? d.line lines with
  | none => .decline "Could not locate console statement"
  | some i =>
    let line := lines.getD i []
    if Text.occurs callText line then
      .fixed (Lines.toText (lines.set i (commentOut line))) "Commented out console statement"
        [{ kind := .modify, line := d.line,
           text := some (.ofList ('/' :: '/' :: ' ' :: Text.trim line)) }]
    else .decline "Could not locate console statement"

def debuggerPattern : Pattern := .all [.boundary, .word "debugger", .boundary]

def debuggerAttempt (d : Diagnostic) (content : String) : Attempt :=
  let lines := Lines.ofText content
  match Lines.index? d.line lines with
  | none => .decline "Could not locate debugger statement"
  | some i =>
    let line := lines.getD i []
    if debuggerPattern.found line then
      .fixed (Lines.toText (lines.eraseIdx i)) "Removed debugger statement"
        [{ kind := .delete, line := d.line, text := some (.ofList (Text.trim line)) }]
    else .decline "Could not locate debugger statement"

end Mend.Strategy.Statement
