import Mend.Strategy.Attempt
import Mend.Text.Lines
import Mend.Text.Trim

namespace Mend.Strategy.Blanks

/-- A line without its one final carriage return, and that carriage return. -/
def body (line : Line) : Line × Line :=
  if line.getLast? = some '\r' then (line.dropLast, ['\r']) else (line, [])

def clean (line : Line) : Line := Text.trimRight (body line).1 ++ (body line).2

/-- The edit of a line at a place counted from zero, if it has trailing blanks. -/
def edit? (i : Nat) (line : Line) : Option Edit :=
  let b := (body line).1
  let kept := Text.trimRight b
  if kept = b then none
  else
    some { kind := .cleanup, line := some (i + 1), column := some kept.length,
           text := some (.ofList (b.drop kept.length)),
           description := some "Removed trailing whitespace" }

def editsFrom (i : Nat) : List Line → List Edit
  | [] => []
  | l :: ls => (edit? i l).toList ++ editsFrom (i + 1) ls

def attempt (content : String) : Attempt :=
  let lines := Lines.ofText content
  let edits := editsFrom 0 lines
  if edits.isEmpty then .decline "No trailing whitespace found"
  else
    let plural := if edits.length = 1 then "" else "s"
    .fixed (Lines.toText (lines.map clean))
      s!"Removed trailing whitespace from {edits.length} line{plural}" edits

end Mend.Strategy.Blanks
