import Mend.Strategy.Attempt
import Mend.Text.Lines

/-!
Unbalanced braces. The braces of the file are counted line by line, wherever they stand; the first
line after which more were closed than opened gets an opening brace before it, and a file that
closes too few gets a closing brace at its end.
-/

namespace Mend.Strategy.Brackets

def balance (cs : List Char) : Int := (cs.count '{' : Int) - cs.count '}'

def total : List Line → Int
  | [] => 0
  | l :: ls => balance l + total ls

/-- The first line after which the count, `before` at the start, is negative. -/
def firstNegative? (before : Int) : List Line → Option Nat
  | [] => none
  | l :: ls =>
    if before + balance l < 0 then some 0 else (firstNegative? (before + balance l) ls).map (· + 1)

def openingLine : Line := [' ', ' ', '{']

def closingLine : Line := ['}']

def insertion (line : Nat) (text : Line) : Edit :=
  { kind := .insert, line := some line, column := some 1, text := some (.ofList text) }

/-- The closing brace goes after the last line, before a final empty one. -/
def close (lines : List Line) : List Line × Nat :=
  match lines.getLast? with
  | some [] => (lines.dropLast ++ [closingLine, []], lines.length)
  | _ => (lines ++ [closingLine], lines.length + 1)

-- Parentheses and square brackets are not counted here: no answer depends on how many there are.
def attempt (content : String) : Attempt :=
  let lines := Lines.ofText content
  match firstNegative? 0 lines with
  | some i =>
    .fixed (Lines.toText (lines.take i ++ openingLine :: lines.drop i))
      "Added missing opening brace" [insertion (i + 1) openingLine]
  | none =>
    if 0 < total lines then
      let (closed, line) := close lines
      .fixed (Lines.toText closed) "Added missing closing brace" [insertion line closingLine]
    else .decline "Could not determine bracket issue location"

end Mend.Strategy.Brackets
