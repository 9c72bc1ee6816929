import Mend.Diagnostic
import Mend.Pattern.Basic
import Mend.Pattern.Search
import Mend.Strategy.Attempt
import Mend.Text.Lines

namespace Mend.Strategy.Unused

def quotes : List Char := ['\'', '"', '\x60']

def quote : Pattern := .one (.among quotes)

def quotedBefore (open_ close : Pattern) (phrase : String) : Capture :=
  ⟨open_, .seq close (.phrase phrase)⟩

def after (phrase : String) : Capture :=
  ⟨.all [.phrase phrase, .optional (.one (.only ':')), .someBlanks], .ending⟩

def variableMessages : List Capture :=
  [quotedBefore (.word "'") (.word "'") " is defined but never used",
   quotedBefore (.word "\"") (.word "\"") " is defined but never used",
   quotedBefore quote quote " is assigned a value but never used",
   after "unused variable"]

def importMessages : List Capture :=
  [quotedBefore quote quote " is imported but never used",
   quotedBefore quote quote " is defined but never used",
   after "unused import"]

def nameIn? (messages : List Capture) (message : List Char) : Option (List Char) :=
  match Capture.firstName? messages message with
  | none => none
  | some n =>
    match Text.stripChars quotes n with
    | [] => none
    | n => some n

/-- `const`, `let` or `var`, blanks, and the name, as a word begins. -/
def bindingOf (name : List Char) : Pattern :=
  .all [.boundary, .any [.word "const", .word "let", .word "var"], .someBlanks, .exactly name]

def functionOf (name : List Char) : Pattern :=
  .all [.word "function", .someBlanks, .exactly name, .blanks, .one (.only '(')]

/-- The ways to declare a name: with a value, without one, as a function, as an async function. -/
def declarations (name : List Char) : List Pattern :=
  [.all [bindingOf name, .blanks, .one (.only '=')],
   .all [bindingOf name, .blanks, .one (.only ';')],
   .seq .boundary (functionOf name),
   .all [.boundary, .word "async", .someBlanks, functionOf name]]

def declares (name : List Char) (line : Line) : Bool :=
  (declarations name).any (·.found line)

/-- The places to look at: the reported line, then `window` lines above it and one fewer below. -/
def candidates (window : Int) (line : Int) (count : Nat) : List Nat :=
  let here := line - 1
  let near := (List.range count).filter fun (i : Nat) =>
    here - window ≤ (i : Int) && (i : Int) < here + window && (i : Int) != here
  (if 0 ≤ here ∧ here < count then [here.toNat] else []) ++ near

def deletion (i : Nat) (line : Line) : Edit :=
  { kind := .delete, line := some (i + 1), text := some (.ofList line) }

def variableAttempt (window : Int) (d : Diagnostic) (content : String) : Attempt :=
  match nameIn? variableMessages d.text with
  | none => .decline "Could not extract variable name from error message"
  | some name =>
    let lines := Lines.ofText content
    let shown := String.ofList name
    match (candidates window d.line lines.length).find? fun i =>
        declares name (Text.trim (lines.getD i [])) with
    | some i =>
      .fixed (Lines.toText (lines.eraseIdx i)) s!"Removed unused variable '{shown}'"
        [deletion i (lines.getD i [])]
    | none => .decline s!"Could not locate unused variable '{shown}' declaration"

def importLine : Pattern :=
  .any [
    .all [.beginning, .blanks, .any [
      .seq (.word "import") .boundary,
      .seq (.word "from") .boundary,
      .all [.word "export", .boundary, .gap, .boundary, .word "from", .boundary]]],
    .all [.boundary, .word "require", .blanks, .one (.only '(')]]

def mentions (name : List Char) : List Pattern :=
  [.all [.boundary, .word "import", .someBlanks, .exactly name, .boundary],
   .all [.one (.only ','), .blanks, .exactly name, .boundary],
   .all [.one (.only '{'), .blanks, .exactly name, .boundary]]

def importsName (name : List Char) (line : Line) : Bool :=
  importLine.found line && (mentions name).any (·.found line)

def importAttempt (d : Diagnostic) (content : String) : Attempt :=
  match nameIn? importMessages d.text with
  | none => .decline "Could not extract import name"
  | some name =>
    let lines := Lines.ofText content
    let shown := String.ofList name
    match (List.range lines.length).find? fun i => importsName name (lines.getD i []) with
    | some i =>
      .fixed (Lines.toText (lines.eraseIdx i)) s!"Removed unused import '{shown}'"
        [deletion i (lines.getD i [])]
    | none => .decline "Could not locate unused import"

end Mend.Strategy.Unused
