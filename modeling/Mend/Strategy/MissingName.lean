import Mend.Diagnostic
import Mend.Pattern.Basic
import Mend.Strategy.Attempt
import Mend.Text.Lines

namespace Mend.Strategy.MissingName

def quote : Pattern := .one (.among ['\'', '"'])

def nameMessage : Capture := ⟨.seq (.phrase "cannot find name ") quote, quote⟩

def isImport (line : Line) : Bool := "import ".toList.isPrefixOf (Text.trim line)

def inImports (line : Line) : Bool :=
  let body := Text.trim line
  "import ".toList.isPrefixOf body || ['/', '/'].isPrefixOf body || body.isEmpty

def importsEnd? (lines : List Line) : Option Nat :=
  match lines.findIdx? isImport with
  | none => none
  | some i => ((lines.drop i).findIdx? (!inImports ·)).map (· + i)

def attempt (d : Diagnostic) (content : String) : Attempt :=
  match nameMessage.name? d.text with
  | none => .decline "Could not extract variable name"
  | some name =>
    let shown := String.ofList name
    if (importsEnd? (Lines.ofText content)).isSome then
      .declined "Import suggestion generated"
        (some ("import \x7b " ++ shown ++ " \x7d from './path-to-module';"))
        (some s!"Consider adding import for '{shown}'")
    else .decline "Cannot automatically determine fix for missing name"

end Mend.Strategy.MissingName
