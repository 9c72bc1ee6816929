import Mend.Diagnostic
import Mend.FileTree
import Mend.Pattern.Basic
import Mend.Strategy.Attempt
import Mend.Text.Lines

/-!
Modules imported without a file extension. The module is picked out of the message; when it is
relative and a file beside the importing one bears its name with one of the extensions, every
quoted mention of it is rewritten.
-/

namespace Mend.Strategy.Extension

def quote : Pattern := .one (.among ['\'', '"'])

def moduleMessage : Capture := ⟨.seq (.phrase "cannot find module ") quote, quote⟩

def isRelative (module : List Char) : Bool :=
  ['.', '/'].isPrefixOf module || ['.', '.', '/'].isPrefixOf module

def candidate (base : Path) (module ext : String) : String :=
  (base.join (.ofString (module ++ ext))).text

/-- The first extension for which the directory holds the file. -/
def resolve (tree : FileTree) (base : Path) (module : String) :
    List String → Except Fault (Option String)
  | [] => .ok none
  | ext :: rest =>
    let path := candidate base module ext
    match tree.look path with
    | .file _ => .ok (some ext)
    | .nameTooLong => .error (.nameTooLong path)
    | _ => resolve tree base module rest

def isQuote (c : Char) : Bool := c == '\'' || c == '"'

/-- The text behind a quoted mention of the module, with the mention, at the start of a text. -/
def mention? (module : List Char) : List Char → Option (List Char × List Char)
  | [] => none
  | c :: cs =>
    if isQuote c && module.isPrefixOf cs then
      match cs.drop module.length with
      | q :: rest => if isQuote q then some (c :: module ++ [q], rest) else none
      | [] => none
    else none

/-- Replaces the mentions from left to right, each one beginning behind the one before. -/
def renameAll (module : List Char) (pieces : List Pattern.Piece) :
    (fuel : Nat) → List Char → List Char
  | 0, cs => cs
  | _, [] => []
  | fuel + 1, c :: cs =>
    match mention? module (c :: cs) with
    | some (m, rest) => Pattern.Piece.fill pieces m ++ renameAll module pieces fuel rest
    | none => c :: renameAll module pieces fuel cs

def renameLine (module : List Char) (pieces : List Pattern.Piece) (line : Line) : Line :=
  renameAll module pieces line.length line

def editsFrom (module : List Char) (pieces : List Pattern.Piece) (description : String) (i : Nat) :
    List Line → List Edit
  | [] => []
  | l :: ls =>
    let new := renameLine module pieces l
    let rest := editsFrom module pieces description (i + 1) ls
    if new = l then rest
    else
      { kind := .modify, line := some (i + 1), oldCode := some (.ofList l),
        newCode := some (.ofList new), description := description } :: rest

def unresolved : String := "Cannot automatically resolve module path"

def sourceFile (d : Diagnostic) (context : Option Context) : String :=
  if d.file = "" then (context.map (·.filePath)).getD "" else d.file

def probes (extensions : List String) (d : Diagnostic) (context : Option Context) : List String :=
  match moduleMessage.name? d.text with
  | none => []
  | some module =>
    extensions.map (candidate (Path.ofString (sourceFile d context)).parent (.ofList module))

def attempt (extensions : List String) (tree : FileTree) (d : Diagnostic) (content : String)
    (context : Option Context) : Except Fault Attempt := do
  match moduleMessage.name? d.text with
  | none => return .decline "Could not extract module name"
  | some module =>
    let source := sourceFile d context
    let shown := String.ofList module
    if !isRelative module || source = "" then return .decline unresolved
    match ← resolve tree (Path.ofString source).parent shown extensions with
    | none => return .decline unresolved
    | some ext =>
      let replacement := s!"'{shown}{ext}'"
      match Pattern.Piece.read replacement.toList with
      | .error e => throw (.replacement e replacement)
      | .ok pieces =>
        let lines := Lines.ofText content
        let edits := editsFrom module pieces s!"Changed '{shown}' to '{shown}{ext}'" 0 lines
        if edits.isEmpty then return .decline s!"Could not locate import of '{shown}'"
        return .fixed (Lines.toText (lines.map (renameLine module pieces)))
          s!"Added {ext} extension to import" edits

end Mend.Strategy.Extension
