import Mend.Diagnostic

namespace Mend

structure Hint where
  source : String
  description : String
  /-- How useful the hint is, from zero to one. -/
  weight : Number
  action : String
  deriving DecidableEq, Repr

namespace Hint

def tenths (n : Nat) : Number := .real (.ofDecimal false n (-1))

def ofCategory? : Category → Option Hint
  | .typing =>
    some ⟨"manual", "Check TypeScript type definitions and imports", tenths 5, "manual_review"⟩
  | .grammar =>
    some ⟨"manual", "Review code syntax around the error line", tenths 7, "syntax_check"⟩
  | .importing =>
    some ⟨"manual", "Check import/export statements and file paths", tenths 8, "import_review"⟩
  | .scope =>
    some ⟨"manual", "Verify variable/function declarations and scope", tenths 6, "scope_check"⟩
  | _ => none

def ofRelated (files : List RelatedFile) : List Hint :=
  if files.isEmpty then []
  else
    [⟨"context", "Review related files: " ++ ", ".intercalate (files.map (·.path)), tenths 4,
      "check_related"⟩]

def ofFramework (framework : Option String) : List Hint :=
  match framework with
  | none => []
  | some f =>
    if f = "" then []
    else [⟨"framework", s!"Check {f} documentation and patterns", tenths 3, "framework_docs"⟩]

/-- All hints; they are listed by falling weight. -/
def list (d : Diagnostic) (context : Option Context) : List Hint :=
  (d.category?.bind ofCategory?).toList ++
    match context with
    | none => []
    | some c => ofRelated c.relatedFiles ++ ofFramework c.framework

def toJson (h : Hint) : Json :=
  .obj [("type", .str h.source), ("description", .str h.description),
    ("confidence", .num h.weight), ("action", .str h.action)]

end Hint

end Mend
