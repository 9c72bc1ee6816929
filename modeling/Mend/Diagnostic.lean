import Mend.Json.Basic
import Mend.Text.Lowercase
import Mend.Text.Trim

namespace Mend

inductive Category
  | grammar
  | typing
  | importing
  | unused
  | scope
  | style
  | react
  deriving DecidableEq, Repr

namespace Category

def name : Category → String
  | grammar => "syntax"
  | typing => "type"
  | importing => "import"
  | unused => "unused"
  | scope => "scope"
  | style => "style"
  | react => "react"

def list : List Category := [grammar, typing, importing, unused, scope, style, react]

theorem name_injective {c d : Category} (h : c.name = d.name) : c = d := by
  cases c <;> cases d <;> simp_all [name]

def ofName? (s : String) : Option Category := list.find? (·.name == s)

end Category

inductive Severity
  | critical
  | high
  | medium
  | low
  | info
  deriving DecidableEq, Repr

namespace Severity

def name : Severity → String
  | critical => "critical"
  | high => "high"
  | medium => "medium"
  | low => "low"
  | info => "info"

def list : List Severity := [critical, high, medium, low, info]

def aliases : List (String × Severity) :=
  [("error", high), ("fatal", critical), ("warning", medium), ("warn", medium), ("note", info),
   ("hint", info)]

def ofName? (s : String) : Option Severity :=
  (aliases.lookup s).or (list.find? (·.name == s))

end Severity

inductive NameError
  | category (value : Json)
  | severity (value : Json)

def NameError.message : NameError → String
  | category v =>
    s!"Unknown error type: {v.shown}. Supported types: " ++
      ", ".intercalate (Category.list.map Category.name)
  | severity v => s!"Unknown severity level: {v.shown}"

def nameText (v : Json) : String := Text.lower (Text.trimmed v.text)

def Category.read (v : Json) : Except NameError Category :=
  match ofName? (nameText v) with
  | some c => .ok c
  | none => .error (.category v)

def Severity.read (v : Json) : Except NameError Severity :=
  match ofName? (nameText v) with
  | some s => .ok s
  | none => .error (.severity v)

/-- The category of a diagnostic, or the name that was given instead of one. -/
inductive Bucket
  | known (c : Category)
  | other (name : String)
  deriving DecidableEq, Repr

namespace Bucket

def name : Bucket → String
  | known c => c.name
  | other n => n

def category? : Bucket → Option Category
  | known c => some c
  | other _ => none

def ofJson (v : Json) : Bucket :=
  match Category.read v with
  | .ok c => known c
  | .error _ => other (nameText v)

end Bucket

structure Diagnostic where
  bucket : Bucket
  message : Option String
  file : String
  /-- Counted from one; zero when unknown. -/
  line : Int
  severity : Severity
  column : Int
  code : String

namespace Diagnostic

/-- The message for matching; a missing one is empty. -/
def text (d : Diagnostic) : List Char := (d.message.getD "").toList

def messageText (d : Diagnostic) : String := d.message.getD "None"

def category? (d : Diagnostic) : Option Category := d.bucket.category?

/-- File and line, or the file alone when the line is unknown. -/
def location (d : Diagnostic) : String :=
  if d.line = 0 then d.file else d.file ++ ":" ++ (Number.int d.line).text

/-- A severity that names nothing counts as medium. -/
def severityOf (v : Json) : Severity :=
  match Severity.read v with
  | .ok s => s
  | .error _ => .medium

end Diagnostic

structure RelatedFile where
  path : String
  content : String
  deriving DecidableEq, Repr

structure ProjectInfo where
  language : Option String
  runtime : Option String
  conventions : Option String
  deriving DecidableEq, Repr

structure Context where
  filePath : String
  fileContent : String
  relatedFiles : List RelatedFile
  project : ProjectInfo
  framework : Option String
  dependencies : List String
  deriving DecidableEq, Repr

namespace Context

def ofFile (path content : String) : Context :=
  ⟨path, content, [], ⟨none, none, none⟩, none, []⟩

end Context

end Mend
