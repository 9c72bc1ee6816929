import Mend.Diagnostic
import Mend.Model.Availability

namespace Mend

inductive Parameter.Value
  | nothing
  | whole
  | text
  | oneOf (names : List String) (anyCase : Bool)
  deriving DecidableEq, Repr

structure Parameter where
  name : String
  /-- A name that takes the option back. -/
  opposite : Option String := none
  /-- A short name, for options with a value only. -/
  letter : Option Char := none
  value : Parameter.Value := .nothing
  required : Bool := false
  default : Option String := none
  help : String
  deriving DecidableEq, Repr

namespace Parameter

def Value.names : Value → List String
  | oneOf names _ => names
  | _ => []

def takesValue (p : Parameter) : Bool := p.value != .nothing

def spellings (p : Parameter) : List String := p.name :: p.opposite.toList

def shortName (c : Char) : String := .ofList ['-', c]

def hint (p : Parameter) : String :=
  " / ".intercalate ((p.spellings ++ (p.letter.map shortName).toList).map Text.quoted)

end Parameter

structure Command where
  /-- The words that call it. -/
  path : String
  /-- The words that may follow. -/
  pattern : String
  about : String
  options : List Parameter
  /-- Options may stand behind other words. -/
  mixed : Bool
  /-- The commands below it, with what they do. -/
  below : List (String × String) := []
  deriving Repr

namespace Command

def helpOption : Parameter := { name := "--help", help := "Show this message and exit." }

def versionOption : Parameter := { name := "--version", help := "Show the version and exit." }

def debugOption : Parameter := { name := "--debug", help := "Show debug logging." }

def lineOption : Parameter :=
  { name := "--line", letter := 'l', value := .whole, required := true,
    help := "1-based error line." }

def typeOption : Parameter :=
  { name := "--type", letter := 't', value := .oneOf (Category.list.map Category.name) true,
    required := true, help := "Error category." }

def messageOption : Parameter :=
  { name := "--message", letter := 'm', value := .text, required := true,
    help := "Diagnostic message." }

def severityOption : Parameter :=
  { name := "--severity", value := .oneOf (Severity.list.map Severity.name) true,
    default := Severity.medium.name, help := "Diagnostic severity." }

def modelUseOption : Parameter :=
  { name := "--ai", opposite := "--no-ai", help := "Fall back to an AI provider." }

def vendorOption : Parameter :=
  { name := "--provider", value := .oneOf (Vendor.list.map Vendor.name) false,
    default := Vendor.anthropic.name, help := "AI provider for the fallback." }

def modelOption : Parameter :=
  { name := "--model", value := .text, help := "Model identifier for the AI provider." }

def applyOption : Parameter := { name := "--apply", help := "Write a template fix back to FILE." }

def jsonOption : Parameter := { name := "--json", help := "Print the result as JSON." }

def fix : Command where
  path := "remedy fix"
  pattern := "[OPTIONS] FILE"
  about := "Propose a fix for one diagnostic in FILE."
  options := [lineOption, typeOption, messageOption, severityOption, modelUseOption, vendorOption,
    modelOption, applyOption, jsonOption, helpOption]
  mixed := true

def types : Command where
  path := "remedy types"
  pattern := "[OPTIONS]"
  about := "List the registered fix templates."
  options := [helpOption]
  mixed := true

def top : Command where
  path := "remedy"
  pattern := "[OPTIONS] COMMAND [ARGS]..."
  about := "Remedy - template and AI-assisted fixes for compiler and linter errors."
  options := [versionOption, debugOption, helpOption]
  mixed := false
  below := [("fix", fix.about), ("types", types.about)]

def version : String := "0.4.0"

def usage (c : Command) : String := s!"Usage: {c.path} {c.pattern}"

end Command

end Mend
