import Mend.Json.Basic
import Mend.Model.Provider
import Mend.Text.Lowercase

namespace Mend

inductive Vendor
  | anthropic
  | openai
  deriving DecidableEq, Repr

namespace Vendor

def name : Vendor → String
  | anthropic => "anthropic"
  | openai => "openai"

def label : Vendor → String
  | anthropic => "Anthropic"
  | openai => "OpenAI"

def list : List Vendor := [anthropic, openai]

def ofName? (s : String) : Option Vendor := list.find? (·.name == s)

def defaultModel : Vendor → String
  | anthropic => "claude-sonnet-4-6"
  | openai => "gpt-4o"

def defaultKeyName : Vendor → String
  | anthropic => "ANTHROPIC_API_KEY"
  | openai => "OPENAI_API_KEY"

def missing (v : Vendor) : Failure :=
  ⟨.unavailable,
    s!"{v.label} provider requires the '{v.name}' package. Install with: pip install 'remedy[ai]'"⟩

inductive ChoiceError
  | notText (kind : String)
  | unknown (name : String)

def ChoiceError.message : ChoiceError → String
  | notText kind => s!"'{kind}' object has no attribute 'lower'"
  | unknown name =>
    s!"Unknown AI provider: '{name}'. Supported providers: " ++
      ", ".intercalate (list.map Vendor.name)

def choose (v : Json) : Except ChoiceError Vendor :=
  match v with
  | .str s =>
    match ofName? (Text.lower s) with
    | some w => .ok w
    | none => .error (.unknown (Text.lower s))
  | _ => .error (.notText v.kindName)

end Vendor

abbrev Environment := List (String × String)

def Environment.key (env : Environment) (name : String) : Except Failure String :=
  match env.lookup name with
  | some k => if k = "" then .error (missing name) else .ok k
  | none => .error (missing name)
where
  missing (name : String) : Failure :=
    ⟨.authentication, s!"No API key found. Set the {name} environment variable."⟩

namespace Availability

def isInstalled (installed : List String) (vendor : String) : Bool :=
  (Vendor.ofName? vendor).isSome && installed.contains vendor

def anyInstalled (installed : List String) : Bool :=
  Vendor.list.any fun v => isInstalled installed v.name

/-- What is missing for a vendor, or for any vendor when none is named; `none` if nothing is. -/
def complaint? (installed : List String) (vendor : Option String) : Option String :=
  match vendor.filter (· != "") with
  | some v =>
    if isInstalled installed v then none
    else some s!"AI fixes require the '{v}' package. Install with: pip install 'remedy[ai]'"
  | none =>
    if anyInstalled installed then none
    else some "AI fixes require remedy[ai]. Install with: pip install 'remedy[ai]'"

end Availability

end Mend
