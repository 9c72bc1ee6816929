import Mend.Model.Settings.Field

/-!
The settings of an assistant. Settings are read from named values: every field that is missing has
a default, every field that does not fit is reported, in the order of the fields, and then every
name that is none of them, in the order given.
-/

namespace Mend

structure Settings where
  enabled : Bool := false
  vendor : String := "anthropic"
  model : Option String := none
  /-- The environment variable that holds the key. -/
  keyName : Option String := none
  maxTokens : Int := 2000
  maxRetries : Int := 3
  /-- Seconds for one attempt. -/
  timeout : Binary64 := .ofRatio false 30 1
  baseDelay : Binary64 := .one
  maxRelatedFiles : Int := 3
  maxDependencies : Int := 10
  maxParallel : Int := 5
  deriving DecidableEq, Repr

namespace Settings

structure Problem where
  field : String
  cause : Cause

def names : List String :=
  ["enabled", "provider", "model", "api_key_env", "max_tokens", "max_retries", "api_timeout",
    "retry_base_delay", "max_related_files", "max_dependencies", "max_parallel_calls"]

def take (fs : Json.Fields) (name : String) (read : Json → Except Cause α) (default : α) :
    List Problem × α :=
  match Json.Fields.get? fs name with
  | none => ([], default)
  | some v =>
    match read v with
    | .ok a => ([], a)
    | .error c => ([⟨name, c⟩], default)

def vendors : List String := ["anthropic", "openai"]

def strangers (fs : Json.Fields) : List Problem :=
  (fs.filter fun f => !names.contains f.1).map fun f => ⟨f.1, .unknownName⟩

def read (fs : Json.Fields) : Except (List Problem) Settings :=
  let (p₁, enabled) := take fs "enabled" Field.truth false
  let (p₂, vendor) := take fs "provider" (Field.oneOf vendors) "anthropic"
  let (p₃, model) := take fs "model" Field.text none
  let (p₄, keyName) := take fs "api_key_env" Field.text none
  let (p₅, maxTokens) := take fs "max_tokens" (Field.wholeFrom 1) 2000
  let (p₆, maxRetries) := take fs "max_retries" (Field.wholeWithin 0 10) 3
  let (p₇, timeout) := take fs "api_timeout" (Field.realAbove 0) (.ofRatio false 30 1)
  let (p₈, baseDelay) := take fs "retry_base_delay" (Field.realFrom 0) .one
  let (p₉, maxRelatedFiles) := take fs "max_related_files" (Field.wholeWithin 0 20) 3
  let (p₁₀, maxDependencies) := take fs "max_dependencies" (Field.wholeWithin 0 100) 10
  let (p₁₁, maxParallel) := take fs "max_parallel_calls" (Field.wholeWithin 1 20) 5
  match p₁ ++ p₂ ++ p₃ ++ p₄ ++ p₅ ++ p₆ ++ p₇ ++ p₈ ++ p₉ ++ p₁₀ ++ p₁₁ ++ strangers fs with
  | [] =>
    .ok ⟨enabled, vendor, model, keyName, maxTokens, maxRetries, timeout, baseDelay,
      maxRelatedFiles, maxDependencies, maxParallel⟩
  | ps => .error ps

def nullable (v : Option String) : Json :=
  match v with
  | some s => .str s
  | none => .null

def toFields (s : Settings) : Json.Fields :=
  [("enabled", .bool s.enabled), ("provider", .str s.vendor), ("model", nullable s.model),
    ("api_key_env", nullable s.keyName), ("max_tokens", .num (.int s.maxTokens)),
    ("max_retries", .num (.int s.maxRetries)), ("api_timeout", .num (.real s.timeout)),
    ("retry_base_delay", .num (.real s.baseDelay)),
    ("max_related_files", .num (.int s.maxRelatedFiles)),
    ("max_dependencies", .num (.int s.maxDependencies)),
    ("max_parallel_calls", .num (.int s.maxParallel))]

/-- A name that is no field's and may be used freely. -/
def isPrivate (name : String) : Bool := name.toList.head? == some '_'

/-- Puts a value, unchecked, into a field. -/
def assign (fs : Json.Fields) (name : String) (v : Json) : Option Json.Fields :=
  if names.contains name then some (fs.put name v)
  else if isPrivate name then some fs
  else none

end Settings

end Mend
