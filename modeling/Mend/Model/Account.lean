import Mend.Model.Availability
import Mend.Model.Price
import Mend.Text.Search

namespace Mend

structure Account where
  vendor : Vendor
  model : String
  keyName : String
  maxTokens : Int
  deriving DecidableEq, Repr

namespace Account

/-- An account; a model or a variable that is missing or empty is the vendor's default. -/
def make (v : Vendor) (model keyName : Option String) (maxTokens : Int) : Account :=
  ⟨v, given v.defaultModel model, given v.defaultKeyName keyName, maxTokens⟩
where
  given (default : String) (s : Option String) : String :=
    match s with
    | some t => if t = "" then default else t
    | none => default

structure Request where
  model : String
  maxTokens : Int
  prompt : String
  system : Option String
  timeout : Number
  deriving DecidableEq, Repr

def request (a : Account) (c : Call) : Request where
  model := a.model
  maxTokens := min c.maxTokens a.maxTokens
  prompt := c.prompt
  system := c.system.filter (· != "")
  timeout := c.timeout

def message (role text : String) : Json := .obj [("role", .str role), ("content", .str text)]

def Request.messages (r : Request) : Vendor → List Json
  | .anthropic => [message "user" r.prompt]
  | .openai => (r.system.map (message "system")).toList ++ [message "user" r.prompt]

/-- A low temperature keeps repairs of one diagnostic alike. -/
def temperature : Number := .real (.ofDecimal false 3 (-1))

/-- A request in the vendor's form: one takes the system text as a field, one as a message. -/
def Request.toJson (r : Request) (v : Vendor) : Json :=
  .obj ([("model", .str r.model), ("max_tokens", .num (.int r.maxTokens)),
    ("temperature", .num temperature), ("messages", .arr (r.messages v)),
    ("timeout", .num r.timeout)] ++
    match v, r.system with
    | .anthropic, some s => [("system", .str s)]
    | _, _ => [])

inductive Refusal
  | authentication
  | rateLimit
  | timeout
  | badRequest (code : Json)
  | other
  deriving Inhabited

def tokenLimitMarkers : List String :=
  ["context_length_exceeded", "context length", "context window", "prompt is too long",
    "maximum context", "too many tokens"]

def exceedsTokenLimit (code : Json) (message : String) : Bool :=
  let text := Text.lower ((if code.isFilled then code.text else "") ++ " " ++ message)
  tokenLimitMarkers.any (Text.hasInfix · text)

def Refusal.failure (v : Vendor) (message : String) : Refusal → Failure
  | authentication => ⟨.authentication, s!"{v.label} authentication failed: {message}"⟩
  | rateLimit => ⟨.rateLimit, s!"{v.label} rate limit exceeded: {message}"⟩
  | timeout => ⟨.timeout, s!"{v.label} request timed out: {message}"⟩
  | badRequest code =>
    if exceedsTokenLimit code message then
      ⟨.tokenLimit, s!"{v.label} request exceeds the model's token limit: {message}"⟩
    else ⟨.provider, s!"{v.label} API error: {message}"⟩
  | other => ⟨.provider, s!"{v.label} API error: {message}"⟩

inductive Answer
  /-- Texts of blocks, with the tokens read and written. -/
  | blocks (texts : List Json) (input output : Int)
  | choices (texts : List (Option String)) (usage : Option (Int × Int))
  | refused (r : Refusal) (message : String)
  | late (text : String)
  | crashed (kind text : String)

def joinBlocks (i : Nat) : List Json → Except String String
  | [] => .ok ""
  | .str s :: rest => (joinBlocks (i + 1) rest).map (s ++ ·)
  | v :: _ => .error s!"sequence item {i}: expected str instance, {v.kindName} found"

def completion (a : Account) (content : String) (input output : Int) : Turn Completion :=
  match Price.estimate? a.model input output with
  | some cost => .returned ⟨content, a.model, input, output, .real cost, a.vendor.name⟩
  | none => .crashed "OverflowError" "int too large to convert to float"

def turn (a : Account) : Answer → Turn Completion
  | .blocks texts input output =>
    match joinBlocks 0 texts with
    | .ok content => completion a content input output
    | .error text => .crashed "TypeError" text
  | .choices [] _ => .failed ⟨.provider, s!"{a.vendor.label} returned no choices"⟩
  | .choices (text :: _) usage =>
    let (input, output) := usage.getD (0, 0)
    completion a (text.getD "") input output
  | .refused r message => .failed (r.failure a.vendor message)
  | .late text => .late text
  | .crashed kind text => .crashed kind text

/-- The key with which the client was opened, once it is. -/
abbrev Client := Option String

inductive Contact
  /-- A client for a key. -/
  | opened (key : String)
  /-- An answer, from the client for a key. -/
  | sent (key : String) (r : Request)
  deriving DecidableEq, Repr

def Contact.request? : Contact → Option Request
  | opened _ => none
  | sent _ r => some r

/-- The key of the client, which is opened with the one in the environment if there is none yet. -/
def open? (a : Account) (env : Environment) : Client → Except Failure (String × List Contact)
  | some key => .ok (key, [])
  | none => (Environment.key env a.keyName).map fun key => (key, [.opened key])

structure Visit where
  turn : Turn Completion
  contacts : List Contact
  client : Client

def visit (a : Account) (env : Environment) (reply : String → Request → Answer) (c : Call)
    (client : Client) : Visit :=
  match a.open? env client with
  | .error f => ⟨.failed f, [], client⟩
  | .ok (key, contacts) =>
    ⟨a.turn (reply key (a.request c)), contacts ++ [.sent key (a.request c)], some key⟩

/-- A call, where all clients answer alike: the turn, the request if the vendor was reached, and the
client from then on. -/
def complete (a : Account) (env : Environment) (reply : Request → Answer) (c : Call)
    (client : Client) : (Turn Completion × Option Request) × Client :=
  let v := a.visit env (fun _ => reply) c client
  ((v.turn, v.contacts.findSome? Contact.request?), v.client)

def isAvailable (a : Account) (env : Environment) (installed : Bool) : Bool :=
  installed && (Environment.key env a.keyName).isOk

def provider (a : Account) (env : Environment) (reply : Request → Answer) : Provider Client where
  name := a.vendor.name
  modelName := a.model
  complete c client := ((a.complete env reply c client).1.1, (a.complete env reply c client).2)

end Account

end Mend
