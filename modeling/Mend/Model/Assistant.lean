import Mend.Model.Prompt
import Mend.Model.Proposal
import Mend.Model.Retry
import Mend.Model.Settings
import Mend.Model.Account

namespace Mend

structure Assistant (σ : Type) where
  provider : Provider σ
  settings : Settings

structure Exchange where
  outcome : Except Reply.Fault Proposal
  events : List Retry.Event

def Exchange.calls (e : Exchange) : Nat := Retry.calls e.events

def Exchange.waits (e : Exchange) : List Number := Retry.waits e.events

namespace Assistant

def ofVendor (env : Environment) (reply : Account.Request → Account.Answer) (s : Settings) :
    Assistant Account.Client :=
  let vendor := (Vendor.ofName? s.vendor).getD .anthropic
  ⟨(Account.make vendor s.model s.keyName s.maxTokens).provider env reply, s⟩

def policy (a : Assistant σ) : Retry.Policy :=
  ⟨a.settings.maxRetries, .real a.settings.timeout, .real a.settings.baseDelay⟩

def call (a : Assistant σ) (d : Diagnostic) (c : Context) : Call where
  prompt := Prompt.text d c a.settings.maxRelatedFiles a.settings.maxDependencies
  system := some Prompt.system
  maxTokens := a.settings.maxTokens
  timeout := .real a.settings.timeout

/-- A completion that names no model or provider comes from the assistant's own. -/
def signed (a : Assistant σ) (c : Completion) : Completion :=
  { c with
    model := if c.model = "" then a.provider.modelName else c.model
    provider := if c.provider = "" then a.provider.name else c.provider }

def conclude (a : Assistant σ) (now : String) (d : Diagnostic) :
    Except Retry.Stop Completion → Except Reply.Fault Proposal
  | .ok c => Proposal.ofCompletion now d (a.signed c)
  | .error (.failure f) => .ok (.failed s!"AI fix generation failed: {f.message}" none)
  | .error .outOfRange => .error .outOfRange

def ask (a : Assistant σ) (now : String) (d : Diagnostic) (c : Context) (s : σ) : Exchange × σ :=
  let (t, s) := Retry.run a.policy (a.provider.complete (a.call d c)) s
  (⟨a.conclude now d t.outcome, t.events⟩, s)

end Assistant

end Mend
