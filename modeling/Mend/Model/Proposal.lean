import Mend.Model.Provider
import Mend.Model.Reply

namespace Mend

inductive Proposal
  | repaired (fix explanation : String) (confidence : Number) (edits : List Edit)
      (warnings : List String) (provenance : Provenance)
  /-- With the reply, if one was received. -/
  | failed (reason : String) (reply : Option String)
  deriving DecidableEq, Repr

namespace Proposal

def isRepair : Proposal → Bool
  | repaired .. => true
  | failed .. => false

def fix? : Proposal → Option String
  | repaired fix .. => some fix
  | failed .. => none

def explanation? : Proposal → Option String
  | repaired _ explanation .. => some explanation
  | failed .. => none

def confidence : Proposal → Number
  | repaired _ _ confidence .. => confidence
  | failed .. => .real .zero

def edits : Proposal → List Edit
  | repaired _ _ _ edits .. => edits
  | failed .. => []

def warnings : Proposal → List String
  | repaired _ _ _ _ warnings _ => warnings
  | failed .. => []

def provenance? : Proposal → Option Provenance
  | repaired _ _ _ _ _ provenance => some provenance
  | failed .. => none

def reason? : Proposal → Option String
  | repaired .. => none
  | failed reason _ => some reason

def reply? : Proposal → Option String
  | repaired .. => none
  | failed _ reply => reply

def provenance (now : String) (d : Diagnostic) (c : Completion) (es : List Edit) : Provenance where
  model := c.model
  errorType := d.bucket.name
  complexity := Complexity.assess es
  timestamp := now
  generated := true
  provider := c.provider
  inputTokens := c.inputTokens
  outputTokens := c.outputTokens
  cost := c.cost

def ofPayload (now : String) (d : Diagnostic) (c : Completion) (p : Reply.Payload) :
    Except Reply.Fault Proposal := do
  let confidence ← Reply.clamp (Reply.value p.fields "confidence") Reply.defaultConfidence
  let es := Reply.edits (Reply.value p.fields "changes")
  return .repaired p.fix p.explanation confidence es
    (Reply.warnings (Reply.value p.fields "warnings")) (provenance now d c es)

def ofCompletion (now : String) (d : Diagnostic) (c : Completion) : Except Reply.Fault Proposal :=
  match Reply.payload c.content with
  | .error f => .error f
  | .ok (.error p) =>
    .ok (.failed s!"Failed to parse AI response: {p.message}" (some c.content))
  | .ok (.ok p) => ofPayload now d c p

/-- A proposal as a report; failures carry no confidence. -/
def report : Proposal → Report
  | repaired fix explanation confidence edits warnings provenance =>
    { success := true, fixType := some Report.byModel, method := some Report.byModel, fix := fix,
      explanation := explanation, edits := edits, warnings := warnings, confidence := confidence,
      provenance := provenance }
  | failed reason reply =>
    { success := false, fixType := some Report.byModel, method := some Report.byModel,
      reason := reason, rawResponse := reply }

end Proposal

end Mend
