import Mend.Catalog.Builtin
import Mend.Model.Assistant
import Mend.Tally

/-!
Workshops. A workshop takes requests: the template that the catalog selects is tried first, and an
assistant, if there is one, is asked when it does not help. Every request that is answered is
entered into the tally once.
-/

namespace Mend

structure Request where
  diagnostic : Diagnostic
  content : String
  context : Option Context

structure Workshop (S : Type := Strategy) where
  catalog : Catalog S
  tally : Tally

namespace Workshop

variable {S : Type}

def ofCatalog (c : Catalog S) : Workshop S := ⟨c, .empty⟩

def missReason (c : Catalog S) (d : Diagnostic) : String :=
  if d.category?.any c.covers then
    "No matching fix template found for error message: " ++ d.messageText
  else "No fix templates available for error type: " ++ d.bucket.name

def templateReport (t : Template S) (success : Bool) : Report :=
  { success := success, fixType := some t.name, method := some Report.byTemplate,
    confidence := t.confidence, autoFixable := t.autoFixable }

def attemptReport (t : Template S) : Except Strategy.Fault Attempt → Report
  | .ok (.fixed text summary edits) =>
    { templateReport t true with fix := some text, description := some summary, edits := edits }
  | .ok (.declined reason suggestion summary) =>
    { templateReport t false with
      description := summary
      reason := some (if reason = "" then "Fix generation failed" else reason)
      suggestion := suggestion }
  | .error f =>
    { templateReport t false with reason := some ("Fix generation error: " ++ f.message) }

def selected? (w : Workshop S) (r : Request) : Option (Template S) :=
  w.catalog.classify r.diagnostic

def tried? [Repairer S] (w : Workshop S) (tree : FileTree) (r : Request) :
    Option (Template S × Except Strategy.Fault Attempt) :=
  (w.selected? r).map fun t =>
    (t, Repairer.attempt t.strategy tree r.diagnostic r.content r.context)

def reportOf (w : Workshop S) (r : Request) :
    Option (Template S × Except Strategy.Fault Attempt) → Report
  | none => { success := false, reason := some (missReason w.catalog r.diagnostic) }
  | some (t, a) => attemptReport t a

/-- The report of the selected template, without hints. -/
def draft [Repairer S] (w : Workshop S) (tree : FileTree) (r : Request) : Report :=
  w.reportOf r (w.tried? tree r)

/-- What the log says of a strategy that came to no answer. The line is laid out like a template, so
that a brace in it may raise; a log is kept by the command line alone here, while one that is kept
beside the calls of a library would raise in `answer` and `byTemplate`, too. -/
def faultLine? [Repairer S] (w : Workshop S) (tree : FileTree) (r : Request) : Option String :=
  match w.tried? tree r with
  | some (t, .error f) =>
    some s!"Template {t.qualifiedName} raised for {r.diagnostic.location}: {f.message}"
  | _ => none

def withHints (r : Request) (report : Report) : Report :=
  if report.success then report
  else { report with hints := Hint.list r.diagnostic r.context }

def entry (t : Option (Template S)) (r : Request) (report : Report) : Tally.Entry where
  success := report.success
  autoFixable := t.any (·.autoFixable)
  method := report.method
  errorType := some r.diagnostic.bucket.name
  complexity := report.provenance.map (·.complexity.name)
  confidence := report.confidence.toReal?.getD .zero

def finish (w : Workshop S) (now : String) (t : Option (Template S)) (r : Request)
    (report : Report) : Report × Workshop S :=
  (withHints r report, { w with tally := w.tally.record now (entry t r report) })

def byTemplate [Repairer S] (w : Workshop S) (now : String) (tree : FileTree) (r : Request) :
    Report × Workshop S :=
  let tried := w.tried? tree r
  w.finish now (tried.map (·.1)) r (w.reportOf r tried)

def contextFor (r : Request) : Context :=
  r.context.getD (Context.ofFile r.diagnostic.file r.content)

structure Run (α : Type) (S : Type := Strategy) where
  answer : Except Reply.Fault α
  events : List Retry.Event
  workshop : Workshop S

def Run.calls (run : Run α S) : Nat := Retry.calls run.events

def Run.waits (run : Run α S) : List Number := Retry.waits run.events

def Run.quiet (p : Report × Workshop S) : Run Report S := ⟨.ok p.1, [], p.2⟩

/-- A request answered by what came of an exchange; a fault leaves the workshop as it was. -/
def Run.ofExchange (w : Workshop S) (now : String) (t : Option (Template S)) (r : Request)
    (e : Exchange) : Run Report S :=
  match e.outcome with
  | .ok p =>
    let (report, w) := w.finish now t r p.report
    ⟨.ok report, e.events, w⟩
  | .error f => ⟨.error f, e.events, w⟩

def answer [Repairer S] (w : Workshop S) (assistant : Option (Assistant σ)) (now : String)
    (tree : FileTree) (r : Request) (s : σ) : Run Report S × σ :=
  let tried := w.tried? tree r
  let t := tried.map (·.1)
  let report := w.reportOf r tried
  match assistant with
  | none => (.quiet (w.finish now t r report), s)
  | some a =>
    if report.success then (.quiet (w.finish now t r report), s)
    else
      let (e, s) := a.ask now r.diagnostic (contextFor r) s
      (.ofExchange w now t r e, s)

/-- The first of two answers with the others; of several faults the first is told. -/
def joined (one : Except Reply.Fault α) (others : Except Reply.Fault (List α)) :
    Except Reply.Fault (List α) :=
  match one with
  | .ok a => others.map (a :: ·)
  | .error f => .error f

/-- Requests in their order. A fault leaves the batch without an answer, but not the requests behind
it undone. -/
def answerAll [Repairer S] (w : Workshop S) (assistant : Option (Assistant σ)) (now : String)
    (tree : FileTree) : List Request → σ → Run (List Report) S × σ
  | [], s => (⟨.ok [], [], w⟩, s)
  | r :: rest, s =>
    let (one, s) := w.answer assistant now tree r s
    let (others, s) := one.workshop.answerAll assistant now tree rest s
    (⟨joined one.answer others.answer, one.events ++ others.events, others.workshop⟩, s)

def defaultBound : Int := 5

def bound (assistant : Option (Assistant σ)) (given : Option Int) : Int :=
  given.getD ((assistant.map (·.settings.maxParallel)).getD defaultBound)

def boundError? (bound : Int) : Option String :=
  if bound < 1 then some ("max_concurrency must be >= 1, got " ++ (Number.int bound).text) else none

def reset (w : Workshop S) : Workshop S := { w with tally := .empty }

end Workshop

end Mend
