import Mathlib.Data.List.Forall2
import Mend.Proofs.Model.Attempts
import Mend.Proofs.Workshop.Loss
import Mend.Proofs.Workshop.Schedule

namespace Mend

namespace Proposal

def untimed : Proposal → Proposal
  | repaired fix explanation confidence edits warnings source =>
    repaired fix explanation confidence edits warnings { source with timestamp := "" }
  | failed reason reply => failed reason reply

theorem untimed_ofCompletion (now now' : String) (d : Diagnostic) (c : Completion) :
    (ofCompletion now d c).map untimed = (ofCompletion now' d c).map untimed := by
  unfold ofCompletion
  cases Reply.payload c.content with
  | error f => rfl
  | ok payload =>
    cases payload with
    | error problem => rfl
    | ok payload =>
      dsimp only [ofPayload]
      cases Reply.clamp (Reply.value payload.fields "confidence") Reply.defaultConfidence with
      | error f => rfl
      | ok confidence => rfl

end Proposal

def Report.untimed (report : Report) : Report :=
  { report with provenance := report.provenance.map fun source => { source with timestamp := "" } }

/-- The answers are the same but for the times at which they were made. -/
def Alike (x y : Except Reply.Fault Report) : Prop := x.map Report.untimed = y.map Report.untimed

namespace Assistant

variable {σ : Type} {a : Assistant σ}

theorem untimed_conclude (a : Assistant σ) (now now' : String) (d : Diagnostic)
    (outcome : Except Retry.Stop Completion) :
    (a.conclude now d outcome).map Proposal.untimed =
      (a.conclude now' d outcome).map Proposal.untimed := by
  cases outcome with
  | ok reply => exact Proposal.untimed_ofCompletion now now' d (a.signed reply)
  | error stop =>
    cases stop with
    | failure f => rfl
    | outOfRange => rfl

/-- What the provider answers to a call depends on the prompt alone. -/
def Steady (a : Assistant σ) : Prop :=
  ∃ reply : String → Turn Completion, ∀ call s, (a.provider.complete call s).1 = reply call.prompt

theorem Steady.runFrom_eq (h : a.Steady) (call : Call) (n left : Nat) (s s' : σ) :
    (Retry.runFrom a.policy (a.provider.complete call) n left s).1 =
      (Retry.runFrom a.policy (a.provider.complete call) n left s').1 := by
  obtain ⟨reply, hreply⟩ := h
  apply Retry.runFrom_congr
  intro i
  rw [Retry.turn, Retry.turn, hreply, hreply]

theorem Steady.reached_eq (h : a.Steady) (d : Diagnostic) (c : Context) (s s' : σ) :
    a.reached d c s = a.reached d c s' :=
  congrArg Retry.Trace.outcome (h.runFrom_eq (a.call d c) 0 a.policy.maxRetries.toNat s s')

end Assistant

namespace Workshop

variable {S : Type} {σ : Type} {assistant : Option (Assistant σ)} {a : Assistant σ}
  {v w : Workshop S} {now now' : String} {tree : FileTree} {r : Request} {rs : List Request}
  {s s' : σ} {report : Report}

def answerOf (r : Request) (outcome : Except Reply.Fault Proposal) : Except Reply.Fault Report :=
  outcome.map fun p => withHints r p.report

theorem untimed_withHints (r : Request) (p : Proposal) :
    (withHints r p.report).untimed = withHints r p.untimed.report := by
  cases p with
  | repaired fix explanation confidence edits warnings source => rfl
  | failed reason reply => rfl

theorem alike_answerOf (a : Assistant σ) (now now' : String) (r : Request)
    (outcome : Except Retry.Stop Completion) :
    Alike (answerOf r (a.conclude now r.diagnostic outcome))
      (answerOf r (a.conclude now' r.diagnostic outcome)) := by
  have huntimed (x : Except Reply.Fault Proposal) : (answerOf r x).map Report.untimed =
      answerOf r (x.map Proposal.untimed) := by
    cases x with
    | error f => rfl
    | ok p => exact congrArg Except.ok (untimed_withHints r p)
  rw [Alike, huntimed, huntimed, a.untimed_conclude now now']

theorem answer_ofExchange (w : Workshop S) (now : String) (r : Request) (e : Exchange) :
    (Run.ofExchange w now (w.selected? r) r e).answer = answerOf r e.outcome := by
  cases he : e.outcome with
  | error f => rw [ofExchange_of_error he]; rfl
  | ok p => rw [ofExchange_of_ok he]; rfl

variable [Repairer S]

theorem answer_eq_of_not_helps (h : ¬ w.Helps tree r) (a : Assistant σ) (s : σ) :
    (w.answer (some a) now tree r s).1.answer =
      answerOf r (a.conclude now r.diagnostic (a.reached r.diagnostic (contextFor r) s)) := by
  rw [answer_of_not_helps h, answer_ofExchange, Assistant.ask_outcome]

theorem answer_eq_of_quiet (h : assistant = none ∨ w.Helps tree r) :
    (w.answer assistant now tree r s).1.answer = .ok (withHints r (w.draft tree r)) := by
  cases h with
  | inl hnone =>
    subst hnone
    rfl
  | inr hhelps =>
    rw [answer_of_helps hhelps, byTemplate_eq]
    rfl

theorem draft_congr (h : v.catalog = w.catalog) (tree : FileTree) (r : Request) :
    v.draft tree r = w.draft tree r := by
  unfold draft reportOf tried? selected?
  rw [h]

theorem helps_congr (h : v.catalog = w.catalog) : v.Helps tree r ↔ w.Helps tree r := by
  rw [← draft_success_iff, ← draft_success_iff, draft_congr h]

def IsSteady (assistant : Option (Assistant σ)) : Prop := ∀ a, assistant = some a → a.Steady

theorem answer_alike (hsteady : IsSteady assistant) (h : v.catalog = w.catalog) :
    Alike (v.answer assistant now' tree r s').1.answer
      (w.answer assistant now tree r s).1.answer := by
  by_cases hquiet : assistant = none ∨ w.Helps tree r
  · rw [answer_eq_of_quiet hquiet, answer_eq_of_quiet (hquiet.imp_right (helps_congr h).2),
      draft_congr h]
    rfl
  · rw [not_or] at hquiet
    obtain ⟨a, ha⟩ := Option.ne_none_iff_exists'.1 hquiet.1
    have hmiss : ¬ v.Helps tree r := mt (helps_congr h).1 hquiet.2
    rw [ha, answer_eq_of_not_helps hquiet.2, answer_eq_of_not_helps hmiss,
      (hsteady a ha).reached_eq r.diagnostic (contextFor r) s' s]
    exact alike_answerOf a now' now r _

theorem ok_of_alike {x : Except Reply.Fault Report} (h : Alike x (.ok report)) :
    ∃ other, x = .ok other := by
  cases x with
  | error f => cases h
  | ok other => exact ⟨other, rfl⟩

def Answers (w : Workshop S) (assistant : Option (Assistant σ)) (now : String) (tree : FileTree)
    (s : σ) (rs : List Request) : Prop :=
  ∀ r ∈ rs, ∃ report, (w.answer assistant now tree r s).1.answer = .ok report

/-- The reports are, one by one, those of the requests answered alone. -/
def Matches (w : Workshop S) (assistant : Option (Assistant σ)) (now : String) (tree : FileTree)
    (s : σ) : List Request → List Report → Prop :=
  List.Forall₂ fun r report => Alike (.ok report) (w.answer assistant now tree r s).1.answer

theorem matches_answerAll (hsteady : IsSteady assistant) (h : v.catalog = w.catalog)
    (hanswers : w.Answers assistant now tree s rs) (now' : String) (s' : σ) :
    ∃ reports, (v.answerAll assistant now' tree rs s').1.answer = .ok reports ∧
      w.Matches assistant now tree s rs reports := by
  induction rs generalizing v s' with
  | nil => exact ⟨[], rfl, .nil⟩
  | cons r rs ih =>
    obtain ⟨halone, hrest⟩ := List.forall_mem_cons.1 hanswers
    obtain ⟨alone, halone⟩ := halone
    have halike : Alike (v.answer assistant now' tree r s').1.answer
        (w.answer assistant now tree r s).1.answer := answer_alike hsteady h
    have hok := halike
    rw [halone] at hok
    obtain ⟨report, hreport⟩ := ok_of_alike hok
    have hcatalog := (Session.step_of_answer assistant ⟨v, s', []⟩ now' tree hreport).catalog
    obtain ⟨reports, hreports, hmatches⟩ := ih (hcatalog.trans h) hrest
      (v.answer assistant now' tree r s').2
    rw [hreport] at halike
    refine ⟨report :: reports, ?_, .cons halike hmatches⟩
    simp only [answerAll, hreport, hreports]
    rfl

end Workshop

end Mend
