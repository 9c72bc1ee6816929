import Mend.Proofs.Model.Reply
import Mend.Proofs.Model.Retry
import Mend.Proofs.Model.Settings
import Mend.Proofs.Workshop.Dispatch

namespace Mend

namespace Assistant

variable {σ : Type} {a : Assistant σ} {fs : Json.Fields}

def reached (a : Assistant σ) (d : Diagnostic) (c : Context) (s : σ) :
    Except Retry.Stop Completion :=
  (Retry.run a.policy (a.provider.complete (a.call d c)) s).1.outcome

def Loses (a : Assistant σ) (d : Diagnostic) (c : Context) (s : σ) : Prop :=
  ∃ reply, a.reached d c s = .ok reply ∧ Reply.Escapes reply.content

theorem reached_of_returned {d : Diagnostic} {c : Context} {s : σ} {reply : Completion}
    (hlimit : a.policy.timeout.le 0 = false)
    (hcall : (a.provider.complete (a.call d c) s).1 = .returned reply) :
    a.reached d c s = .ok reply := by
  rw [reached, Retry.run]
  exact Retry.runFrom_of_returned (Retry.attempt_of_returned rfl hlimit hcall)

theorem ask_outcome (now : String) (d : Diagnostic) (c : Context) (s : σ) :
    (a.ask now d c s).1.outcome = a.conclude now d (a.reached d c s) := rfl

theorem reached_ne_outOfRange (hs : Settings.read fs = .ok a.settings) (d : Diagnostic)
    (c : Context) (s : σ) : a.reached d c s ≠ .error .outOfRange := by
  have hretries : a.policy.maxRetries ≤ 10 := (Settings.taken_of_read hs).maxRetries_mem.2
  have hfew : 10 + 2 ^ 970 < 2 ^ 1024 := by decide +kernel
  apply Retry.runFrom_ne_outOfRange rfl rfl
  omega

theorem ask_cases (hs : Settings.read fs = .ok a.settings) (now : String) (d : Diagnostic)
    (c : Context) (s : σ) :
    (a.Loses d c s ∧ ∃ f, (a.ask now d c s).1.outcome = .error f) ∨
      (¬ a.Loses d c s ∧ ∃ p, (a.ask now d c s).1.outcome = .ok p) := by
  rw [ask_outcome]
  cases hreached : a.reached d c s with
  | error stop =>
    have hloses : ¬ a.Loses d c s := by
      intro h
      obtain ⟨reply, hreply, -⟩ := h
      rw [hreached] at hreply
      cases hreply
    cases stop with
    | failure f => exact .inr ⟨hloses, _, rfl⟩
    | outOfRange => exact absurd hreached (reached_ne_outOfRange hs d c s)
  | ok reply =>
    have hloses : a.Loses d c s ↔ Reply.Escapes reply.content := by
      constructor
      · intro h
        obtain ⟨other, hother, hescapes⟩ := h
        rw [hreached] at hother
        cases hother
        exact hescapes
      · exact fun h => ⟨reply, hreached, h⟩
    rw [hloses]
    exact (Proposal.reading_ofCompletion now d (a.signed reply)).escapes_or

end Assistant

namespace Workshop

variable {S : Type} {σ : Type} {a : Assistant σ} {fs : Json.Fields} {w : Workshop S} {now : String}
  {tree : FileTree} {r : Request} {s : σ}

/-- The request is answered by the report and entered with it, once. -/
def AnsweredOnce (w : Workshop S) (now : String) (r : Request) (run : Run Report S) : Prop :=
  ∃ report, run.answer = .ok report ∧ run.workshop = w.entered now r report ∧
    run.workshop.tally.total = w.tally.total + 1

def Lost (w : Workshop S) (run : Run Report S) : Prop :=
  (∃ f, run.answer = .error f) ∧ run.workshop = w

theorem AnsweredOnce.not_lost {run : Run Report S} (h : w.AnsweredOnce now r run) :
    ¬ w.Lost run := by
  intro hlost
  obtain ⟨report, hreport, -⟩ := h
  obtain ⟨⟨f, hf⟩, -⟩ := hlost
  rw [hreport] at hf
  cases hf

variable [Repairer S]

theorem answeredOnce_of_helps (h : w.Helps tree r) (a : Assistant σ) (s : σ) :
    w.AnsweredOnce now r (w.answer (some a) now tree r s).1 := by
  rw [answer_of_helps h, byTemplate_eq]
  exact ⟨_, rfl, rfl, rfl⟩

theorem lost_or_answeredOnce (hs : Settings.read fs = .ok a.settings) (h : ¬ w.Helps tree r) :
    (a.Loses r.diagnostic (contextFor r) s ∧ w.Lost (w.answer (some a) now tree r s).1) ∨
      (¬ a.Loses r.diagnostic (contextFor r) s ∧
        w.AnsweredOnce now r (w.answer (some a) now tree r s).1) := by
  rw [answer_of_not_helps h]
  rcases a.ask_cases hs now r.diagnostic (contextFor r) s with ⟨hloses, f, hf⟩ | ⟨hloses, p, hp⟩
  · left
    rw [ofExchange_of_error hf]
    exact ⟨hloses, ⟨f, rfl⟩, rfl⟩
  · right
    rw [ofExchange_of_ok hp]
    exact ⟨hloses, _, rfl, rfl, rfl⟩

theorem lost_iff_loses (hs : Settings.read fs = .ok a.settings) :
    w.Lost (w.answer (some a) now tree r s).1 ↔
      ¬ w.Helps tree r ∧ a.Loses r.diagnostic (contextFor r) s := by
  constructor
  · intro hlost
    have hmiss : ¬ w.Helps tree r := fun h => (answeredOnce_of_helps h a s).not_lost hlost
    rcases lost_or_answeredOnce hs hmiss with ⟨hloses, -⟩ | ⟨-, hanswered⟩
    · exact ⟨hmiss, hloses⟩
    · exact absurd hlost hanswered.not_lost
  · intro h
    rcases lost_or_answeredOnce hs h.1 with ⟨-, hlost⟩ | ⟨hloses, -⟩
    · exact hlost
    · exact absurd h.2 hloses

theorem answeredOnce_iff_not_lost (hs : Settings.read fs = .ok a.settings) :
    w.AnsweredOnce now r (w.answer (some a) now tree r s).1 ↔
      ¬ w.Lost (w.answer (some a) now tree r s).1 := by
  constructor
  · exact AnsweredOnce.not_lost
  · intro hlost
    by_cases h : w.Helps tree r
    · exact answeredOnce_of_helps h a s
    · rcases lost_or_answeredOnce hs h with ⟨-, hlost'⟩ | ⟨-, hanswered⟩
      · exact absurd hlost' hlost
      · exact hanswered

end Workshop

/-- Under accepted settings there is one case in which a completion is not read, an exchange comes
to no proposal and a request is neither answered nor entered: when the reply escapes. -/
theorem lost_iff {S : Type} [Repairer S] {σ : Type} {a : Assistant σ} {fs : Json.Fields}
    (hs : Settings.read fs = .ok a.settings) (now : String) (tree : FileTree) :
    (∀ d c, Proposal.Reading c (Proposal.ofCompletion now d c)) ∧
    (∀ d c s, (∃ p, (a.ask now d c s).1.outcome = .ok p) ↔ ¬ a.Loses d c s) ∧
    (∀ (w : Workshop S) r s,
      (w.Lost (w.answer (some a) now tree r s).1 ↔
        ¬ w.Helps tree r ∧ a.Loses r.diagnostic (Workshop.contextFor r) s) ∧
      (w.AnsweredOnce now r (w.answer (some a) now tree r s).1 ↔
        ¬ w.Lost (w.answer (some a) now tree r s).1)) := by
  refine ⟨Proposal.reading_ofCompletion now, ?_, ?_⟩
  · intro d c s
    rcases a.ask_cases hs now d c s with ⟨hloses, f, hf⟩ | ⟨hloses, hp⟩
    · constructor
      · intro h
        obtain ⟨p, hp⟩ := h
        rw [hf] at hp
        cases hp
      · exact fun h => absurd hloses h
    · exact iff_of_true hp hloses
  · intro w r s
    exact ⟨Workshop.lost_iff_loses hs, Workshop.answeredOnce_iff_not_lost hs⟩

theorem lost_iff_ones :
    let raw : String := .ofList (List.replicate 4301 '1')
    let a : Assistant Unit :=
      ⟨⟨"ai", "m", fun _ s => (.returned ⟨raw, "", 0, 0, .real .zero, ""⟩, s)⟩, {}⟩
    let r : Request := ⟨⟨.other "lint", some "odd", "a.js", 1, .low, 1, ""⟩, "x", none⟩
    Settings.read [] = .ok a.settings ∧
      (Workshop.ofCatalog .empty : Workshop).Lost
        ((Workshop.ofCatalog .empty : Workshop).answer (some a) "" .empty r ()).1 := by
  intro raw a r
  have hs : Settings.read [] = .ok a.settings := rfl
  have hlimit : a.policy.timeout.le 0 = false := by decide +kernel
  have hreached : a.reached r.diagnostic (Workshop.contextFor r) () =
      .ok ⟨raw, "", 0, 0, .real .zero, ""⟩ :=
    Assistant.reached_of_returned hlimit rfl
  have hescapes : Reply.Escapes raw := Reply.escapes_ones (by decide)
  have hmiss : ¬ (Workshop.ofCatalog .empty : Workshop).Helps .empty r := by
    intro h
    obtain ⟨t, text, summary, es, hnone, -⟩ := h
    cases hnone
  exact ⟨hs, ((lost_iff hs "" .empty).2.2 _ r ()).1.2 ⟨hmiss, _, hreached, hescapes⟩⟩

end Mend
