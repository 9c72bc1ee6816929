import Mend.Model.Assistant
import Mend.Proofs.Model.Attempts
import Mend.Proofs.Model.Settings
import Mend.Proofs.Number.Order

namespace Mend

variable {σ : Type} {a : Assistant σ} {fs : Json.Fields}

/-- The provider with a log of its calls, the latest one last. -/
def Provider.logged (p : Provider σ) : Provider (σ × List Call) where
  name := p.name
  modelName := p.modelName
  complete call s := ((p.complete call s.1).1, (p.complete call s.1).2, s.2 ++ [call])

theorem Provider.after_logged (p : Provider σ) (call : Call) (s : σ) (log : List Call) (i : Nat) :
    Retry.after (p.logged.complete call) (s, log) i =
      (Retry.after (p.complete call) s i, log ++ List.replicate i call) := by
  induction i generalizing s log with
  | zero => rw [List.replicate_zero, List.append_nil]; rfl
  | succ i ih =>
    have hnext := ih (p.complete call s).2 (log ++ [call])
    rw [List.append_assoc, List.singleton_append, ← List.replicate_succ] at hnext
    exact hnext

theorem Provider.turn_logged (p : Provider σ) (call : Call) (s : σ) (i : Nat) :
    Retry.turn (p.logged.complete call) (s, []) i = Retry.turn (p.complete call) s i := by
  rw [Retry.turn, Provider.after_logged]
  rfl

theorem Provider.run_logged {q : Retry.Policy} (h : Retry.Ample q) (p : Provider σ) (call : Call)
    (s : σ) :
    Retry.run q (p.logged.complete call) (s, []) =
      ((Retry.run q (p.complete call) s).1, (Retry.run q (p.complete call) s).2,
        List.replicate (Retry.run q (p.complete call) s).1.calls call) := by
  have htrace : (Retry.run q (p.logged.complete call) (s, [])).1 =
      (Retry.run q (p.complete call) s).1 := Retry.runFrom_congr (p.turn_logged call s)
  have hlogged : (Retry.run q (p.logged.complete call) (s, [])).2 =
      Retry.after (p.logged.complete call) (s, [])
        (Retry.run q (p.logged.complete call) (s, [])).1.calls := h.runFrom_snd
  have hplain : (Retry.run q (p.complete call) s).2 =
      Retry.after (p.complete call) s (Retry.run q (p.complete call) s).1.calls := h.runFrom_snd
  apply Prod.ext htrace
  rw [hlogged, htrace, Provider.after_logged, hplain]
  rfl

theorem Proposal.provenance_of_ofCompletion {now : String} {d : Diagnostic} {reply : Completion}
    {p : Proposal} {source : Provenance} (h : ofCompletion now d reply = .ok p)
    (hp : p.provenance? = some source) : source = provenance now d reply p.edits := by
  unfold ofCompletion at h
  cases hpayload : Reply.payload reply.content with
  | error f =>
    rw [hpayload] at h
    cases h
  | ok payload =>
    rw [hpayload] at h
    cases payload with
    | error problem =>
      cases h
      cases hp
    | ok payload =>
      dsimp only [ofPayload] at h
      cases hclamp : Reply.clamp (Reply.value payload.fields "confidence")
          Reply.defaultConfidence with
      | error f =>
        rw [hclamp] at h
        cases h
      | ok confidence =>
        rw [hclamp] at h
        cases h
        cases hp
        rfl

namespace Assistant

def logged (a : Assistant σ) : Assistant (σ × List Call) := ⟨a.provider.logged, a.settings⟩

theorem ample_policy (hs : Settings.read fs = .ok a.settings) : Retry.Ample a.policy where
  positive := by
    apply Bool.eq_false_iff.2
    intro hle
    exact Number.not_lt_of_le hle (Settings.taken_of_read hs).timeout_pos
  held := Option.some_ne_none a.settings.timeout

/-- Accepted settings allow so few repetitions that a double can hold every wait. -/
theorem wait?_ne_none (hs : Settings.read fs = .ok a.settings) {i : Nat}
    (hi : i < a.policy.maxRetries.toNat) : Retry.wait? a.policy i ≠ none := by
  have hmost : a.policy.maxRetries ≤ 10 := (Settings.taken_of_read hs).maxRetries_mem.2
  have hbound : 11 + 2 ^ 970 < 2 ^ 1024 := by decide +kernel
  obtain ⟨w, hw⟩ := Retry.wait?_isSome (p := a.policy) (n := i) rfl (by omega)
  rw [hw]
  exact Option.some_ne_none w

theorem ask_logged (hs : Settings.read fs = .ok a.settings) (now : String) (d : Diagnostic)
    (c : Context) (s : σ) :
    a.logged.ask now d c (s, []) =
      ((a.ask now d c s).1, (a.ask now d c s).2,
        List.replicate (a.ask now d c s).1.calls (a.call d c)) := by
  have hrun := Provider.run_logged (ample_policy hs) a.provider (a.call d c) s
  exact congrArg (fun run => (Exchange.mk (a.conclude now d run.1.outcome) run.1.events, run.2))
    hrun

/-- The source of a proposal: it names the reply's model and provider, or the assistant's own where
the reply leaves them open, and counts what the reply counts. -/
structure Sourced (a : Assistant σ) (reply : Completion) (source : Provenance) : Prop where
  model : reply.model ≠ "" → source.model = reply.model
  ownModel : reply.model = "" → source.model = a.provider.modelName
  provider : reply.provider ≠ "" → source.provider = reply.provider
  ownProvider : reply.provider = "" → source.provider = a.provider.name
  inputTokens : source.inputTokens = reply.inputTokens
  outputTokens : source.outputTokens = reply.outputTokens
  cost : source.cost = reply.cost

structure Unanswered (text : String) (p : Proposal) : Prop where
  fix : p.fix? = none
  explanation : p.explanation? = none
  confidence : p.confidence = .real .zero
  edits : p.edits = []
  warnings : p.warnings = []
  provenance : p.provenance? = none
  reason : p.reason? = some ("AI fix generation failed: " ++ text)
  reply : p.reply? = none

/-- What an exchange comes to whose last call took a turn: its reply as a proposal, if the reply
can be read, and otherwise what is told of the turn. -/
inductive Concluded (a : Assistant σ) (now : String) (d : Diagnostic) :
    Turn Completion → Except Reply.Fault Proposal → Prop
  | read (reply : Completion)
      (hsource : ∀ p source, Proposal.ofCompletion now d (a.signed reply) = .ok p →
        p.provenance? = some source → Sourced a reply source) :
    Concluded a now d (.returned reply) (Proposal.ofCompletion now d (a.signed reply))
  | unanswered (t : Turn Completion) (f : Failure) (p : Proposal)
      (h : Retry.Told a.policy t (.error (.failure f))) (hp : Unanswered f.message p) :
    Concluded a now d t (.ok p)

theorem sourced_signed {now : String} {d : Diagnostic} {reply : Completion} {p : Proposal}
    {source : Provenance} (h : Proposal.ofCompletion now d (a.signed reply) = .ok p)
    (hp : p.provenance? = some source) : Sourced a reply source := by
  rw [Proposal.provenance_of_ofCompletion h hp]
  exact {
    model := fun hmodel => if_neg hmodel
    ownModel := fun hmodel => if_pos hmodel
    provider := fun hprovider => if_neg hprovider
    ownProvider := fun hprovider => if_pos hprovider
    inputTokens := rfl
    outputTokens := rfl
    cost := rfl }

theorem concluded_of_told {now : String} {d : Diagnostic} {t : Turn Completion}
    {outcome : Except Retry.Stop Completion} (h : Retry.Told a.policy t outcome) :
    Concluded a now d t (a.conclude now d outcome) := by
  cases h with
  | value reply => exact .read reply fun p source => sourced_signed
  | failure f => exact .unanswered _ f _ (.failure f) ⟨rfl, rfl, rfl, rfl, rfl, rfl, rfl, rfl⟩
  | late text x h =>
    exact .unanswered _ _ _ (.late text x h) ⟨rfl, rfl, rfl, rfl, rfl, rfl, rfl, rfl⟩
  | crash kind text =>
    exact .unanswered _ _ _ (.crash kind text) ⟨rfl, rfl, rfl, rfl, rfl, rfl, rfl, rfl⟩

/-- An exchange of `k + 1` calls, with a wait between every two. -/
structure Exchanged (a : Assistant σ) (now : String) (d : Diagnostic) (c : Context) (s : σ)
    (k : Nat) : Prop where
  few : (k : Int) ≤ a.settings.maxRetries
  ends : Retry.Ends (Retry.turn (a.provider.complete (a.call d c)) s) a.settings.maxRetries.toNat k
  events : (a.ask now d c s).1.events = Retry.spaced (a.ask now d c s).1.waits
  calls : (a.ask now d c s).1.calls = k + 1
  log : a.logged.ask now d c (s, []) =
    ((a.ask now d c s).1, (a.ask now d c s).2, List.replicate (k + 1) (a.call d c))
  waits : (a.ask now d c s).1.waits.map some =
    (List.range k).map fun i : Nat => a.policy.baseDelay.mul? (.int (i + 1))
  outcome : Concluded a now d (Retry.turn (a.provider.complete (a.call d c)) s k)
    (a.ask now d c s).1.outcome

/-- Under accepted settings an exchange is one call, repeated as long as it fails in passing and as
often as the settings allow; its last call alone decides what it comes to. -/
theorem ask_exchange (hs : Settings.read fs = .ok a.settings) (now : String) (d : Diagnostic)
    (c : Context) (s : σ) : ∃ k, Exchanged a now d c s k := by
  have hample := ample_policy hs
  obtain ⟨k, hk⟩ := Retry.exists_ends (Retry.turn (a.provider.complete (a.call d c)) s)
    a.policy.maxRetries.toNat
  have hends : Retry.Ends (fun i => Retry.heard a.policy
      (Retry.turn (a.provider.complete (a.call d c)) s i)) a.policy.maxRetries.toNat k := by
    simp only [hample.heard_eq]
    exact hk
  have hwaits : ∀ i < k, Retry.wait? a.policy (0 + i) ≠ none := by
    intro i hi
    rw [Nat.zero_add]
    exact wait?_ne_none hs (Nat.lt_of_lt_of_le hi hk.within)
  have hcourse := Retry.course_of_ends hample.tellable hends hwaits
  have htold := Retry.told_settle hample.tellable
    (Retry.turn (a.provider.complete (a.call d c)) s k)
  rw [hample.heard_eq] at hcourse htold
  have houtcome : (a.ask now d c s).1.outcome = a.conclude now d (Retry.settle a.policy
      (Retry.turn (a.provider.complete (a.call d c)) s k)) :=
    congrArg (a.conclude now d) hcourse.outcome
  have hcalls : (a.ask now d c s).1.calls = k + 1 := hcourse.calls
  refine ⟨k, ?_, hk, hcourse.events, hcalls, ?_, ?_, ?_⟩
  · rw [← Int.toNat_of_nonneg (Settings.taken_of_read hs).maxRetries_mem.1]
    exact Int.ofNat_le.2 hk.within
  · rw [ask_logged hs, hcalls]
  · rw [List.range_eq_range']
    exact hcourse.waits
  · rw [houtcome]
    exact concluded_of_told htold

theorem ask_exchange_secondTry :
    let reply : Completion :=
      ⟨"\x7b\"fix\": \"x\", \"explanation\": \"y\"\x7d", "", 3, 4, .real .one, "vendor"⟩
    let a : Assistant Nat :=
      ⟨⟨"ai", "m", fun _ i =>
        (if i = 0 then .crashed "ConnectionError" "reset" else .returned reply, i + 1)⟩, {}⟩
    let d : Diagnostic := ⟨.known .style, some "bad quotes", "a.js", 1, .low, 1, ""⟩
    let c : Context := Context.ofFile "a.js" "x"
    Settings.read [] = .ok a.settings ∧ Exchanged a "now" d c 0 1 ∧
      Concluded a "now" d (.returned reply) (a.ask "now" d c 0).1.outcome := by
  intro reply a d c
  have hs : Settings.read [] = .ok a.settings := rfl
  obtain ⟨k, hk⟩ := ask_exchange hs "now" d c 0
  have hends : Retry.Ends (Retry.turn (a.provider.complete (a.call d c)) 0)
      a.settings.maxRetries.toNat 1 := by
    refine ⟨by decide, ?_, nofun⟩
    intro i hi
    rw [Nat.lt_one_iff.1 hi]
    rfl
  obtain rfl := hk.ends.unique hends
  exact ⟨hs, hk, hk.outcome⟩

end Assistant

end Mend
