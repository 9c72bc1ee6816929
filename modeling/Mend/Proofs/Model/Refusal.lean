import Mend.Model.Account
import Mend.Proofs.Model.Attempts
import Mend.Proofs.Text.Lowercase
import Mend.Proofs.Text.Occurrence

namespace Mend

namespace Retry

variable {α σ : Type} {p : Policy} {call : σ → Turn α × σ} {s : σ} {n left i : Nat} {f : Failure}
  {trace : Trace α}

/-- How a run of at most `left + 1` attempts, the first of them numbered `n`, goes on from the
attempt that comes `i` behind the first and fails. -/
inductive Ensues (p : Policy) (n left i : Nat) (f : Failure) (trace : Trace α) : Prop
  | ended (h : f.isPassing = false ∨ i = left) (hcalls : trace.calls = i + 1)
    (houtcome : trace.outcome = .error (.failure f))
  | repeated (hpassing : f.isPassing = true) (hleft : i < left) (hwait : wait? p (n + i) ≠ none)
    (hcalls : i + 1 < trace.calls)
  | overflowed (hpassing : f.isPassing = true) (hleft : i < left) (hwait : wait? p (n + i) = none)
    (hcalls : trace.calls = i + 1) (houtcome : trace.outcome = .error .outOfRange)

theorem Ensues.after (h : Ensues p (n + 1) left i f trace) (w : Number) :
    Ensues p n (left + 1) (i + 1) f (trace.after w) := by
  have hn : n + 1 + i = n + (i + 1) := by omega
  have hafter : (trace.after w).calls = trace.calls + 1 := trace.after_calls w
  cases h with
  | ended h hcalls houtcome =>
    refine .ended (h.imp_right (congrArg (· + 1))) ?_ houtcome
    rw [hafter, hcalls]
  | repeated hpassing hleft hwait hcalls =>
    refine .repeated hpassing (Nat.succ_lt_succ hleft) (hn ▸ hwait) ?_
    rw [hafter]
    exact Nat.succ_lt_succ hcalls
  | overflowed hpassing hleft hwait hcalls houtcome =>
    refine .overflowed hpassing (Nat.succ_lt_succ hleft) (hn ▸ hwait) ?_ houtcome
    rw [hafter, hcalls]

theorem calls_pos (p : Policy) (call : σ → Turn α × σ) (n left : Nat) (s : σ) :
    0 < (runFrom p call n left s).1.calls := by
  induction n, left, s using runFrom_induction p call with
  | last n left s _ hrun =>
    rw [hrun]
    exact Nat.zero_lt_one
  | overflow n left s _ _ hrun =>
    rw [hrun]
    exact Nat.zero_lt_one
  | again n left s w _ _ hrun _ =>
    rw [hrun, Trace.after_calls]
    exact Nat.succ_pos _

theorem run_calls_pos (p : Policy) (call : σ → Turn α × σ) (s : σ) : 0 < (run p call s).1.calls :=
  calls_pos p call 0 p.maxRetries.toNat s

theorem ensues_runFrom (hi : i < (runFrom p call n left s).1.calls)
    (hf : heard p (turn call s i) = .failed f) :
    Ensues p n left i f (runFrom p call n left s).1 := by
  have hfirst {s : σ} (hf : heard p (turn call s 0) = .failed f) :
      (attempt p call s).1 = .error (.failure f) := by
    have hcall : heard p (call s).1 = .failed f := hf
    rw [attempt_fst, hcall]
    rfl
  induction n, left, s using runFrom_induction p call generalizing i with
  | last n left s hlast hrun =>
    rw [hrun] at hi ⊢
    obtain rfl : i = 0 := Nat.lt_one_iff.1 hi
    rw [hfirst hf] at hlast ⊢
    refine .ended ?_ rfl rfl
    cases hpassing : f.isPassing with
    | false => exact .inl rfl
    | true => exact .inr (hlast hpassing).symm
  | overflow n left s hrepeats hw hrun =>
    rw [hrun] at hi ⊢
    obtain rfl : i = 0 := Nat.lt_one_iff.1 hi
    rw [hfirst hf] at hrepeats
    exact .overflowed hrepeats (Nat.succ_pos left) hw rfl rfl
  | again n left s w hrepeats hw hrun ih =>
    rw [hrun] at hi ⊢
    rw [Trace.after_calls] at hi
    cases i with
    | zero =>
      have hwait : wait? p (n + 0) ≠ none := by
        rw [Nat.add_zero, hw]
        exact Option.some_ne_none w
      rw [hfirst hf] at hrepeats
      refine .repeated hrepeats (Nat.succ_pos left) hwait ?_
      rw [Trace.after_calls]
      exact Nat.succ_lt_succ (calls_pos p call (n + 1) left _)
    | succ i =>
      rw [← heard_turn] at hf
      exact (ih (Nat.lt_of_succ_lt_succ hi) hf).after w

end Retry

namespace Account

variable {message : String} {r : Refusal} {kind : Failure.Kind} {text : String}

/-- The text has a marker of the token limit in it, in any case of its letters. -/
def Marks (text : String) : Prop :=
  ∃ m ∈ tokenLimitMarkers, Text.hasInfix m (Text.lower text) = true

instance : DecidablePred Marks := fun text =>
  inferInstanceAs (Decidable (∃ m ∈ tokenLimitMarkers, Text.hasInfix m (Text.lower text) = true))

/-- A marker begins in the code, has a blank where the code ends, and ends in the message. -/
def Straddles (code message : String) : Prop :=
  ∃ m ∈ tokenLimitMarkers, ∃ u w, m.toList = u ++ ' ' :: w ∧
    u <:+ Text.lowerList code.toList ∧ w <+: Text.lowerList message.toList

def codeText (code : Json) : String := if code.isFilled then code.text else ""

/-- Code or message speak of the limit, or both do together. -/
def TellLimit (code : Json) (message : String) : Prop :=
  Marks (codeText code) ∨ Marks message ∨ Straddles (codeText code) message

theorem hasInfix_lower_append (m code message : String) :
    Text.hasInfix m (Text.lower (code ++ " " ++ message)) = true ↔
      Text.hasInfix m (Text.lower code) = true ∨ Text.hasInfix m (Text.lower message) = true ∨
        ∃ u w, m.toList = u ++ ' ' :: w ∧
          u <:+ Text.lowerList code.toList ∧ w <+: Text.lowerList message.toList := by
  have hjoint : (code ++ " " ++ message).toList = code.toList ++ ' ' :: message.toList := by
    simp
  simp only [Text.hasInfix, Text.lower, String.toList_ofList, hjoint, Text.lowerList_append_blank]
  exact Text.occurs_append_cons_iff

theorem exceedsTokenLimit_iff (code : Json) (message : String) :
    exceedsTokenLimit code message = true ↔ TellLimit code message := by
  have hsearch : exceedsTokenLimit code message =
      tokenLimitMarkers.any
        (Text.hasInfix · (Text.lower (codeText code ++ " " ++ message))) := rfl
  rw [hsearch, List.any_eq_true]
  simp only [hasInfix_lower_append, and_or_left, exists_or]
  rfl

theorem not_straddles_empty (message : String) : ¬ Straddles "" message := by
  have hfirst : ∀ m ∈ tokenLimitMarkers, m.toList.head? ≠ some ' ' := by
    decide +kernel
  rintro ⟨m, hm, u, w, heq, hu, -⟩
  obtain rfl : u = [] := List.suffix_nil.1 hu
  exact hfirst m hm (by rw [heq]; rfl)

/-- The kind of failure that a refusal is, and what its text says behind the name of the vendor. -/
inductive Refusal.Becomes (message : String) : Refusal → Failure.Kind → String → Prop
  | authentication :
    Becomes message .authentication .authentication (" authentication failed: " ++ message)
  | rateLimit : Becomes message .rateLimit .rateLimit (" rate limit exceeded: " ++ message)
  | timeout : Becomes message .timeout .timeout (" request timed out: " ++ message)
  | tokenLimit (code : Json) (h : TellLimit code message) :
    Becomes message (.badRequest code) .tokenLimit
      (" request exceeds the model's token limit: " ++ message)
  | badRequest (code : Json) (h : ¬ TellLimit code message) :
    Becomes message (.badRequest code) .provider (" API error: " ++ message)
  | other : Becomes message .other .provider (" API error: " ++ message)

theorem Refusal.becomes_failure (r : Refusal) (message : String) :
    ∃ kind text, r.Becomes message kind text ∧
      ∀ v, r.failure v message = ⟨kind, v.label ++ text⟩ := by
  have hjoint (kind : Failure.Kind) (lead : String) (v : Vendor) :
      (⟨kind, v.label ++ lead ++ message⟩ : Failure) = ⟨kind, v.label ++ (lead ++ message)⟩ :=
    congrArg (Failure.mk kind) String.append_assoc
  cases r with
  | authentication => exact ⟨_, _, .authentication, hjoint _ _⟩
  | rateLimit => exact ⟨_, _, .rateLimit, hjoint _ _⟩
  | timeout => exact ⟨_, _, .timeout, hjoint _ _⟩
  | badRequest code =>
    by_cases h : exceedsTokenLimit code message = true
    · refine ⟨_, _, .tokenLimit code ((exceedsTokenLimit_iff code message).1 h), ?_⟩
      intro v
      rw [failure, if_pos h]
      exact hjoint _ _ v
    · refine ⟨_, _, .badRequest code (mt (exceedsTokenLimit_iff code message).2 h), ?_⟩
      intro v
      rw [failure, if_neg h]
      exact hjoint _ _ v
  | other => exact ⟨_, _, .other, hjoint _ _⟩

theorem Refusal.Becomes.tokenLimit_iff (h : r.Becomes message kind text) :
    kind = .tokenLimit ↔ ∃ code, r = .badRequest code ∧ TellLimit code message := by
  cases h with
  | tokenLimit code h => exact iff_of_true rfl ⟨code, rfl, h⟩
  | badRequest code h =>
    refine iff_of_false nofun ?_
    rintro ⟨_, heq, htell⟩
    cases heq
    exact h htell
  | authentication => exact iff_of_false nofun nofun
  | rateLimit => exact iff_of_false nofun nofun
  | timeout => exact iff_of_false nofun nofun
  | other => exact iff_of_false nofun nofun

theorem Refusal.Becomes.isPassing_eq_false_iff (h : r.Becomes message kind text) (v : Vendor) :
    (⟨kind, v.label ++ text⟩ : Failure).isPassing = false ↔
      kind = .tokenLimit ∨ kind = .authentication := by
  cases h <;> simp [Failure.isPassing]

theorem visit_of_refused {a : Account} {env : Environment} {reply : String → Request → Answer}
    {c : Call} {client : Client} {key : String} {contacts : List Contact}
    (hopen : a.open? env client = .ok (key, contacts))
    (hreply : reply key (a.request c) = .refused r message) :
    (a.visit env reply c client).turn = .failed (r.failure a.vendor message) := by
  simp only [visit, hopen, hreply, turn]

/-- A run after its attempt numbered `i` has come to a refusal's failure. -/
structure Followed {α : Type} (p : Retry.Policy) (i : Nat) (f : Failure) (trace : Retry.Trace α) :
    Prop where
  final : f.kind = .tokenLimit ∨ f.kind = .authentication →
    trace.calls = i + 1 ∧ trace.outcome = .error (.failure f)
  spent : i = p.maxRetries.toNat → trace.calls = i + 1 ∧ trace.outcome = .error (.failure f)
  repeated : ¬ (f.kind = .tokenLimit ∨ f.kind = .authentication) → i < p.maxRetries.toNat →
    Retry.wait? p i ≠ none → i + 1 < trace.calls
  overflowed : ¬ (f.kind = .tokenLimit ∨ f.kind = .authentication) → i < p.maxRetries.toNat →
    Retry.wait? p i = none → trace.calls = i + 1 ∧ trace.outcome = .error .outOfRange

theorem followed_of_ensues {α : Type} {p : Retry.Policy} {i : Nat} {f : Failure}
    {trace : Retry.Trace α}
    (hpassing : f.isPassing = false ↔ f.kind = .tokenLimit ∨ f.kind = .authentication)
    (h : Retry.Ensues p 0 p.maxRetries.toNat i f trace) : Followed p i f trace := by
  have hgoes : f.isPassing = true → ¬ (f.kind = .tokenLimit ∨ f.kind = .authentication) := by
    intro hpasses hkind
    exact absurd ((hpassing.2 hkind).symm.trans hpasses) Bool.false_ne_true
  cases h with
  | ended h hcalls houtcome =>
    have hlast : ¬ (f.kind = .tokenLimit ∨ f.kind = .authentication) →
        ¬ i < p.maxRetries.toNat := by
      intro hkind
      rcases h with hstops | rfl
      · exact absurd (hpassing.1 hstops) hkind
      · exact Nat.lt_irrefl _
    exact ⟨fun _ => ⟨hcalls, houtcome⟩, fun _ => ⟨hcalls, houtcome⟩,
      fun hkind hleft => absurd hleft (hlast hkind), fun hkind hleft => absurd hleft (hlast hkind)⟩
  | repeated hpasses hleft hwait hcalls =>
    rw [Nat.zero_add] at hwait
    exact ⟨fun hkind => absurd hkind (hgoes hpasses),
      fun hspent => absurd hspent (Nat.ne_of_lt hleft), fun _ _ _ => hcalls,
      fun _ _ h => absurd h hwait⟩
  | overflowed hpasses hleft hwait hcalls houtcome =>
    rw [Nat.zero_add] at hwait
    exact ⟨fun hkind => absurd hkind (hgoes hpasses),
      fun hspent => absurd hspent (Nat.ne_of_lt hleft), fun _ _ h => absurd hwait h,
      fun _ _ _ => ⟨hcalls, houtcome⟩⟩

/-- Every refusal becomes a failure, and with both vendors it is the same one but for their names.
Of too long a request it tells if and only if the request was a bad one and a marker of the limit is
in the code, in the message, or in both with the blank between them, which cannot be where there is
no code. The attempt that fails so is the last one of its run if it is of this kind or one of
authentication, and otherwise only if no attempt is left or if there is no wait that a double can
hold. -/
theorem refusals_become_failures (r : Refusal) (message : String) :
    ∃ kind text, r.Becomes message kind text ∧
      (∀ (a : Account) (env : Environment) (reply : String → Request → Answer) (c : Call)
        (client : Client) (key : String) (contacts : List Contact),
        a.open? env client = .ok (key, contacts) → reply key (a.request c) = .refused r message →
          (a.visit env reply c client).turn = .failed ⟨kind, a.vendor.label ++ text⟩) ∧
      (kind = .tokenLimit ↔ ∃ code, r = .badRequest code ∧
        (Marks (codeText code) ∨ Marks message ∨ Straddles (codeText code) message)) ∧
      ¬ Straddles "" message ∧
      ∀ (v : Vendor) (p : Retry.Policy) (σ : Type) (call : σ → Turn Completion × σ) (s : σ)
        (i : Nat), i < (Retry.run p call s).1.calls →
          Retry.heard p (Retry.turn call s i) = .failed ⟨kind, v.label ++ text⟩ →
            Followed p i ⟨kind, v.label ++ text⟩ (Retry.run p call s).1 := by
  obtain ⟨kind, text, hbecomes, hfailure⟩ := r.becomes_failure message
  refine ⟨kind, text, hbecomes, ?_, hbecomes.tokenLimit_iff, not_straddles_empty message, ?_⟩
  · intro a env reply c client key contacts hopen hreply
    rw [visit_of_refused hopen hreply, hfailure]
  · intro v p σ call s i hi hf
    exact followed_of_ensues (hbecomes.isPassing_eq_false_iff v) (Retry.ensues_runFrom hi hf)

theorem refusals_become_failures_joint :
    let code : Json := .str "context"
    let message := "length is bad"
    let account (v : Vendor) : Account := make v none none 2000
    let env : Environment := [("ANTHROPIC_API_KEY", "k"), ("OPENAI_API_KEY", "k")]
    let call (v : Vendor) (client : Client) : Turn Completion × Client :=
      let visit := (account v).visit env (fun _ _ => .refused (.badRequest code) message)
        ⟨"p", none, 2000, 30⟩ client
      (visit.turn, visit.client)
    let p : Retry.Policy := {}
    let trace (v : Vendor) : Retry.Trace Completion := (Retry.run p (call v) none).1
    let ended (v : Vendor) : Prop := (trace v).calls = 1 ∧
      (trace v).outcome = .error (.failure ⟨.tokenLimit,
        v.label ++ (" request exceeds the model's token limit: " ++ message)⟩)
    ¬ Marks (codeText code) ∧ ¬ Marks message ∧ ended .anthropic ∧ ended .openai := by
  intro code message account env call p trace ended
  have hstraddles : Straddles (codeText code) message := by
    refine ⟨"context length", by decide, "context".toList, "length".toList, ?_, ?_, ?_⟩
    · decide +kernel
    · decide +kernel
    · decide +kernel
  obtain ⟨kind, text, hbecomes, hvisit, hiff, -, hrun⟩ :=
    refusals_become_failures (.badRequest code) message
  have hkind := hiff.2 ⟨code, rfl, .inr (.inr hstraddles)⟩
  cases hbecomes with
  | badRequest _ _ => cases hkind
  | tokenLimit _ _ =>
    have hample : Retry.Ample p := ⟨by decide +kernel, by decide +kernel⟩
    have hended (v : Vendor) : ended v := by
      have hturn : Retry.turn (call v) none 0 = _ :=
        hvisit (account v) env _ ⟨"p", none, 2000, 30⟩ none "k" [.opened "k"]
          (by cases v <;> rfl) rfl
      have hpos := Retry.run_calls_pos p (call v) none
      have hfollowed := hrun v p Client (call v) none 0 hpos ((hample.heard_eq _).trans hturn)
      exact hfollowed.final (.inl rfl)
    exact ⟨by decide +kernel, by decide +kernel, hended _, hended _⟩

end Account

end Mend
