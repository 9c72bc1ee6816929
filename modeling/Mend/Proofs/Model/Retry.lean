import Mend.Model.Retry
import Mend.Proofs.Number.Binary64

namespace Mend.Retry

variable {α σ : Type} {p : Policy} {call : σ → Turn α × σ} {n left : Nat} {s : σ}

theorem runFrom_of_last (h : repeats (attempt p call s).1 = true → left = 0) :
    runFrom p call n left s = (.once (attempt p call s).1, (attempt p call s).2) := by
  cases left with
  | zero => rfl
  | succ left =>
    have hstops : repeats (attempt p call s).1 = false :=
      Bool.eq_false_iff.2 fun hrepeats => Nat.succ_ne_zero left (h hrepeats)
    simp only [runFrom, hstops]
    rfl

theorem runFrom_succ_of_repeats {w : Number} (h : repeats (attempt p call s).1 = true)
    (hw : wait? p n = some w) :
    runFrom p call n (left + 1) s =
      ((runFrom p call (n + 1) left (attempt p call s).2).1.after w,
        (runFrom p call (n + 1) left (attempt p call s).2).2) := by
  simp only [runFrom, h, hw]
  rfl

theorem runFrom_succ_of_overflow (h : repeats (attempt p call s).1 = true)
    (hw : wait? p n = none) :
    runFrom p call n (left + 1) s = (.once (.error .outOfRange), (attempt p call s).2) := by
  simp only [runFrom, h, hw]
  rfl

/-- Along the attempts of a run: the last one, one behind which there is no wait that a double can
hold, and one with a wait and the rest of the run behind it. -/
@[elab_as_elim]
theorem runFrom_induction (p : Policy) (call : σ → Turn α × σ) {motive : Nat → Nat → σ → Prop}
    (last : ∀ n left s, (repeats (attempt p call s).1 = true → left = 0) →
      runFrom p call n left s = (.once (attempt p call s).1, (attempt p call s).2) →
      motive n left s)
    (overflow : ∀ n left s, repeats (attempt p call s).1 = true → wait? p n = none →
      runFrom p call n (left + 1) s = (.once (.error .outOfRange), (attempt p call s).2) →
      motive n (left + 1) s)
    (again : ∀ n left s w, repeats (attempt p call s).1 = true → wait? p n = some w →
      runFrom p call n (left + 1) s =
        ((runFrom p call (n + 1) left (attempt p call s).2).1.after w,
          (runFrom p call (n + 1) left (attempt p call s).2).2) →
      motive (n + 1) left (attempt p call s).2 → motive n (left + 1) s)
    (n left : Nat) (s : σ) : motive n left s := by
  induction left generalizing n s with
  | zero => exact last n 0 s (fun _ => rfl) rfl
  | succ left ih =>
    cases h : repeats (attempt p call s).1 with
    | false =>
      have hlast : repeats (attempt p call s).1 = true → left + 1 = 0 :=
        fun hrepeats => absurd (h.symm.trans hrepeats) Bool.false_ne_true
      exact last n (left + 1) s hlast (runFrom_of_last hlast)
    | true =>
      cases hw : wait? p n with
      | none => exact overflow n left s h hw (runFrom_succ_of_overflow h hw)
      | some w => exact again n left s w h hw (runFrom_succ_of_repeats h hw) (ih _ _)

@[simp] theorem Trace.after_calls (w : Number) (t : Trace α) :
    (t.after w).calls = t.calls + 1 := by
  simp [Trace.after, Trace.calls, Retry.calls]

theorem Trace.after_waits (w : Number) (t : Trace α) : (t.after w).waits = w :: t.waits := rfl

/-- Attempts with a wait between every two of them. -/
def spaced (ws : List Number) : List Event :=
  .attempt :: ws.flatMap fun w => [.wait w, .attempt]

theorem events_after {ws : List Number} {t : Trace α} (h : t.events = spaced ws) (w : Number) :
    (t.after w).events = spaced (w :: ws) := by
  rw [Trace.after, h]
  rfl

theorem attempt_of_returned {a : α} {x : Binary64} (hp : p.timeout = .real x)
    (hlimit : p.timeout.le 0 = false) (hcall : (call s).1 = .returned a) :
    (attempt p call s).1 = .ok a := by
  have hreal : p.timeout.toReal? = some x := by
    rw [hp]
    rfl
  rw [attempt, hlimit, hreal]
  exact congrArg (settle p) hcall

theorem runFrom_of_returned {a : α} (h : (attempt p call s).1 = .ok a) :
    (runFrom p call n left s).1.outcome = .ok a := by
  have hlast : repeats (attempt p call s).1 = true → left = 0 := by
    rw [h]
    exact fun hrepeats => absurd hrepeats Bool.false_ne_true
  rw [runFrom_of_last hlast]
  exact h

theorem settle_ne_outOfRange {x : Binary64} (hp : p.timeout = .real x) (t : Turn α) :
    settle p t ≠ .error .outOfRange := by
  cases t with
  | returned a => nofun
  | failed f => nofun
  | late text =>
    rw [settle, timedOut, hp]
    nofun
  | crashed kind text => nofun

theorem attempt_ne_outOfRange {x : Binary64} (hp : p.timeout = .real x) :
    (attempt p call s).1 ≠ .error .outOfRange := by
  unfold attempt
  split
  · rw [timedOut, hp]
    nofun
  · split
    · nofun
    · exact settle_ne_outOfRange hp _

theorem delay?_of_real {b x : Binary64} {m : Int} (hx : Binary64.ofInt? (m + 1) = some x) :
    delay? (.real b) m = some (.real (b * x)) := by
  have hreal : (Number.int (m + 1)).toReal? = some x := hx
  rw [delay?, Number.mul?, hreal]
  · rfl
  · nofun

theorem wait?_isSome {b : Binary64} (hb : p.baseDelay = .real b)
    (hn : n + 1 + 2 ^ 970 < 2 ^ 1024) : ∃ w, wait? p n = some w := by
  cases hx : Binary64.ofInt? ((n : Int) + 1) with
  | none =>
    have habs : ((n : Int) + 1).natAbs = n + 1 := rfl
    rw [Binary64.ofInt?_eq_none_iff, habs] at hx
    exact absurd hn (Nat.not_lt.2 hx)
  | some x =>
    refine ⟨.real (b * x), ?_⟩
    rw [wait?, hb, delay?_of_real hx]
    rfl

theorem runFrom_ne_outOfRange {x b : Binary64} (hp : p.timeout = .real x)
    (hb : p.baseDelay = .real b) (hn : n + left + 2 ^ 970 < 2 ^ 1024) :
    (runFrom p call n left s).1.outcome ≠ .error .outOfRange := by
  induction n, left, s using runFrom_induction p call with
  | last n left s _ hrun =>
    rw [hrun]
    exact attempt_ne_outOfRange hp
  | overflow n left s _ hnone hrun =>
    obtain ⟨w, hw⟩ := wait?_isSome (n := n) hb (by omega)
    cases hw.symm.trans hnone
  | again n left s w _ _ hrun ih =>
    rw [hrun]
    exact ih (by omega)

end Mend.Retry
