import Mathlib.Algebra.Group.Int.Defs
import Mend.Proofs.Model.Retry

/-! The course of a run. The turns that its calls take decide how many attempts there are, and the
last of them what comes of the run; the wait before the attempt numbered `i + 1` is `i + 1` times the
base delay. -/

namespace Mend

def Turn.isPassing : Turn α → Bool
  | returned _ => false
  | failed f => f.isPassing
  | late _ => true
  | crashed _ _ => true

namespace Retry

variable {α σ : Type} {p : Policy} {call : σ → Turn α × σ} {s : σ} {t : Nat → Turn α}
  {n i j k left : Nat} {outcome : Except Stop α} {trace : Trace α}

def after (call : σ → Turn α × σ) (s : σ) : Nat → σ
  | 0 => s
  | i + 1 => after call (call s).2 i

/-- The turn that the call numbered `i` takes. -/
def turn (call : σ → Turn α × σ) (s : σ) (i : Nat) : Turn α := (call (after call s i)).1

/-- What is heard of a turn. With no time at all it is late, and under a limit that no clock can
hold nothing is called. -/
def heard (p : Policy) (t : Turn α) : Turn α :=
  if p.timeout.le 0 then .late ""
  else match p.timeout.toReal? with
    | some _ => t
    | none => .crashed "" outOfRangeText

/-- What the caller is told of a turn. -/
inductive Told (p : Policy) : Turn α → Except Stop α → Prop
  | value (a : α) : Told p (.returned a) (.ok a)
  | failure (f : Failure) : Told p (.failed f) (.error (.failure f))
  | late (text : String) (x : Binary64) (h : p.timeout.toReal? = some x) :
    Told p (.late text)
      (.error (.failure ⟨.timeout, "Model call timed out after " ++ Decimal.briefText x ++ "s"⟩))
  | crash (kind text : String) :
    Told p (.crashed kind text) (.error (.failure ⟨.provider, "Model call failed: " ++ text⟩))

/-- Of the turn numbered zero and `left` more, the one numbered `k` is the last that is taken: those
before it pass, and so does it only if none is left. -/
structure Ends (t : Nat → Turn α) (left k : Nat) : Prop where
  within : k ≤ left
  passing : ∀ i < k, (t i).isPassing = true
  last : (t k).isPassing = true → k = left

theorem exists_ends (t : Nat → Turn α) (left : Nat) : ∃ k, Ends t left k := by
  induction left generalizing t with
  | zero => exact ⟨0, Nat.le_refl 0, nofun, fun _ => rfl⟩
  | succ left ih =>
    cases hfirst : (t 0).isPassing with
    | false => exact ⟨0, Nat.zero_le _, nofun, fun h => by simp [hfirst] at h⟩
    | true =>
      obtain ⟨k, hk⟩ := ih fun i => t (i + 1)
      refine ⟨k + 1, Nat.succ_le_succ hk.within, ?_, fun h => congrArg (· + 1) (hk.last h)⟩
      intro i hi
      cases i with
      | zero => exact hfirst
      | succ i => exact hk.passing i (Nat.lt_of_succ_lt_succ hi)

theorem Ends.unique (hj : Ends t left j) (hk : Ends t left k) : j = k := by
  rcases Nat.lt_trichotomy j k with hlt | heq | hgt
  · have hlast := hj.last (hk.passing j hlt)
    have hwithin := hk.within
    omega
  · exact heq
  · have hlast := hk.last (hj.passing k hgt)
    have hwithin := hj.within
    omega

/-- A run of `k + 1` attempts with a wait between every two, the first of them numbered `n`. -/
structure Course (p : Policy) (n k : Nat) (outcome : Except Stop α) (trace : Trace α) : Prop where
  events : trace.events = spaced trace.waits
  calls : trace.calls = k + 1
  waits : trace.waits.map some =
    (List.range' n k).map fun i : Nat => p.baseDelay.mul? (.int (i + 1))
  outcome : trace.outcome = outcome

theorem Course.after {w : Number} (h : Course p (n + 1) k outcome trace) (hw : wait? p n = some w) :
    Course p n (k + 1) outcome (trace.after w) where
  events := events_after h.events w
  calls := by rw [Trace.after_calls, h.calls]
  waits := by
    have hdelay : p.baseDelay.mul? (.int (n + 1)) = some w := by
      obtain ⟨v, hv, hw⟩ := Option.bind_eq_some_iff.1 hw
      obtain ⟨_, -, hw⟩ := Option.bind_eq_some_iff.1 hw
      cases hw
      exact hv
    rw [Trace.after_waits, List.map_cons, h.waits, List.range'_succ, List.map_cons, hdelay]
  outcome := h.outcome

theorem attempt_fst (p : Policy) (call : σ → Turn α × σ) (s : σ) :
    (attempt p call s).1 = settle p (heard p (call s).1) := by
  unfold attempt heard
  split
  · rfl
  · cases p.timeout.toReal? with
    | none => rfl
    | some x => rfl

theorem heard_turn (p : Policy) (call : σ → Turn α × σ) (s : σ) (i : Nat) :
    heard p (turn call (attempt p call s).2 i) = heard p (turn call s (i + 1)) := by
  unfold heard attempt
  split
  · rfl
  · cases p.timeout.toReal? with
    | none => rfl
    | some x => rfl

/-- An attempt can be told of: it is not a late one under a limit beyond the doubles. -/
def Tellable (p : Policy) : Prop := p.timeout.toReal? = none → p.timeout.le 0 = false

theorem told_settle (hp : Tellable p) (t : Turn α) : Told p (heard p t) (settle p (heard p t)) := by
  unfold heard
  cases hx : p.timeout.toReal? with
  | none =>
    rw [hp hx]
    exact .crash _ _
  | some x =>
    have hlate (text : String) : Told p (.late text : Turn α) (settle p (.late text)) := by
      simp only [settle, timedOut, hx]
      exact .late text x hx
    split
    · exact hlate _
    · cases t with
      | returned a => exact .value a
      | failed f => exact .failure f
      | late text => exact hlate text
      | crashed kind text => exact .crash kind text

theorem Told.repeats {t : Turn α} (h : Told p t outcome) : repeats outcome = t.isPassing := by
  cases h with
  | value a => rfl
  | failure f => rfl
  | late text x h => rfl
  | crash kind text => rfl

theorem repeats_attempt (hp : Tellable p) (call : σ → Turn α × σ) (s : σ) :
    repeats (attempt p call s).1 = (heard p (call s).1).isPassing := by
  rw [attempt_fst]
  exact (told_settle hp _).repeats

def reached (p : Policy) (call : σ → Turn α × σ) (s : σ) : Nat → σ
  | 0 => s
  | i + 1 => reached p call (attempt p call s).2 i

theorem heard_reached (p : Policy) (call : σ → Turn α × σ) (s : σ) (i : Nat) :
    heard p (call (reached p call s i)).1 = heard p (turn call s i) := by
  induction i generalizing s with
  | zero => rfl
  | succ i ih =>
    rw [reached, ih]
    exact heard_turn p call s i

/-- Attempts that pass, with a wait behind each, before one that ends the run. -/
theorem course_of_last (hp : Tellable p)
    (hpassing : ∀ i < j, (heard p (turn call s i)).isPassing = true)
    (hwaits : ∀ i < j, wait? p (n + i) ≠ none)
    (hlast : (runFrom p call (n + j) left (reached p call s j)).1 = .once outcome) :
    Course p n j outcome (runFrom p call n (left + j) s).1 := by
  induction j generalizing n s with
  | zero =>
    have hrun : (runFrom p call n (left + 0) s).1 = .once outcome := hlast
    rw [hrun]
    exact ⟨rfl, rfl, rfl, rfl⟩
  | succ j ih =>
    have hrepeats : repeats (attempt p call s).1 = true := by
      rw [repeats_attempt hp]
      exact hpassing 0 (Nat.succ_pos j)
    obtain ⟨w, hw⟩ : ∃ w, wait? p n = some w :=
      Option.ne_none_iff_exists'.1 (hwaits 0 (Nat.succ_pos j))
    rw [← Nat.add_assoc, runFrom_succ_of_repeats hrepeats hw]
    refine Course.after (ih ?_ ?_ ?_) hw
    · intro i hi
      rw [heard_turn]
      exact hpassing (i + 1) (Nat.succ_lt_succ hi)
    · intro i hi
      rw [Nat.add_assoc, Nat.add_comm 1 i]
      exact hwaits (i + 1) (Nat.succ_lt_succ hi)
    · rw [Nat.add_assoc, Nat.add_comm 1 j]
      exact hlast

theorem course_of_ends (hp : Tellable p) (h : Ends (fun i => heard p (turn call s i)) left k)
    (hwaits : ∀ i < k, wait? p (n + i) ≠ none) :
    Course p n k (settle p (heard p (turn call s k))) (runFrom p call n left s).1 := by
  obtain ⟨more, rfl⟩ := Nat.exists_eq_add_of_le' h.within
  apply course_of_last hp h.passing hwaits
  have hlast : (attempt p call (reached p call s k)).1 = settle p (heard p (turn call s k)) := by
    rw [attempt_fst, heard_reached]
  have hnone : repeats (attempt p call (reached p call s k)).1 = true → more = 0 := by
    rw [repeats_attempt hp, heard_reached]
    intro hpassing
    have hk := h.last hpassing
    omega
  rw [runFrom_of_last hnone, hlast]

theorem course_of_overflow (hp : Tellable p) (h : Ends (fun i => heard p (turn call s i)) left k)
    (hj : j < k) (hwaits : ∀ i < j, wait? p (n + i) ≠ none) (hnone : wait? p (n + j) = none) :
    Course p n j (.error .outOfRange) (runFrom p call n left s).1 := by
  have hleft : left = left - j - 1 + 1 + j := by
    have hwithin := h.within
    omega
  rw [hleft]
  apply course_of_last hp (fun i hi => h.passing i (Nat.lt_trans hi hj)) hwaits
  have hrepeats : repeats (attempt p call (reached p call s j)).1 = true := by
    rw [repeats_attempt hp, heard_reached]
    exact h.passing j hj
  rw [runFrom_succ_of_overflow hrepeats hnone]

/-- Only the turns decide what a run comes to, not the state that they come from. -/
theorem runFrom_congr {τ : Type} {call' : τ → Turn α × τ} {s' : τ}
    (h : ∀ i, turn call s i = turn call' s' i) :
    (runFrom p call n left s).1 = (runFrom p call' n left s').1 := by
  have hattempt {s : σ} {s' : τ} (h : ∀ i, turn call s i = turn call' s' i) :
      (attempt p call s).1 = (attempt p call' s').1 := by
    have hfirst : (call s).1 = (call' s').1 := h 0
    rw [attempt_fst, attempt_fst, hfirst]
  induction n, left, s using runFrom_induction p call generalizing s' with
  | last n left s hlast hrun =>
    rw [hattempt h] at hlast
    rw [hrun, runFrom_of_last hlast, hattempt h]
  | overflow n left s hrepeats hw hrun =>
    rw [hattempt h] at hrepeats
    rw [hrun, runFrom_succ_of_overflow hrepeats hw]
  | again n left s w hrepeats hw hrun ih =>
    have hnext : ∀ i, turn call (attempt p call s).2 i = turn call' (attempt p call' s').2 i := by
      intro i
      unfold attempt
      split
      · exact h i
      · cases p.timeout.toReal? with
        | none => exact h i
        | some x => exact h (i + 1)
    rw [hattempt h] at hrepeats
    rw [hrun, runFrom_succ_of_repeats hrepeats hw]
    exact congrArg (Trace.after w) (ih hnext)

/-- There is time for an attempt, and a clock can hold it. -/
structure Ample (p : Policy) : Prop where
  positive : p.timeout.le 0 = false
  held : p.timeout.toReal? ≠ none

theorem Ample.tellable (h : Ample p) : Tellable p := fun hnone => absurd hnone h.held

theorem Ample.heard_eq (h : Ample p) (t : Turn α) : heard p t = t := by
  obtain ⟨x, hx⟩ := Option.ne_none_iff_exists'.1 h.held
  simp [heard, h.positive, hx]

theorem Ample.attempt_snd (h : Ample p) (call : σ → Turn α × σ) (s : σ) :
    (attempt p call s).2 = (call s).2 := by
  obtain ⟨x, hx⟩ := Option.ne_none_iff_exists'.1 h.held
  simp [attempt, h.positive, hx]

theorem Ample.runFrom_snd (h : Ample p) :
    (runFrom p call n left s).2 = after call s (runFrom p call n left s).1.calls := by
  induction n, left, s using runFrom_induction p call with
  | last n left s _ hrun =>
    rw [hrun]
    exact h.attempt_snd call s
  | overflow n left s _ _ hrun =>
    rw [hrun]
    exact h.attempt_snd call s
  | again n left s w _ _ hrun ih =>
    rw [hrun]
    dsimp only
    rw [ih, h.attempt_snd, Trace.after_calls]
    rfl

theorem run_of_not_tellable (hnone : p.timeout.toReal? = none) (hlimit : p.timeout.le 0 = true) :
    run p call s = (.once (.error .outOfRange), s) := by
  have hattempt : attempt p call s = (.error .outOfRange, s) := by
    simp [attempt, timedOut, hlimit, hnone]
  have hlast : repeats (attempt p call s).1 = true → p.maxRetries.toNat = 0 := by
    rw [hattempt]
    exact fun hrepeats => absurd hrepeats Bool.false_ne_true
  rw [run, runFrom_of_last hlast, hattempt]

/-- The course of every run. The attempt numbered `k`, the first that does not pass or else the last
that is allowed, ends it, and the caller is told of that attempt; before it there are `k` waits, of
one base delay, of two and so on. Only a number beyond the doubles changes this: the first wait that
no double can hold ends the run, and under such a limit the attempts are late or crash. Limits and
delays that are doubles themselves come to no such number in any number of attempts that could be
made. -/
theorem run_course (p : Policy) (call : σ → Turn α × σ) (s : σ) :
    (Tellable p → ∃ k, Ends (fun i => heard p (turn call s i)) p.maxRetries.toNat k ∧
      ((∀ i < k, wait? p i ≠ none) → ∃ outcome, Told p (heard p (turn call s k)) outcome ∧
        Course p 0 k outcome (run p call s).1) ∧
      ∀ j < k, (∀ i < j, wait? p i ≠ none) → wait? p j = none →
        Course p 0 j (.error .outOfRange) (run p call s).1) ∧
    (¬ Tellable p → run p call s = (.once (.error .outOfRange), s)) ∧
    (∀ x, p.timeout = .real x → Tellable p) ∧
    (∀ b, p.baseDelay = .real b → ∀ i, i + 1 + 2 ^ 970 < 2 ^ 1024 → wait? p i ≠ none) := by
  refine ⟨?_, ?_, ?_, ?_⟩
  · intro hp
    obtain ⟨k, hk⟩ := exists_ends (fun i => heard p (turn call s i)) p.maxRetries.toNat
    refine ⟨k, hk, ?_, ?_⟩
    · intro hwaits
      exact ⟨_, told_settle hp _, course_of_ends hp hk (by simpa using hwaits)⟩
    · intro j hj hwaits hnone
      exact course_of_overflow hp hk hj (by simpa using hwaits) (by simpa using hnone)
  · intro hp
    rw [Tellable, Classical.not_imp, Bool.not_eq_false] at hp
    exact run_of_not_tellable hp.1 hp.2
  · intro x hx hnone
    rw [hx] at hnone
    cases hnone
  · intro b hb i hi
    obtain ⟨w, hw⟩ := wait?_isSome hb hi
    rw [hw]
    exact Option.some_ne_none w

theorem run_course_flaky :
    let p : Policy := ⟨5, .real .one, .int 3⟩
    let q : Policy := ⟨1, .real .one, .int (10 ^ 309)⟩
    let play (i : Nat) : Turn Nat × Nat :=
      (if i = 0 then .failed ⟨.rateLimit, "busy"⟩ else if i = 1 then .late "" else .returned 7,
        i + 1)
    (Tellable p ∧ (∀ i < 2, wait? p i ≠ none) ∧ Course p 0 2 (.ok 7) (run p play 0).1) ∧
      Tellable q ∧ wait? q 0 = none ∧ Course q 0 0 (.error .outOfRange) (run q play 0).1 := by
  intro p q play
  have hp : Tellable p := (run_course p play 0).2.2.1 .one rfl
  have hq : Tellable q := (run_course q play 0).2.2.1 .one rfl
  have hheard (i : Nat) : heard p (turn play 0 i) = turn play 0 i := by
    have hlimit : p.timeout.le 0 = false := by decide +kernel
    rw [heard, hlimit]
    rfl
  have hwaits : ∀ i < 2, wait? p i ≠ none := by decide +kernel
  have hnone : wait? q 0 = none := by decide +kernel
  refine ⟨⟨hp, hwaits, ?_⟩, hq, hnone, ?_⟩
  · obtain ⟨k, hk, hcourse, -⟩ := (run_course p play 0).1 hp
    simp only [hheard] at hk hcourse
    have hends : Ends (fun i => turn play 0 i) 5 2 := ⟨by decide, by decide, nofun⟩
    obtain rfl := hk.unique hends
    obtain ⟨outcome, htold, hcourse⟩ := hcourse hwaits
    cases htold
    exact hcourse
  · obtain ⟨k, hk, -, hoverflow⟩ := (run_course q play 0).1 hq
    have hpos : 0 < k := by
      apply Nat.pos_of_ne_zero
      rintro rfl
      cases hk.last (by decide +kernel)
    exact hoverflow 0 hpos nofun hnone

end Retry

end Mend
