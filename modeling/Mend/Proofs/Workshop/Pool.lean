import Mathlib.Logic.Relation
import Mend.Proofs.Tally
import Mend.Proofs.Workshop.Dispatch

/-! Requests that are open at the same time. Each of them advances by itself, one attempt at a call
after the other, and the workshop and the provider are shared. Which request advances next is left
open, but for a bound on those that have begun. -/

namespace Mend

inductive Stage
  | waiting
  /-- Some attempts at a call have failed. -/
  | asking (attempts : Nat)
  | answered (report : Report)
  | faulted (f : Reply.Fault)

structure Task where
  request : Request
  stage : Stage

namespace Workshop

variable {S : Type} {w v : Workshop S} {as bs log : List (Request × Report)}

inductive Enters (w : Workshop S) : List (Request × Report) → Workshop S → Prop
  | nothing : Enters w [] w
  | entered {as : List (Request × Report)} {v : Workshop S} (h : Enters w as v) (now : String)
      (r : Request) (report : Report) : Enters w ((r, report) :: as) (v.entered now r report)

def Tallies (w : Workshop S) (as : List (Request × Report)) : Prop :=
  w.tally.SumsUp (as.map fun a => w.noted a.1 a.2)

theorem Tallies.entered (h : w.Tallies as) (now : String) (r : Request) (report : Report) :
    (w.entered now r report).Tallies ((r, report) :: as) :=
  h.record now (w.noted r report)

theorem Tallies.perm (h : w.Tallies as) (hperm : as.Perm bs) : w.Tallies bs :=
  Tally.SumsUp.perm h (hperm.map _)

theorem Enters.eq_of_nil (h : w.Enters [] v) : v = w := by
  cases h with
  | nothing => rfl

theorem Enters.catalog (h : w.Enters as v) : v.catalog = w.catalog := by
  induction h with
  | nothing => rfl
  | entered _ now r report ih => exact ih

theorem Enters.sound (h : w.Enters as v) (hw : w.tally.Sound) : v.tally.Sound := by
  induction h with
  | nothing => exact hw
  | entered _ now r report ih => exact ih.record now _

theorem Enters.tallies (h : w.Enters as v) (hw : w.Tallies log) : v.Tallies (as ++ log) := by
  induction h with
  | nothing => exact hw
  | entered _ now r report ih => exact ih.entered now r report

end Workshop

namespace Task

variable {S : Type}

def start (r : Request) : Task := ⟨r, .waiting⟩

def isAsking (k : Task) : Bool :=
  match k.stage with
  | .asking _ => true
  | _ => false

def isOpen (k : Task) : Bool :=
  match k.stage with
  | .waiting => true
  | .asking _ => true
  | _ => false

def isFaulted (k : Task) : Bool :=
  match k.stage with
  | .faulted _ => true
  | _ => false

def answer? (k : Task) : Option (Request × Report) :=
  match k.stage with
  | .answered report => some (k.request, report)
  | _ => none

/-- The stage after a report, which is entered, or after a fault, which is not. -/
def close (w : Workshop S) (now : String) (r : Request) :
    Except Reply.Fault Proposal → Workshop S × Stage
  | .ok p =>
    let (report, w) := w.finish now (w.selected? r) r p.report
    (w, .answered report)
  | .error f => (w, .faulted f)

def begin [Repairer S] (assistant : Option (Assistant σ)) (now : String) (tree : FileTree)
    (w : Workshop S) (r : Request) : Workshop S × Stage :=
  let report := w.draft tree r
  if assistant.isNone || report.success then
    let (report, w) := w.finish now (w.selected? r) r report
    (w, .answered report)
  else (w, .asking 0)

/-- The stage after an attempt at a call that came to `result`, `n` others having failed before. -/
def react (a : Assistant σ) (now : String) (w : Workshop S) (r : Request) (n : Nat)
    (result : Except Retry.Stop Completion) : Workshop S × Stage :=
  if Retry.repeats result && n < a.policy.maxRetries.toNat then
    match Retry.wait? a.policy n with
    | some _ => (w, .asking (n + 1))
    | none => close w now r (a.conclude now r.diagnostic (.error .outOfRange))
  else close w now r (a.conclude now r.diagnostic result)

def attempt (a : Assistant σ) (now : String) (w : Workshop S) (r : Request) (n : Nat) (s : σ) :
    (Workshop S × Stage) × σ :=
  let tried := Retry.attempt a.policy
    (a.provider.complete (a.call r.diagnostic (Workshop.contextFor r))) s
  (react a now w r n tried.1, tried.2)

/-- One step of a request. A request that is answered or faulted stays as it is. -/
def advance [Repairer S] (assistant : Option (Assistant σ)) (now : String) (tree : FileTree)
    (w : Workshop S) (k : Task) (s : σ) : (Workshop S × Stage) × σ :=
  match k.stage, assistant with
  | .waiting, _ => (begin assistant now tree w k.request, s)
  | .asking n, some a => attempt a now w k.request n s
  | stage, _ => ((w, stage), s)

variable {σ : Type} {assistant : Option (Assistant σ)} {now : String} {tree : FileTree}
  {w w' : Workshop S} {k : Task} {stage : Stage} {s s' : σ}

/-- What one step does to the workshop: a request that is answered is entered, and any other step
leaves the workshop as it was. -/
inductive Moves (w : Workshop S) (k : Task) : Workshop S → Stage → Prop
  | entered (now : String) (report : Report) (h : k.isOpen = true) :
    Moves w k (w.entered now k.request report) (.answered report)
  | unentered (stage : Stage) (h : k.isOpen = true) (hs : (Task.mk k.request stage).answer? = none) :
    Moves w k w stage
  | settled (h : k.isOpen = false) : Moves w k w k.stage

theorem moves_close (h : k.isOpen = true) (outcome : Except Reply.Fault Proposal) :
    Moves w k (close w now k.request outcome).1 (close w now k.request outcome).2 := by
  cases outcome with
  | ok p =>
    rw [close, Workshop.finish_eq]
    exact .entered now _ h
  | error f => exact .unentered _ h rfl

theorem moves_begin [Repairer S] (h : k.isOpen = true) :
    Moves w k (begin assistant now tree w k.request).1 (begin assistant now tree w k.request).2 := by
  unfold begin
  dsimp only
  split
  · rw [Workshop.finish_eq]
    exact .entered now _ h
  · exact .unentered _ h rfl

theorem moves_react (h : k.isOpen = true) (a : Assistant σ) (n : Nat)
    (result : Except Retry.Stop Completion) :
    Moves w k (react a now w k.request n result).1 (react a now w k.request n result).2 := by
  unfold react
  split
  · split
    · exact .unentered _ h rfl
    · exact moves_close h _
  · exact moves_close h _

theorem moves_attempt (h : k.isOpen = true) (a : Assistant σ) (n : Nat) :
    Moves w k (attempt a now w k.request n s).1.1 (attempt a now w k.request n s).1.2 := by
  rw [attempt]
  dsimp only
  exact moves_react h a n _

theorem advance_waiting [Repairer S] (r : Request) :
    advance assistant now tree w (start r) s = (begin assistant now tree w r, s) := rfl

theorem advance_asking [Repairer S] (a : Assistant σ) (r : Request) (n : Nat) :
    advance (some a) now tree w ⟨r, .asking n⟩ s = attempt a now w r n s := rfl

theorem moves_advance [Repairer S] :
    Moves w k (advance assistant now tree w k s).1.1 (advance assistant now tree w k s).1.2 := by
  obtain ⟨r, stage⟩ := k
  cases stage with
  | waiting => exact moves_begin rfl
  | asking n =>
    cases assistant with
    | none => exact .unentered _ rfl rfl
    | some a =>
      rw [advance_asking]
      exact moves_attempt rfl a n
  | answered report => exact .settled rfl
  | faulted f => exact .settled rfl

def answers (ks : List Task) : List (Request × Report) := ks.filterMap answer?

theorem answers_append (ks ls : List Task) : answers (ks ++ ls) = answers ks ++ answers ls :=
  List.filterMap_append

theorem answers_cons (k : Task) (ks : List Task) :
    answers (k :: ks) = k.answer?.toList ++ answers ks := by
  unfold answers
  cases h : k.answer? with
  | none => rw [List.filterMap_cons_none h]; rfl
  | some a => rw [List.filterMap_cons_some h]; rfl

theorem answer?_of_isOpen (h : k.isOpen = true) : k.answer? = none := by
  obtain ⟨r, stage⟩ := k
  cases stage with
  | waiting => rfl
  | asking n => rfl
  | answered report => cases h
  | faulted f => cases h

/-- One task among others moves: what is answered then was answered before, or is entered now. -/
theorem Moves.answers (h : Moves w k w' stage) (before after : List Task) :
    (w' = w ∧ answers (before ++ ⟨k.request, stage⟩ :: after) = answers (before ++ k :: after)) ∨
    ∃ now report, w' = w.entered now k.request report ∧
      (answers (before ++ ⟨k.request, stage⟩ :: after)).Perm
        ((k.request, report) :: answers (before ++ k :: after)) := by
  cases h with
  | entered now report hopen =>
    right
    refine ⟨now, report, rfl, ?_⟩
    simp only [answers_append, answers_cons, answer?_of_isOpen hopen]
    exact List.perm_middle
  | unentered _ hopen hs =>
    left
    refine ⟨rfl, ?_⟩
    simp only [answers_append, answers_cons, answer?_of_isOpen hopen, hs]
  | settled hopen => exact .inl ⟨rfl, rfl⟩

end Task

/-- A workshop and a provider with the requests at work: those that are waited for, and those that
nobody waits for any more. -/
structure Pool (σ : Type) (S : Type := Strategy) where
  workshop : Workshop S
  provider : σ
  tasks : List Task
  adrift : List Task

namespace Pool

variable {S : Type} {σ : Type} {assistant : Option (Assistant σ)} {bound : Int} {p q : Pool σ S}

/-- One request advances. A waiting one begins only while fewer than the bound are asking. -/
inductive Step [Repairer S] (assistant : Option (Assistant σ)) (bound : Int) :
    Pool σ S → Pool σ S → Prop
  | task (now : String) (tree : FileTree) (w : Workshop S) (s : σ) (before after adrift : List Task)
      (k : Task) (h : k.stage = .waiting → ((before ++ after).countP Task.isAsking : Int) < bound) :
    Step assistant bound ⟨w, s, before ++ k :: after, adrift⟩
      ⟨(k.advance assistant now tree w s).1.1, (k.advance assistant now tree w s).2,
        before ++ ⟨k.request, (k.advance assistant now tree w s).1.2⟩ :: after, adrift⟩
  | drift (now : String) (tree : FileTree) (w : Workshop S) (s : σ) (tasks before after : List Task)
      (k : Task) :
    Step assistant bound ⟨w, s, tasks, before ++ k :: after⟩
      ⟨(k.advance assistant now tree w s).1.1, (k.advance assistant now tree w s).2, tasks,
        before ++ ⟨k.request, (k.advance assistant now tree w s).1.2⟩ :: after⟩

abbrev Runs [Repairer S] (assistant : Option (Assistant σ)) (bound : Int) :
    Pool σ S → Pool σ S → Prop :=
  Relation.ReflTransGen (Step assistant bound)

def answers (p : Pool σ S) : List (Request × Report) :=
  Task.answers p.tasks ++ Task.answers p.adrift

variable [Repairer S]

/-- What one step does: it answers one more request, which is entered, or it answers none and
leaves the workshop as it was. -/
theorem Step.effect (h : Step assistant bound p q) :
    (q.workshop = p.workshop ∧ q.answers = p.answers) ∨
    ∃ now r report, q.workshop = p.workshop.entered now r report ∧
      q.answers.Perm ((r, report) :: p.answers) := by
  cases h with
  | task now tree w s before after adrift k hbound =>
    cases (Task.moves_advance (w := w) (k := k)).answers before after with
    | inl h =>
      left
      exact ⟨h.1, congrArg (· ++ Task.answers adrift) h.2⟩
    | inr h =>
      obtain ⟨now, report, hw, hperm⟩ := h
      right
      exact ⟨now, k.request, report, hw, hperm.append_right _⟩
  | drift now tree w s tasks before after k =>
    cases (Task.moves_advance (w := w) (k := k)).answers before after with
    | inl h =>
      left
      exact ⟨h.1, congrArg (Task.answers tasks ++ ·) h.2⟩
    | inr h =>
      obtain ⟨now, report, hw, hperm⟩ := h
      right
      exact ⟨now, k.request, report, hw, (hperm.append_left _).trans List.perm_middle⟩

theorem Step.catalog (h : Step assistant bound p q) : q.workshop.catalog = p.workshop.catalog := by
  cases h.effect with
  | inl hsame => rw [hsame.1]
  | inr hentered =>
    obtain ⟨now, r, report, hw, -⟩ := hentered
    rw [hw]
    rfl

/-- What some steps do: they enter the requests that are answered meanwhile, and no other ones. -/
theorem Runs.effect (h : Runs assistant bound p q) :
    ∃ as, p.workshop.Enters as q.workshop ∧ q.answers.Perm (as ++ p.answers) := by
  induction h with
  | refl => exact ⟨[], .nothing, .refl _⟩
  | tail _ hstep ih =>
    obtain ⟨as, henters, has⟩ := ih
    cases hstep.effect with
    | inl h =>
      rw [h.1, h.2]
      exact ⟨as, henters, has⟩
    | inr h =>
      obtain ⟨now, r, report, hw, hperm⟩ := h
      rw [hw]
      exact ⟨(r, report) :: as, henters.entered now r report, hperm.trans (has.cons (r, report))⟩

theorem Step.requests (h : Step assistant bound p q) :
    q.tasks.map Task.request = p.tasks.map Task.request := by
  cases h with
  | task => simp
  | drift => rfl

theorem Runs.requests (h : Runs assistant bound p q) :
    q.tasks.map Task.request = p.tasks.map Task.request := by
  induction h with
  | refl => rfl
  | tail _ hstep ih => rw [hstep.requests, ih]

theorem Step.adrift_requests (h : Step assistant bound p q) :
    q.adrift.map Task.request = p.adrift.map Task.request := by
  cases h with
  | task => rfl
  | drift => simp

theorem Runs.adrift_requests (h : Runs assistant bound p q) :
    q.adrift.map Task.request = p.adrift.map Task.request := by
  induction h with
  | refl => rfl
  | tail _ hstep ih => rw [hstep.adrift_requests, ih]

theorem Runs.adrift_eq_nil (h : Runs assistant bound p q) (hp : p.adrift = []) :
    q.adrift = [] := by
  apply List.map_eq_nil_iff.1
  rw [h.adrift_requests, hp, List.map_nil]

end Pool

end Mend
