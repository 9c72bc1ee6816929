import Mathlib.Algebra.GroupWithZero.Nat
import Mend.Proofs.Workshop.Alone

/-! Requests on their courses. Each step of a request leads on to what the request comes to alone,
and there are only so many of them, so that requests that are open at the same time all come to an
end, whichever of them go on first. -/

namespace Mend

namespace Assistant

variable {σ : Type} {a : Assistant σ} {r : Request} {n : Nat} {s : σ}

def rest (a : Assistant σ) (r : Request) (n : Nat) (s : σ) : Except Retry.Stop Completion :=
  (Retry.runFrom a.policy (a.provider.complete (a.call r.diagnostic (Workshop.contextFor r))) n
    (a.policy.maxRetries.toNat - n) s).1.outcome

theorem rest_zero (a : Assistant σ) (r : Request) (s : σ) :
    a.rest r 0 s = a.reached r.diagnostic (Workshop.contextFor r) s := rfl

theorem Steady.rest_eq (h : a.Steady) (r : Request) (n : Nat) (s s' : σ) :
    a.rest r n s = a.rest r n s' :=
  congrArg Retry.Trace.outcome (h.runFrom_eq _ n _ s s')

end Assistant

namespace Task

variable {S : Type} {σ : Type} {assistant : Option (Assistant σ)} {a : Assistant σ}
  {v w : Workshop S}
  {now now' : String} {tree : FileTree} {r : Request} {k : Task} {s s' : σ} {n : Nat}

theorem stage_close (v : Workshop S) (now : String) (r : Request)
    (outcome : Except Reply.Fault Proposal) :
    (close v now r outcome).2 = .ofAnswer (Workshop.answerOf r outcome) := by
  cases outcome with
  | error f => rfl
  | ok p => rfl

/-- Behind an attempt the rest of the run follows, or the attempt ends the run. -/
theorem attempt_cases (a : Assistant σ) (now : String) (v : Workshop S) (r : Request) (s : σ)
    (hn : n ≤ a.policy.maxRetries.toNat) :
    (n < a.policy.maxRetries.toNat ∧ (attempt a now v r n s).1.2 = .asking (n + 1) ∧
      ∃ s', a.rest r n s = a.rest r (n + 1) s') ∨
    (attempt a now v r n s).1.2 =
      .ofAnswer (Workshop.answerOf r (a.conclude now r.diagnostic (a.rest r n s))) := by
  dsimp only [attempt, Assistant.rest]
  -- a task counts the attempts that have failed, a run those that are left
  generalize hleft : a.policy.maxRetries.toNat - n = left
  induction n, left, s using Retry.runFrom_induction a.policy
    (a.provider.complete (a.call r.diagnostic (Workshop.contextFor r))) with
  | last n left s hlast hrun =>
    right
    rw [hrun, react, if_neg]
    · exact stage_close v now r _
    · rw [Bool.and_eq_true, decide_eq_true_iff]
      rintro ⟨hrepeats, hmore⟩
      have hnone := hlast hrepeats
      omega
  | overflow n left s hrepeats hwait hrun =>
    right
    have hmore : n < a.policy.maxRetries.toNat := by omega
    rw [hrun, react, hrepeats, decide_eq_true hmore, hwait]
    exact stage_close v now r (a.conclude now r.diagnostic (.error .outOfRange))
  | again n left s wait hrepeats hwait hrun _ =>
    left
    have hmore : n < a.policy.maxRetries.toNat := by omega
    have hnext : a.policy.maxRetries.toNat - (n + 1) = left := by omega
    rw [hrun, react, hrepeats, decide_eq_true hmore, hwait, hnext]
    exact ⟨hmore, rfl, _, rfl⟩

def repetitions (assistant : Option (Assistant σ)) : Nat :=
  match assistant with
  | some a => a.policy.maxRetries.toNat
  | none => 0

def remaining (assistant : Option (Assistant σ)) (k : Task) : Nat :=
  match k.stage with
  | .waiting => repetitions assistant + 2
  | .asking n => repetitions assistant + 1 - n
  | _ => 0

/-- The request comes to what it comes to alone. -/
inductive OnCourse [Repairer S] (assistant : Option (Assistant σ)) (w : Workshop S)
    (now : String) (tree : FileTree) (s : σ) : Task → Prop
  | waiting (r : Request) : OnCourse assistant w now tree s ⟨r, .waiting⟩
  | asking (r : Request) (n : Nat) (a : Assistant σ) (ha : assistant = some a)
      (hmiss : ¬ w.Helps tree r) (hn : n ≤ a.policy.maxRetries.toNat)
      (hrest : ∀ s', a.rest r n s' = a.rest r 0 s) : OnCourse assistant w now tree s ⟨r, .asking n⟩
  | closed (r : Request) (answer : Except Reply.Fault Report)
      (h : Alike answer (w.answer assistant now tree r s).1.answer) :
    OnCourse assistant w now tree s ⟨r, .ofAnswer answer⟩

/-- A step leads on in the course of the request, and there are fewer steps left. -/
structure Nears [Repairer S] (assistant : Option (Assistant σ)) (w : Workshop S) (now : String)
    (tree : FileTree) (s : σ) (k : Task) (stage : Stage) : Prop where
  onCourse : OnCourse assistant w now tree s ⟨k.request, stage⟩
  remaining : remaining assistant ⟨k.request, stage⟩ < remaining assistant k

theorem remaining_ofAnswer (r : Request) (answer : Except Reply.Fault Report) :
    remaining assistant ⟨r, .ofAnswer answer⟩ = 0 := by
  cases answer with
  | error f => rfl
  | ok report => rfl

variable [Repairer S]

theorem nears_begin (hsteady : Workshop.IsSteady assistant) (hv : v.catalog = w.catalog)
    (r : Request) :
    Nears assistant w now tree s (.start r) (begin assistant now' tree v r).2 := by
  unfold begin
  dsimp only
  split
  · rename_i hquiet
    have hhelps : assistant = none ∨ v.Helps tree r := by
      rw [Bool.or_eq_true, Option.isNone_iff_eq_none, Workshop.draft_success_iff] at hquiet
      exact hquiet
    have hanswer : (v.answer assistant now' tree r s).1.answer =
        .ok (Workshop.withHints r (v.draft tree r)) := Workshop.answer_eq_of_quiet hhelps
    refine ⟨.closed r (.ok _) ?_, Nat.zero_lt_succ _⟩
    rw [Workshop.finish_eq, ← hanswer]
    exact Workshop.answer_alike hsteady hv
  · rename_i hquiet
    rw [Bool.or_eq_true, not_or, Option.isNone_iff_eq_none, Workshop.draft_success_iff,
      Workshop.helps_congr hv] at hquiet
    obtain ⟨a, ha⟩ := Option.ne_none_iff_exists'.1 hquiet.1
    refine ⟨.asking r 0 a ha hquiet.2 (Nat.zero_le _) ?_, Nat.lt_succ_self _⟩
    exact fun s' => (hsteady a ha).rest_eq r 0 s' s

theorem nears_attempt (hsteady : a.Steady) (hmiss : ¬ w.Helps tree r)
    (hn : n ≤ a.policy.maxRetries.toNat) (hrest : ∀ s', a.rest r n s' = a.rest r 0 s) :
    Nears (some a) w now tree s ⟨r, .asking n⟩ (attempt a now' v r n s').1.2 := by
  cases attempt_cases a now' v r s' hn with
  | inl hmore =>
    obtain ⟨hlast, hstage, s'', hnext⟩ := hmore
    rw [hstage]
    refine ⟨.asking r (n + 1) a rfl hmiss hlast ?_, ?_⟩
    · intro other
      rw [hsteady.rest_eq r (n + 1) other s'', ← hnext, hrest]
    · dsimp only [remaining, repetitions]
      omega
  | inr hclosed =>
    rw [hclosed, hrest s']
    refine ⟨.closed r _ ?_, ?_⟩
    · rw [Workshop.answer_eq_of_not_helps hmiss, ← a.rest_zero]
      exact Workshop.alike_answerOf a now' now r (a.rest r 0 s)
    · rw [remaining_ofAnswer]
      dsimp only [remaining, repetitions]
      omega

theorem nears_advance (hsteady : Workshop.IsSteady assistant) (hv : v.catalog = w.catalog)
    (h : OnCourse assistant w now tree s k) (hopen : k.isOpen = true) (now' : String) (s' : σ) :
    Nears assistant w now tree s k (k.advance assistant now' tree v s').1.2 := by
  cases h with
  | waiting r => exact nears_begin hsteady hv r
  | asking r n a ha hmiss hn hrest =>
    subst ha
    exact nears_attempt (hsteady a rfl) hmiss hn hrest
  | closed r answer h =>
    rw [Pool.ofAnswer_closed] at hopen
    cases hopen

theorem isOpen_of_isAsking (h : k.isAsking = true) : k.isOpen = true := by
  obtain ⟨r, stage⟩ := k
  cases stage with
  | asking n => rfl
  | waiting => cases h
  | answered report => cases h
  | faulted f => cases h

theorem not_waiting_of_isAsking (h : k.isAsking = true) : k.stage ≠ .waiting := by
  intro hwaiting
  obtain ⟨r, stage⟩ := k
  cases hwaiting
  cases h

theorem exists_reports (ks : List Task)
    (hcourse : ∀ k ∈ ks, OnCourse assistant w now tree s k) (hclosed : ∀ k ∈ ks, k.isOpen = false)
    (hanswers : w.Answers assistant now tree s (ks.map request)) :
    ∃ reports, ks.map stage = reports.map Stage.answered ∧
      w.Matches assistant now tree s (ks.map request) reports := by
  induction ks with
  | nil => exact ⟨[], rfl, .nil⟩
  | cons k ks ih =>
    obtain ⟨hk, hks⟩ := List.forall_mem_cons.1 hcourse
    obtain ⟨hkclosed, hksclosed⟩ := List.forall_mem_cons.1 hclosed
    obtain ⟨⟨alone, halone⟩, hrest⟩ := List.forall_mem_cons.1 hanswers
    obtain ⟨reports, hstages, hmatches⟩ := ih hks hksclosed hrest
    cases hk with
    | waiting r => cases hkclosed
    | asking r n a ha hmiss hn hrest => cases hkclosed
    | closed r answer halike =>
      have hok := halike
      rw [halone] at hok
      obtain ⟨report, rfl⟩ := Workshop.ok_of_alike hok
      refine ⟨report :: reports, ?_, .cons halike hmatches⟩
      rw [List.map_cons, List.map_cons, hstages]
      rfl

theorem answers_of_stages {ks : List Task} {reports : List Report}
    (h : ks.map stage = reports.map Stage.answered) :
    answers ks = (ks.map request).zip reports := by
  induction ks generalizing reports with
  | nil =>
    rw [List.map_nil, List.zip_nil_left]
    rfl
  | cons k ks ih =>
    cases reports with
    | nil => cases h
    | cons report reports =>
      obtain ⟨hk, hks⟩ := List.cons.inj h
      obtain ⟨r, stage⟩ := k
      cases hk
      rw [answers_cons, ih hks]
      rfl

end Task

namespace Pool

variable {S : Type} [Repairer S] {σ : Type} {assistant : Option (Assistant σ)} {bound : Int}
  {tree : FileTree}
  {w : Workshop S} {now : String} {s : σ} {rs : List Request} {p q : Pool σ S}

inductive Advances (assistant : Option (Assistant σ)) (bound : Int) (tree : FileTree) :
    Pool σ S → Pool σ S → Prop
  | task (now : String) (w : Workshop S) (s : σ) (before after adrift : List Task) (k : Task)
      (hopen : k.isOpen = true)
      (h : k.stage = .waiting → ((before ++ after).countP Task.isAsking : Int) < bound) :
    Advances assistant bound tree ⟨w, s, before ++ k :: after, adrift⟩
      ⟨(k.advance assistant now tree w s).1.1, (k.advance assistant now tree w s).2,
        before ++ ⟨k.request, (k.advance assistant now tree w s).1.2⟩ :: after, adrift⟩

theorem Advances.step (h : Advances assistant bound tree p q) : Step assistant bound p q := by
  cases h with
  | task now w s before after adrift k hopen h => exact .task now tree w s before after adrift k h

theorem Advances.adrift (h : Advances assistant bound tree p q) : q.adrift = p.adrift := by
  cases h with
  | task now w s before after adrift k hopen h => rfl

theorem Advances.tasks_ne_nil (h : Advances assistant bound tree p q) : p.tasks ≠ [] := by
  cases h with
  | task now w s before after adrift k hopen h => simp

abbrev Reaches (assistant : Option (Assistant σ)) (bound : Int) (tree : FileTree) :
    Pool σ S → Pool σ S → Prop :=
  Relation.ReflTransGen (Advances assistant bound tree)

theorem Reaches.runs (h : Reaches assistant bound tree p q) : Runs assistant bound p q := by
  induction h with
  | refl => exact .refl
  | tail _ hstep ih => exact ih.tail hstep.step

theorem Reaches.adrift (h : Reaches assistant bound tree p q) : q.adrift = p.adrift := by
  induction h with
  | refl => rfl
  | tail _ hstep ih => rw [hstep.adrift, ih]

/-- Whichever requests go on, the pool comes to what is named: it is there, or some request can go
on, and behind every one that does the pool comes there. -/
inductive ComesTo (assistant : Option (Assistant σ)) (bound : Int) (tree : FileTree)
    (P : Pool σ S → Prop) : Pool σ S → Prop
  | here {p : Pool σ S} (h : P p) : ComesTo assistant bound tree P p
  | onward {p : Pool σ S} (hsome : ∃ q, Advances assistant bound tree p q)
      (h : ∀ q, Advances assistant bound tree p q → ComesTo assistant bound tree P q) :
    ComesTo assistant bound tree P p

/-- No bound of one or more keeps all open requests from going on. -/
theorem exists_advances (hbound : 1 ≤ bound) (h : ∃ k ∈ p.tasks, k.isOpen = true) :
    ∃ q, Advances assistant bound tree p q := by
  obtain ⟨w, s, tasks, adrift⟩ := p
  by_cases hasking : ∃ k ∈ tasks, k.isAsking = true
  · obtain ⟨k, hk, hkasking⟩ := hasking
    obtain ⟨before, after, rfl⟩ := List.append_of_mem hk
    refine ⟨_, .task "" w s before after adrift k (Task.isOpen_of_isAsking hkasking) ?_⟩
    exact fun hwaiting => absurd hwaiting (Task.not_waiting_of_isAsking hkasking)
  · obtain ⟨k, hk, hkopen⟩ := h
    obtain ⟨before, after, rfl⟩ := List.append_of_mem hk
    refine ⟨_, .task "" w s before after adrift k hkopen fun _ => ?_⟩
    have hnone : (before ++ after).countP Task.isAsking = 0 := by
      rw [List.countP_eq_zero]
      intro other hother hotherAsking
      refine hasking ⟨other, ?_, hotherAsking⟩
      exact List.mem_append.2 ((List.mem_append.1 hother).imp_right (List.mem_cons_of_mem k))
    rw [hnone]
    exact hbound

structure OnCourse (assistant : Option (Assistant σ)) (w : Workshop S) (now : String)
    (tree : FileTree) (s : σ) (rs : List Request) (p : Pool σ S) : Prop where
  catalog : p.workshop.catalog = w.catalog
  requests : p.tasks.map Task.request = rs
  tasks : ∀ k ∈ p.tasks, k.OnCourse assistant w now tree s

def remaining (assistant : Option (Assistant σ)) (p : Pool σ S) : Nat :=
  (p.tasks.map (Task.remaining assistant)).sum

theorem OnCourse.advances (h : p.OnCourse assistant w now tree s rs)
    (hsteady : Workshop.IsSteady assistant) (hstep : Advances assistant bound tree p q) :
    q.OnCourse assistant w now tree s rs ∧ q.remaining assistant < p.remaining assistant := by
  have hcatalog : q.workshop.catalog = w.catalog := hstep.step.catalog.trans h.catalog
  have hrequests : q.tasks.map Task.request = rs := hstep.step.requests.trans h.requests
  cases hstep with
  | task now' v s' before after adrift k hopen hbound =>
    obtain ⟨hbefore, hbehind⟩ := List.forall_mem_append.1 h.tasks
    obtain ⟨hk, hafter⟩ := List.forall_mem_cons.1 hbehind
    have hnears := Task.nears_advance (v := v) hsteady h.catalog hk hopen now' s'
    refine ⟨⟨hcatalog, hrequests, ?_⟩, ?_⟩
    · exact List.forall_mem_append.2
        ⟨hbefore, List.forall_mem_cons.2 ⟨hnears.onCourse, hafter⟩⟩
    · have hfewer := hnears.remaining
      simp only [remaining, List.map_append, List.map_cons, List.sum_append, List.sum_cons]
      omega

theorem OnCourse.reaches (h : p.OnCourse assistant w now tree s rs)
    (hsteady : Workshop.IsSteady assistant) (hreaches : Reaches assistant bound tree p q) :
    q.OnCourse assistant w now tree s rs := by
  induction hreaches with
  | refl => exact h
  | tail _ hstep ih => exact (ih.advances hsteady hstep).1

theorem isOpen_of_stages {ks : List Task} {reports : List Report}
    (h : ks.map Task.stage = reports.map Stage.answered) : ∀ k ∈ ks, k.isOpen = false := by
  intro k hk
  have hstage : k.stage ∈ reports.map Stage.answered := by
    rw [← h]
    exact List.mem_map_of_mem hk
  obtain ⟨report, -, hreport⟩ := List.mem_map.1 hstage
  rw [Task.isOpen, ← hreport]

theorem OnCourse.exists_reports (h : p.OnCourse assistant w now tree s rs)
    (hanswers : w.Answers assistant now tree s rs) (hclosed : ∀ k ∈ p.tasks, k.isOpen = false) :
    ∃ reports, p.tasks.map Task.stage = reports.map Stage.answered ∧
      w.Matches assistant now tree s rs reports := by
  have hcourse := Task.exists_reports p.tasks h.tasks hclosed
  rw [h.requests] at hcourse
  exact hcourse hanswers

theorem OnCourse.matches (h : p.OnCourse assistant w now tree s rs)
    (hanswers : w.Answers assistant now tree s rs) {reports : List Report}
    (hstages : p.tasks.map Task.stage = reports.map Stage.answered) :
    w.Matches assistant now tree s rs reports := by
  obtain ⟨others, hothers, hmatches⟩ := h.exists_reports hanswers (isOpen_of_stages hstages)
  have hsame : reports = others := by
    apply List.map_injective_iff.2 fun _ _ => Stage.answered.inj
    exact hstages.symm.trans hothers
  rw [hsame]
  exact hmatches

theorem OnCourse.comesTo (h : p.OnCourse assistant w now tree s rs)
    (hsteady : Workshop.IsSteady assistant) (hanswers : w.Answers assistant now tree s rs)
    (hbound : 1 ≤ bound) :
    ComesTo assistant bound tree
      (fun q => ∃ reports : List Report, q.tasks.map Task.stage = reports.map Stage.answered) p := by
  induction hleft : p.remaining assistant using Nat.strongRecOn generalizing p with
  | ind left ih =>
    by_cases hopen : ∃ k ∈ p.tasks, k.isOpen = true
    · refine .onward (exists_advances hbound hopen) fun q hstep => ?_
      obtain ⟨hq, hfewer⟩ := h.advances hsteady hstep
      rw [hleft] at hfewer
      exact ih (q.remaining assistant) hfewer hq rfl
    · have hclosed : ∀ k ∈ p.tasks, k.isOpen = false := by
        intro k hk
        apply Bool.eq_false_iff.2
        exact fun hkopen => hopen ⟨k, hk, hkopen⟩
      obtain ⟨reports, hstages, -⟩ := h.exists_reports hanswers hclosed
      exact .here ⟨reports, hstages⟩

end Pool

end Mend
