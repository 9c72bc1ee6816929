import Mend.Proofs.Model.Retry
import Mend.Proofs.Workshop.Session

namespace Mend

def Stage.ofAnswer : Except Reply.Fault Report → Stage
  | .ok report => .answered report
  | .error f => .faulted f

namespace Pool

variable {S : Type} [Repairer S] {σ : Type} {assistant : Option (Assistant σ)} {bound : Int}
  {a : Assistant σ} {now : String} {tree : FileTree} {w w' : Workshop S} {r : Request} {s s' : σ}
  {stage : Stage} {before after adrift : List Task}

theorem runs_of_advance (now : String) (tree : FileTree) {k : Task}
    (hk : k.advance assistant now tree w s = ((w', stage), s'))
    (h : k.stage = .waiting → ((before ++ after).countP Task.isAsking : Int) < bound) :
    Runs assistant bound ⟨w, s, before ++ k :: after, adrift⟩
      ⟨w', s', before ++ ⟨k.request, stage⟩ :: after, adrift⟩ := by
  have hstep : Step assistant bound ⟨w, s, before ++ k :: after, adrift⟩
      ⟨(k.advance assistant now tree w s).1.1, (k.advance assistant now tree w s).2,
        before ++ ⟨k.request, (k.advance assistant now tree w s).1.2⟩ :: after, adrift⟩ :=
    .task now tree w s before after adrift k h
  rw [hk] at hstep
  exact .single hstep

theorem runs_of_attempt (now : String) {n : Nat}
    (hreact : Task.react a now w r n (Retry.attempt a.policy
      (a.provider.complete (a.call r.diagnostic (Workshop.contextFor r))) s).1 = (w', stage)) :
    Runs (some a) bound ⟨w, s, before ++ ⟨r, .asking n⟩ :: after, adrift⟩
      ⟨w', (Retry.attempt a.policy
        (a.provider.complete (a.call r.diagnostic (Workshop.contextFor r))) s).2,
        before ++ ⟨r, stage⟩ :: after, adrift⟩ := by
  have hadvance : Task.advance (some a) now .empty w ⟨r, .asking n⟩ s =
      ((w', stage), (Retry.attempt a.policy
        (a.provider.complete (a.call r.diagnostic (Workshop.contextFor r))) s).2) := by
    rw [Task.advance_asking, Task.attempt, hreact]
  exact runs_of_advance now .empty hadvance fun hw => by cases hw

omit [Repairer S] in
theorem close_eq (w : Workshop S) (now : String) (r : Request) (e : Exchange) :
    Task.close w now r e.outcome =
      ((Workshop.Run.ofExchange w now (w.selected? r) r e).workshop,
        .ofAnswer (Workshop.Run.ofExchange w now (w.selected? r) r e).answer) := by
  cases he : e.outcome with
  | ok p =>
    rw [Workshop.ofExchange_of_ok he, Task.close, Workshop.finish_eq]
    rfl
  | error f =>
    rw [Workshop.ofExchange_of_error he]
    rfl

theorem runs_of_retry (now : String) {n left : Nat} (h : n + left = a.policy.maxRetries.toNat)
    (hclose : Task.close w now r (a.conclude now r.diagnostic (Retry.runFrom a.policy
      (a.provider.complete (a.call r.diagnostic (Workshop.contextFor r))) n left s).1.outcome) =
        (w', stage)) :
    Runs (some a) bound ⟨w, s, before ++ ⟨r, .asking n⟩ :: after, adrift⟩
      ⟨w', (Retry.runFrom a.policy
        (a.provider.complete (a.call r.diagnostic (Workshop.contextFor r))) n left s).2,
        before ++ ⟨r, stage⟩ :: after, adrift⟩ := by
  -- a task tells how many attempts have failed, a run how many are left: their sum stays
  induction n, left, s using Retry.runFrom_induction a.policy
    (a.provider.complete (a.call r.diagnostic (Workshop.contextFor r))) with
  | last n left s hlast hrun =>
    rw [hrun] at hclose ⊢
    apply runs_of_attempt now
    rw [Task.react, if_neg]
    · exact hclose
    · rw [Bool.and_eq_true, decide_eq_true_iff]
      rintro ⟨hrepeats, hn⟩
      have hleft := hlast hrepeats
      omega
  | overflow n left s hrepeats hwait hrun =>
    rw [hrun] at hclose ⊢
    have hn : n < a.policy.maxRetries.toNat := by omega
    apply runs_of_attempt now
    rw [Task.react, hrepeats, decide_eq_true hn, hwait]
    exact hclose
  | again n left s wait hrepeats hwait hrun ih =>
    rw [hrun] at hclose ⊢
    have hn : n < a.policy.maxRetries.toNat := by omega
    have hmore : Task.react a now w r n (Retry.attempt a.policy
        (a.provider.complete (a.call r.diagnostic (Workshop.contextFor r))) s).1 =
          (w, .asking (n + 1)) := by
      rw [Task.react, hrepeats, decide_eq_true hn, hwait]
      rfl
    exact (runs_of_attempt now hmore).trans (ih (by omega) hclose)

theorem runs_of_begin (now : String) (tree : FileTree)
    (hbegin : Task.begin assistant now tree w r = (w', stage))
    (h : ((before ++ after).countP Task.isAsking : Int) < bound) :
    Runs assistant bound ⟨w, s, before ++ .start r :: after, adrift⟩
      ⟨w', s, before ++ ⟨r, stage⟩ :: after, adrift⟩ := by
  have hadvance : Task.advance assistant now tree w (.start r) s = ((w', stage), s) := by
    rw [Task.advance_waiting, hbegin]
  exact runs_of_advance now tree hadvance fun _ => h

theorem runs_of_answer (now : String) (tree : FileTree)
    (h : ((before ++ after).countP Task.isAsking : Int) < bound) :
    Runs assistant bound ⟨w, s, before ++ .start r :: after, adrift⟩
      ⟨(w.answer assistant now tree r s).1.workshop, (w.answer assistant now tree r s).2,
        before ++ ⟨r, .ofAnswer (w.answer assistant now tree r s).1.answer⟩ :: after, adrift⟩ := by
  by_cases hquiet : (assistant.isNone || (w.draft tree r).success) = true
  · have hanswer : w.answer assistant now tree r s = (.quiet (w.byTemplate now tree r), s) := by
      cases assistant with
      | none => rfl
      | some a => exact Workshop.answer_of_helps (Workshop.draft_success_iff.1 hquiet) _ s
    rw [hanswer]
    apply runs_of_begin now tree _ h
    rw [Task.begin, if_pos hquiet, Workshop.finish_eq, Workshop.byTemplate_eq]
    rfl
  · cases assistant with
    | none => exact absurd rfl hquiet
    | some a =>
      have hmiss : ¬ w.Helps tree r := mt Workshop.draft_success_iff.2 hquiet
      have hbegin : Task.begin (some a) now tree w r = (w, .asking 0) := by
        rw [Task.begin, if_neg hquiet]
      rw [Workshop.answer_of_not_helps hmiss]
      refine (runs_of_begin now tree hbegin h).trans (runs_of_retry now (Nat.zero_add _) ?_)
      exact close_eq w now r (a.ask now r.diagnostic (Workshop.contextFor r) s).1

theorem joined_eq_ok {one : Except Reply.Fault Report} {others : Except Reply.Fault (List Report)}
    {reports : List Report} (h : Workshop.joined one others = .ok reports) :
    ∃ report rest, one = .ok report ∧ others = .ok rest ∧ reports = report :: rest := by
  cases one with
  | error f => cases h
  | ok report =>
    cases others with
    | error f => cases h
    | ok rest =>
      cases h
      exact ⟨report, rest, rfl, rfl, rfl⟩

theorem joined_eq_error {one : Except Reply.Fault Report}
    {others : Except Reply.Fault (List Report)} {f : Reply.Fault}
    (h : Workshop.joined one others = .error f) : one = .error f ∨ others = .error f := by
  cases one with
  | error g =>
    cases h
    exact .inl rfl
  | ok report =>
    cases others with
    | error g =>
      cases h
      exact .inr rfl
    | ok rest => cases h

theorem ofAnswer_closed (r : Request) (answer : Except Reply.Fault Report) :
    (Task.mk r (.ofAnswer answer)).isOpen = false := by
  cases answer with
  | ok report => rfl
  | error f => rfl

theorem ofAnswer_not_asking (r : Request) (answer : Except Reply.Fault Report) :
    (Task.mk r (.ofAnswer answer)).isAsking = false := by
  cases answer with
  | ok report => rfl
  | error f => rfl

theorem countP_isAsking_start (rs : List Request) :
    (rs.map Task.start).countP Task.isAsking = 0 := by
  induction rs with
  | nil => rfl
  | cons r rs ih => exact ih

theorem runs_of_answerAll (now : String) (tree : FileTree) (rs : List Request)
    (hbefore : before.countP Task.isAsking = 0) (hbound : 1 ≤ bound) :
    ∃ ks,
      Runs assistant bound ⟨w, s, before ++ rs.map .start, adrift⟩
        ⟨(w.answerAll assistant now tree rs s).1.workshop,
          (w.answerAll assistant now tree rs s).2, before ++ ks, adrift⟩ ∧
      (∀ reports, (w.answerAll assistant now tree rs s).1.answer = .ok reports →
        reports.length = rs.length ∧ Task.answers ks = rs.zip reports) ∧
      (∀ f, (w.answerAll assistant now tree rs s).1.answer = .error f →
        ∃ k ∈ ks, k.isFaulted = true) ∧
      ∀ k ∈ ks, k.isOpen = false := by
  induction rs generalizing w s before with
  | nil =>
    rw [Workshop.answerAll]
    refine ⟨[], .refl, ?_, ?_, ?_⟩
    · intro reports h
      cases h
      exact ⟨rfl, rfl⟩
    · intro f h
      cases h
    · intro k hk
      cases hk
  | cons r rs ih =>
    have hasking : ((before ++ rs.map Task.start).countP Task.isAsking : Int) < bound := by
      rw [List.countP_append, hbefore, countP_isAsking_start]
      omega
    cases hone : w.answer assistant now tree r s with
    | mk one s₁ =>
      cases hothers : one.workshop.answerAll assistant now tree rs s₁ with
      | mk others s₂ =>
        have hfirst : Runs assistant bound ⟨w, s, before ++ .start r :: rs.map .start, adrift⟩
            ⟨(w.answer assistant now tree r s).1.workshop, (w.answer assistant now tree r s).2,
              before ++ ⟨r, .ofAnswer (w.answer assistant now tree r s).1.answer⟩ ::
                rs.map .start, adrift⟩ :=
          runs_of_answer now tree hasking
        have hnext : (before ++ [Task.mk r (.ofAnswer one.answer)]).countP Task.isAsking = 0 := by
          rw [List.countP_append, hbefore, List.countP_singleton, ofAnswer_not_asking]
          rfl
        obtain ⟨ks, hruns, hok, herror, hclosed⟩ := ih (w := one.workshop) (s := s₁) hnext
        rw [hone] at hfirst
        rw [hothers] at hruns hok herror
        rw [List.append_assoc, List.append_assoc] at hruns
        simp only [Workshop.answerAll, hone, hothers]
        refine ⟨⟨r, .ofAnswer one.answer⟩ :: ks, hfirst.trans hruns, ?_, ?_, ?_⟩
        · intro reports h
          obtain ⟨report, rest, hreport, hrest, rfl⟩ := joined_eq_ok h
          obtain ⟨hlength, hanswers⟩ := hok rest hrest
          refine ⟨congrArg (· + 1) hlength, ?_⟩
          rw [Task.answers_cons, hanswers, hreport]
          rfl
        · intro f h
          cases joined_eq_error h with
          | inl hfirst =>
            rw [hfirst]
            exact ⟨_, List.mem_cons_self, rfl⟩
          | inr hrest =>
            obtain ⟨k, hk, hfault⟩ := herror f hrest
            exact ⟨k, List.mem_cons_of_mem _ hk, hfault⟩
        · rw [List.forall_mem_cons]
          exact ⟨ofAnswer_closed r one.answer, hclosed⟩

end Pool

namespace Session

variable {S : Type} [Repairer S] {σ : Type} (assistant : Option (Assistant σ)) (st : Session σ S)
  (now : String) (tree : FileTree)

theorem runs_of_answer (r : Request) :
    Pool.Runs assistant 1 (st.pool [r])
      ⟨(st.workshop.answer assistant now tree r st.provider).1.workshop,
        (st.workshop.answer assistant now tree r st.provider).2,
        [⟨r, .ofAnswer (st.workshop.answer assistant now tree r st.provider).1.answer⟩],
        st.adrift⟩ := by
  have hbound : ((([] : List Task) ++ []).countP Task.isAsking : Int) < 1 := by decide
  exact Pool.runs_of_answer now tree hbound

theorem step_of_answer {r : Request} {report : Report}
    (h : (st.workshop.answer assistant now tree r st.provider).1.answer = .ok report) :
    Step assistant st (.returned [(r, report)])
      ⟨(st.workshop.answer assistant now tree r st.provider).1.workshop,
        (st.workshop.answer assistant now tree r st.provider).2, st.adrift⟩ := by
  have hruns := runs_of_answer assistant st now tree r
  rw [h] at hruns
  exact .fix r report _ _ _ hruns

theorem step_of_answerAll (rs : List Request) {given : Option Int}
    (hbound : Workshop.boundError? (Workshop.bound assistant given) = none) :
    (∀ reports, (st.workshop.answerAll assistant now tree rs st.provider).1.answer = .ok reports →
      Step assistant st (.returned (rs.zip reports))
        ⟨(st.workshop.answerAll assistant now tree rs st.provider).1.workshop,
          (st.workshop.answerAll assistant now tree rs st.provider).2, st.adrift⟩) ∧
    (∀ f, (st.workshop.answerAll assistant now tree rs st.provider).1.answer = .error f →
      Step assistant st .broken
        ⟨(st.workshop.answerAll assistant now tree rs st.provider).1.workshop,
          (st.workshop.answerAll assistant now tree rs st.provider).2, st.adrift⟩) := by
  have hpos : 1 ≤ Workshop.bound assistant given := by
    unfold Workshop.boundError? at hbound
    split at hbound
    · cases hbound
    · omega
  have hnone : ([] : List Task).countP Task.isAsking = 0 := rfl
  obtain ⟨ks, hruns, hok, herror, hclosed⟩ :=
    Pool.runs_of_answerAll (w := st.workshop) now tree rs hnone hpos
  constructor
  · intro reports h
    obtain ⟨hlength, hanswers⟩ := hok reports h
    rw [← hanswers]
    refine .batch rs given _ _ ks _ hbound hruns ?_
    rw [hanswers, List.length_zip, hlength, Nat.min_self]
  · intro f h
    have hopen : ks.filter Task.isOpen = [] := by
      rw [List.filter_eq_nil_iff]
      intro k hk
      rw [hclosed k hk]
      exact Bool.false_ne_true
    have hstep := Step.batchBroken rs given _ _ ks _ hbound hruns (herror f h)
    rw [hopen] at hstep
    exact hstep

end Session

end Mend
