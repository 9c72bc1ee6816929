import Mend.Proofs.Tally.Order
import Mend.Proofs.Workshop.Course

namespace Mend

namespace Workshop

variable {S : Type} {σ : Type} {assistant : Option (Assistant σ)} {v w : Workshop S} {now : String}
  {tree : FileTree} {s : σ} {rs : List Request} {reports others : List Report} {b : Int}

theorem boundError?_eq_none_iff : boundError? b = none ↔ 1 ≤ b := by
  unfold boundError?
  split
  · exact iff_of_false nofun (by omega)
  · exact iff_of_true rfl (by omega)

theorem boundError?_of_lt (h : b < 1) :
    boundError? b = some ("max_concurrency must be >= 1, got " ++ (Number.int b).text) :=
  if_pos h

theorem entry_untimed (w : Workshop S) (r : Request) (report : Report) :
    w.noted r report.untimed = w.noted r report := by
  obtain ⟨⟩ := report
  rename_i provenance
  cases provenance with
  | none => rfl
  | some source => rfl

theorem entries_eq [Repairer S] (h : w.Matches assistant now tree s rs reports)
    (h' : w.Matches assistant now tree s rs others) :
    (rs.zip reports).map (fun a => v.noted a.1 a.2) =
      (rs.zip others).map fun a => v.noted a.1 a.2 := by
  induction h generalizing others with
  | nil =>
    cases h'
    rfl
  | cons halike _ ih =>
    cases h' with
    | cons halike' hrest =>
      have huntimed := Except.ok.inj (halike.trans halike'.symm)
      rw [List.zip_cons_cons, List.zip_cons_cons, List.map_cons, List.map_cons, ih hrest,
        ← entry_untimed v _ _, huntimed, entry_untimed]

theorem Enters.agrees {as : List (Request × Report)} (h : w.Enters as v) :
    v.tally.Agrees (w.tally.recordAll (as.map fun a => v.noted a.1 a.2)) := by
  induction h with
  | nothing => exact .refl _
  | entered _ now r report ih => exact ih.record now "" _

end Workshop

namespace Session

variable {S : Type} [Repairer S] {σ : Type} {assistant : Option (Assistant σ)} {tree : FileTree}
  {st st' : Session σ S} {rs : List Request} {given : Option Int}
  {outcome : Except String (List Report)}

/-- What a batch comes to when none of its requests raises. -/
inductive Batch (assistant : Option (Assistant σ)) (tree : FileTree) (st : Session σ S)
    (rs : List Request) (given : Option Int) : Except String (List Report) → Session σ S → Prop
  | refused (message : String)
      (h : Workshop.boundError? (Workshop.bound assistant given) = some message) :
    Batch assistant tree st rs given (.error message) st
  | returned (reports : List Report) (p : Pool σ S)
      (hbound : Workshop.boundError? (Workshop.bound assistant given) = none)
      (h : Pool.Reaches assistant (Workshop.bound assistant given) tree (st.pool rs) p)
      (hstages : p.tasks.map Task.stage = reports.map Stage.answered) :
    Batch assistant tree st rs given (.ok reports) ⟨p.workshop, p.provider, p.adrift⟩

theorem answers_of_reaches {bound : Int} {p : Pool σ S} {reports : List Report}
    (h : Pool.Reaches assistant bound tree (st.pool rs) p)
    (hstages : p.tasks.map Task.stage = reports.map Stage.answered) :
    Task.answers p.tasks = rs.zip reports ∧ reports.length = rs.length := by
  have hrequests : p.tasks.map Task.request = rs := h.runs.requests.trans (map_request_start rs)
  rw [Task.answers_of_stages hstages, hrequests]
  have hlength := congrArg List.length hstages
  rw [List.length_map, List.length_map] at hlength
  rw [← hlength, ← hrequests, List.length_map]
  exact ⟨rfl, rfl⟩

theorem enters_of_reaches {bound : Int} {p : Pool σ S} {reports : List Report}
    (h : Pool.Reaches assistant bound tree (st.pool rs) p)
    (hstages : p.tasks.map Task.stage = reports.map Stage.answered) :
    ∃ as, st.workshop.Enters as p.workshop ∧ as.Perm (rs.zip reports) := by
  have hadrift : p.adrift = st.adrift := h.adrift
  obtain ⟨as, henters, hperm⟩ := effect_of_runs h.runs
  rw [hadrift, (answers_of_reaches h hstages).1] at hperm
  exact ⟨as, henters, ((List.perm_append_right_iff _).1 hperm).symm⟩

theorem enters_of_answerAll {w : Workshop S} {now : String} {s : σ} {reports : List Report}
    (h : (w.answerAll assistant now tree rs s).1.answer = .ok reports) :
    ∃ as, w.Enters as (w.answerAll assistant now tree rs s).1.workshop ∧
      as.Perm (rs.zip reports) := by
  have hbound : Workshop.boundError? (Workshop.bound assistant (some 1)) = none := rfl
  have hstep := (step_of_answerAll assistant ⟨w, s, []⟩ now tree rs hbound).1 reports h
  cases hstep.effect with
  | inl hreset => cases hreset.1
  | inr hentered =>
    obtain ⟨-, as, henters, has⟩ := hentered
    exact ⟨as, henters, has nofun rfl⟩

theorem onCourse_pool (assistant : Option (Assistant σ)) (now : String) (tree : FileTree) (s : σ)
    (st : Session σ S) (rs : List Request) :
    (st.pool rs).OnCourse assistant st.workshop now tree s rs where
  catalog := rfl
  requests := map_request_start rs
  tasks := by
    intro k hk
    obtain ⟨r, -, rfl⟩ := List.mem_map.1 hk
    exact .waiting r

/-- Answers that match are counted the same, in whichever order they are entered. -/
theorem agrees_of_matches {w v u : Workshop S} {now : String} {s : σ}
    {as bs : List (Request × Report)} {reports others : List Report} (h : w.Enters as v)
    (h' : w.Enters bs u) (has : as.Perm (rs.zip reports)) (hbs : bs.Perm (rs.zip others))
    (hreports : w.Matches assistant now tree s rs reports)
    (hothers : w.Matches assistant now tree s rs others) : v.tally.Agrees u.tally := by
  have hentries : (fun a : Request × Report => v.noted a.1 a.2) = fun a => u.noted a.1 a.2 := by
    funext a
    rw [Workshop.noted, Workshop.noted, Workshop.selected?, Workshop.selected?, h.catalog,
      h'.catalog]
  have hperm : (as.map fun a => v.noted a.1 a.2).Perm (bs.map fun a => u.noted a.1 a.2) := by
    rw [hentries]
    refine (has.map _).trans (.trans ?_ (hbs.map _).symm)
    rw [Workshop.entries_eq hreports hothers]
  exact h.agrees.trans ((Tally.agrees_of_perm w.tally hperm).trans h'.agrees.symm)

theorem eq_of_reaches_nil {bound : Int} {p : Pool σ S}
    (h : Pool.Reaches assistant bound tree (st.pool []) p) : p = st.pool [] := by
  induction h with
  | refl => rfl
  | tail _ hstep ih =>
    rw [ih] at hstep
    exact absurd rfl hstep.tasks_ne_nil

theorem batch_refused (h : Workshop.bound assistant given < 1) :
    Batch assistant tree st rs given outcome st' ↔
      outcome = .error ("max_concurrency must be >= 1, got " ++
        (Number.int (Workshop.bound assistant given)).text) ∧ st' = st := by
  have hmessage := Workshop.boundError?_of_lt h
  constructor
  · intro hbatch
    cases hbatch with
    | refused message hrefused =>
      rw [hmessage] at hrefused
      cases hrefused
      exact ⟨rfl, rfl⟩
    | returned reports p hbound =>
      rw [hmessage] at hbound
      cases hbound
  · intro heq
    obtain ⟨rfl, rfl⟩ := heq
    exact .refused _ hmessage

theorem batch_nil (h : 1 ≤ Workshop.bound assistant given) :
    Batch assistant tree st [] given outcome st' ↔ outcome = .ok [] ∧ st' = st := by
  have hbound := Workshop.boundError?_eq_none_iff.2 h
  constructor
  · intro hbatch
    cases hbatch with
    | refused message hrefused =>
      rw [hbound] at hrefused
      cases hrefused
    | returned reports p _ hreaches hstages =>
      cases eq_of_reaches_nil hreaches
      cases reports with
      | nil => exact ⟨rfl, rfl⟩
      | cons report reports => cases hstages
  · intro heq
    obtain ⟨rfl, rfl⟩ := heq
    exact .returned [] (st'.pool []) hbound .refl rfl

/-- Batches under a steady assistant, or under none. A bound below one is refused and an empty batch
is answered, and both leave the session as it was. When each request is answered alone, then the
batch returns, whichever of its requests go on first; it returns the answers that they have alone,
each at its place, and counts them like the same requests one after the other. -/
theorem batch_outcome (assistant : Option (Assistant σ)) (tree : FileTree) (st : Session σ S)
    (rs : List Request) (given : Option Int) :
    (Workshop.bound assistant given < 1 → ∀ outcome st',
      Batch assistant tree st rs given outcome st' ↔
        outcome = .error ("max_concurrency must be >= 1, got " ++
          (Number.int (Workshop.bound assistant given)).text) ∧ st' = st) ∧
    (1 ≤ Workshop.bound assistant given → rs = [] → ∀ outcome st',
      Batch assistant tree st rs given outcome st' ↔ outcome = .ok [] ∧ st' = st) ∧
    (1 ≤ Workshop.bound assistant given → Workshop.IsSteady assistant → ∀ now s,
      st.workshop.Answers assistant now tree s rs →
        Pool.ComesTo assistant (Workshop.bound assistant given) tree
          (fun p => ∃ reports : List Report, p.tasks.map Task.stage = reports.map Stage.answered)
          (st.pool rs) ∧
        ∀ outcome st', Batch assistant tree st rs given outcome st' → ∃ reports,
          outcome = .ok reports ∧ reports.length = rs.length ∧
          st.workshop.Matches assistant now tree s rs reports ∧
          st'.workshop.tally.Agrees
            (st.workshop.answerAll assistant now tree rs s).1.workshop.tally) := by
  refine ⟨?_, ?_, ?_⟩
  · intro hbound outcome st'
    exact batch_refused hbound
  · intro hbound hnil outcome st'
    subst hnil
    exact batch_nil hbound
  · intro hbound hsteady now s hanswers
    have hcourse := onCourse_pool assistant now tree s st rs
    refine ⟨hcourse.comesTo hsteady hanswers hbound, ?_⟩
    intro outcome st' hbatch
    cases hbatch with
    | refused message hrefused =>
      rw [Workshop.boundError?_eq_none_iff.2 hbound] at hrefused
      cases hrefused
    | returned reports p hnone hreaches hstages =>
      have hmatches := (hcourse.reaches hsteady hreaches).matches hanswers hstages
      obtain ⟨others, hothers, hmatches'⟩ :=
        Workshop.matches_answerAll hsteady rfl hanswers now s
      obtain ⟨as, henters, has⟩ := enters_of_reaches hreaches hstages
      obtain ⟨bs, henters', hbs⟩ := enters_of_answerAll hothers
      refine ⟨reports, rfl, (answers_of_reaches hreaches hstages).2, hmatches, ?_⟩
      exact agrees_of_matches henters henters' has hbs hmatches hmatches'

theorem batch_outcome_two :
    let t : Template := ⟨"drop", .style, "debugger", .phrase "debugger", .debugger, .real .one, true⟩
    let helped : Request :=
      ⟨⟨.known .style, some "no debugger", "a.js", 1, .low, 1, ""⟩, "debugger;\nrun();\n", none⟩
    let asked : Request := ⟨⟨.other "lint", some "odd", "a.js", 1, .low, 1, ""⟩, "x", none⟩
    let reply : Completion := ⟨"\x7b\x7d", "", 0, 0, .real .zero, ""⟩
    let a : Assistant Unit := ⟨⟨"ai", "m", fun _ s => (.returned reply, s)⟩, {}⟩
    let st : Session Unit := fresh ⟨[(.style, [t])], false⟩ ()
    let rs := [asked, helped]
    (Workshop.IsSteady (some a) ∧ st.workshop.Answers (some a) "noon" .empty () rs ∧
      Pool.ComesTo (some a) 2 .empty
        (fun p => ∃ reports : List Report, p.tasks.map Task.stage = reports.map Stage.answered)
        (st.pool rs)) ∧
      (∀ outcome st', Batch (some a) .empty st [] (some 0) outcome st' →
        outcome = .error "max_concurrency must be >= 1, got 0" ∧ st' = st) ∧
      ∀ outcome st', Batch (some a) .empty st [] none outcome st' → outcome = .ok [] ∧ st' = st := by
  intro t helped asked reply a st rs
  have hsteady : Workshop.IsSteady (some a) := by
    intro b hb
    cases hb
    exact ⟨fun _ => .returned reply, fun _ _ => rfl⟩
  have hanswers : st.workshop.Answers (some a) "noon" .empty () rs := by
    have hhelps : st.workshop.Helps .empty helped := Workshop.draft_success_iff.1 (by decide +kernel)
    have hmiss : ¬ st.workshop.Helps .empty asked := mt Workshop.draft_success_iff.2 (by decide)
    have hreached : a.reached asked.diagnostic (Workshop.contextFor asked) () = .ok reply :=
      Assistant.reached_of_returned (by decide +kernel) rfl
    have hreply : Proposal.ofCompletion "noon" asked.diagnostic (a.signed reply) =
        .ok (.failed ("Failed to parse AI response: " ++
          "Invalid response format: missing required fields") (some "\x7b\x7d")) := by
      decide +kernel
    refine List.forall_mem_cons.2 ⟨?_, List.forall_mem_cons.2 ⟨?_, List.forall_mem_nil _⟩⟩
    · rw [Workshop.answer_eq_of_not_helps hmiss, hreached, Assistant.conclude, hreply]
      exact ⟨_, rfl⟩
    · exact ⟨_, Workshop.answer_eq_of_quiet (.inr hhelps)⟩
  have htext : "max_concurrency must be >= 1, got " ++
      (Number.int (Workshop.bound (some a) (some 0))).text = "max_concurrency must be >= 1, got 0" := by
    decide +kernel
  obtain ⟨hrefused, -, -⟩ := batch_outcome (some a) .empty st [] (some 0)
  rw [htext] at hrefused
  obtain ⟨-, hempty, -⟩ := batch_outcome (some a) .empty st [] none
  obtain ⟨-, -, hfull⟩ := batch_outcome (some a) .empty st rs (some 2)
  refine ⟨⟨hsteady, hanswers, (hfull (by decide) hsteady "noon" () hanswers).1⟩, ?_, ?_⟩
  · exact fun outcome st' => (hrefused (by decide) outcome st').1
  · exact fun outcome st' => (hempty (by decide) rfl outcome st').1

end Session

end Mend