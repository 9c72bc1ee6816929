import Mend.Proofs.Workshop.Schedule

namespace Mend

namespace Workshop

variable {S : Type} [Repairer S] {σ : Type} {assistant : Option (Assistant σ)} {c : Catalog S}

/-- The sources of a report for a request, in workshops with a catalog. -/
inductive Origin (assistant : Option (Assistant σ)) (c : Catalog S) (r : Request) : Report → Prop
  | template (w : Workshop S) (hw : w.catalog = c) (tree : FileTree) :
    Origin assistant c r (withHints r (w.draft tree r))
  | model (a : Assistant σ) (ha : assistant = some a) (now : String)
      (result : Except Retry.Stop Completion) (p : Proposal)
      (h : a.conclude now r.diagnostic result = .ok p) :
    Origin assistant c r (withHints r p.report)

def Originate (assistant : Option (Assistant σ)) (c : Catalog S)
    (as : List (Request × Report)) : Prop :=
  ∀ a ∈ as, Origin assistant c a.1 a.2

theorem originate_nil : Originate assistant c [] := List.forall_mem_nil _

theorem originate_append {as bs : List (Request × Report)} :
    Originate assistant c (as ++ bs) ↔ Originate assistant c as ∧ Originate assistant c bs :=
  List.forall_mem_append

end Workshop

namespace Task

variable {S : Type} [Repairer S] {σ : Type} {assistant : Option (Assistant σ)} {a : Assistant σ}
  {now : String} {tree : FileTree} {w : Workshop S} {k : Task} {r : Request} {s : σ}
  {report : Report} {n : Nat}

theorem origin_close {result : Except Retry.Stop Completion} (ha : assistant = some a)
    (h : (close w now r (a.conclude now r.diagnostic result)).2 = .answered report) :
    Workshop.Origin assistant w.catalog r report := by
  cases hresult : a.conclude now r.diagnostic result with
  | error f =>
    rw [hresult] at h
    cases h
  | ok p =>
    rw [hresult] at h
    cases h
    exact .model a ha now result p hresult

theorem origin_begin (h : (begin assistant now tree w r).2 = .answered report) :
    Workshop.Origin assistant w.catalog r report := by
  unfold begin at h
  dsimp only at h
  split at h
  · cases h
    exact .template w rfl tree
  · cases h

theorem origin_attempt (ha : assistant = some a)
    (h : (attempt a now w r n s).1.2 = .answered report) :
    Workshop.Origin assistant w.catalog r report := by
  dsimp only [attempt, react] at h
  split at h
  · split at h
    · cases h
    · exact origin_close ha h
  · exact origin_close ha h

theorem origin_advance (h : (k.advance assistant now tree w s).1.2 = .answered report) :
    k.stage = .answered report ∨ Workshop.Origin assistant w.catalog k.request report := by
  obtain ⟨r, stage⟩ := k
  cases stage with
  | waiting =>
    right
    exact origin_begin h
  | asking n =>
    cases assistant with
    | none => cases h
    | some a =>
      right
      exact origin_attempt rfl h
  | answered other =>
    left
    exact h
  | faulted f => cases h

theorem of_answer? {answer : Request × Report} (h : k.answer? = some answer) :
    k.stage = .answered answer.2 ∧ k.request = answer.1 := by
  obtain ⟨r, stage⟩ := k
  cases stage with
  | answered report =>
    cases h
    exact ⟨rfl, rfl⟩
  | waiting => cases h
  | asking n => cases h
  | faulted f => cases h

theorem originate_cons {c : Catalog S} {ks : List Task} :
    Workshop.Originate assistant c (answers (k :: ks)) ↔
      (∀ report, k.stage = .answered report → Workshop.Origin assistant c k.request report) ∧
        Workshop.Originate assistant c (answers ks) := by
  rw [answers_cons]
  apply Workshop.originate_append.trans
  apply and_congr_left'
  constructor
  · intro h report hreport
    obtain ⟨r, stage⟩ := k
    cases hreport
    exact h (r, report) (List.mem_singleton_self _)
  · intro h answer hanswer
    obtain ⟨hstage, hrequest⟩ := of_answer? (Option.mem_toList.1 hanswer)
    rw [← hrequest]
    exact h answer.2 hstage

theorem originate_advance {before after : List Task}
    (h : Workshop.Originate assistant w.catalog (answers (before ++ k :: after))) :
    Workshop.Originate assistant w.catalog
      (answers (before ++ ⟨k.request, (k.advance assistant now tree w s).1.2⟩ :: after)) := by
  rw [answers_append, Workshop.originate_append, originate_cons] at h ⊢
  obtain ⟨hbefore, hk, hafter⟩ := h
  refine ⟨hbefore, ?_, hafter⟩
  intro report hreport
  cases origin_advance hreport with
  | inl hold => exact hk report hold
  | inr hnew => exact hnew

theorem answers_filter_isOpen (ks : List Task) : answers (ks.filter isOpen) = [] := by
  apply List.filterMap_eq_nil_iff.2
  intro k hk
  exact answer?_of_isOpen (List.mem_filter.1 hk).2

end Task

namespace Pool

variable {S : Type} [Repairer S] {σ : Type} {assistant : Option (Assistant σ)} {bound : Int}
  {p q : Pool σ S}

theorem Step.originate (h : Step assistant bound p q)
    (hp : Workshop.Originate assistant p.workshop.catalog p.answers) :
    Workshop.Originate assistant q.workshop.catalog q.answers := by
  rw [h.catalog]
  cases h with
  | task now tree w s before after adrift k hbound =>
    obtain ⟨htasks, hadrift⟩ := Workshop.originate_append.1 hp
    exact Workshop.originate_append.2 ⟨Task.originate_advance htasks, hadrift⟩
  | drift now tree w s tasks before after k =>
    obtain ⟨htasks, hadrift⟩ := Workshop.originate_append.1 hp
    exact Workshop.originate_append.2 ⟨htasks, Task.originate_advance hadrift⟩

theorem Runs.originate (h : Runs assistant bound p q)
    (hp : Workshop.Originate assistant p.workshop.catalog p.answers) :
    Workshop.Originate assistant q.workshop.catalog q.answers := by
  induction h with
  | refl => exact hp
  | tail _ hstep ih => exact hstep.originate ih

end Pool

namespace Session

variable {S : Type} [Repairer S] {σ : Type} {assistant : Option (Assistant σ)}
  {st st' st₀ : Session σ S} {event : Event} {events : List Event}

/-- What is answered of the requests adrift has an origin. -/
def Drifts (assistant : Option (Assistant σ)) (st : Session σ S) : Prop :=
  Workshop.Originate assistant st.workshop.catalog (Task.answers st.adrift)

theorem originate_of_runs {rs : List Request} {bound : Int} {w : Workshop S} {s : σ}
    {ks adrift : List Task} (h : Pool.Runs assistant bound (st.pool rs) ⟨w, s, ks, adrift⟩)
    (hst : st.Drifts assistant) :
    w.catalog = st.workshop.catalog ∧
      Workshop.Originate assistant w.catalog (Task.answers ks) ∧
      Workshop.Originate assistant w.catalog (Task.answers adrift) := by
  have hstart : Workshop.Originate assistant st.workshop.catalog (st.pool rs).answers := by
    rw [Pool.answers, pool, answers_start]
    exact hst
  obtain ⟨as, henters, -⟩ := Pool.Runs.effect h
  exact ⟨henters.catalog, Workshop.originate_append.1 (Pool.Runs.originate h hstart)⟩

theorem Step.originate (h : Step assistant st event st') (hst : st.Drifts assistant) :
    Workshop.Originate assistant st.workshop.catalog event.answered ∧ st'.Drifts assistant := by
  cases h with
  | template now tree r =>
    refine ⟨?_, hst⟩
    intro answer hanswer
    cases List.mem_singleton.1 hanswer
    rw [Workshop.byTemplate_eq]
    exact .template st.workshop rfl tree
  | fix r report w s adrift h =>
    obtain ⟨hcatalog, hks, hadrift⟩ := originate_of_runs h hst
    rw [hcatalog] at hks
    exact ⟨hks, hadrift⟩
  | fixRaised r f w s adrift h =>
    obtain ⟨-, -, hadrift⟩ := originate_of_runs h hst
    exact ⟨Workshop.originate_nil, hadrift⟩
  | batch rs given w s ks adrift _ h =>
    obtain ⟨hcatalog, hks, hadrift⟩ := originate_of_runs h hst
    rw [hcatalog] at hks
    exact ⟨hks, hadrift⟩
  | batchRefused given message => exact ⟨Workshop.originate_nil, hst⟩
  | batchBroken rs given w s ks adrift _ h =>
    obtain ⟨-, -, hadrift⟩ := originate_of_runs h hst
    refine ⟨Workshop.originate_nil, ?_⟩
    rw [Drifts, Task.answers_append, Task.answers_filter_isOpen]
    exact hadrift
  | stats => exact ⟨Workshop.originate_nil, hst⟩
  | reset => exact ⟨Workshop.originate_nil, hst⟩
  | idle w s adrift kept h hkept =>
    obtain ⟨-, -, hadrift⟩ := originate_of_runs h hst
    refine ⟨Workshop.originate_nil, ?_⟩
    intro answer hanswer
    exact hadrift answer ((hkept.filterMap _).subset hanswer)

theorem Run.originate (h : Run assistant st₀ events st) (h₀ : st₀.Drifts assistant) :
    (∀ event ∈ events, Workshop.Originate assistant st₀.workshop.catalog event.answered) ∧
      st.Drifts assistant := by
  induction h with
  | start => exact ⟨nofun, h₀⟩
  | step hrun hstep ih =>
    obtain ⟨hevents, hst⟩ := ih
    obtain ⟨hevent, hst'⟩ := hstep.originate hst
    rw [hrun.catalog] at hevent
    exact ⟨List.forall_mem_cons.2 ⟨hevent, hevents⟩, hst'⟩

end Session

namespace Workshop

variable {S : Type} [Repairer S] {σ : Type} {assistant : Option (Assistant σ)} {w : Workshop S}
  {now : String} {tree : FileTree} {r : Request} {rs : List Request} {s : σ} {report : Report}
  {reports : List Report}

theorem origin_byTemplate (w : Workshop S) (now : String) (tree : FileTree) (r : Request) :
    Origin assistant w.catalog r (w.byTemplate now tree r).1 := by
  rw [byTemplate_eq]
  exact .template w rfl tree

theorem origin_answer (h : (w.answer assistant now tree r s).1.answer = .ok report) :
    Origin assistant w.catalog r report := by
  have hstep := Session.step_of_answer assistant ⟨w, s, []⟩ now tree h
  exact (hstep.originate originate_nil).1 (r, report) (List.mem_singleton_self _)

theorem originate_answerAll (h : (w.answerAll assistant now tree rs s).1.answer = .ok reports) :
    Originate assistant w.catalog (rs.zip reports) := by
  have hbound : boundError? (bound assistant (some 1)) = none := rfl
  have hstep := (Session.step_of_answerAll assistant ⟨w, s, []⟩ now tree rs hbound).1 reports h
  exact (hstep.originate originate_nil).1

end Workshop

end Mend
