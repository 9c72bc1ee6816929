import Mend.Proofs.Workshop.Pool

/-! Sessions of a workshop: single requests, batches, looks at the tally and resets, one after the
other. The requests of a batch that broke may go on behind the steps that follow. -/

namespace Mend

inductive Event
  | returned (answers : List (Request × Report))
  /-- A single request or the bound of a batch raised. -/
  | raised
  /-- A request of a batch raised, and the batch with it. -/
  | broken
  | told (t : Tally)
  | reset
  /-- Only requests that nobody waits for went on, or were given up. -/
  | idle

def Event.answered : Event → List (Request × Report)
  | .returned as => as
  | _ => []

def Event.answers : List Event → List (Request × Report)
  | [] => []
  | .reset :: _ => []
  | event :: events => event.answered ++ answers events

theorem Event.answers_cons {event : Event} {events : List Event} (h : event ≠ .reset) :
    Event.answers (event :: events) = event.answered ++ Event.answers events := by
  cases event with
  | reset => exact absurd rfl h
  | returned as => rfl
  | raised => rfl
  | broken => rfl
  | told t => rfl
  | idle => rfl

structure Session (σ : Type) (S : Type := Strategy) where
  workshop : Workshop S
  provider : σ
  /-- The open requests of broken batches. -/
  adrift : List Task

namespace Session

variable {S : Type} {σ : Type}

def fresh (c : Catalog S) (s : σ) : Session σ S := ⟨.ofCatalog c, s, []⟩

def pool (st : Session σ S) (rs : List Request) : Pool σ S :=
  ⟨st.workshop, st.provider, rs.map Task.start, st.adrift⟩

inductive Step [Repairer S] (assistant : Option (Assistant σ)) (st : Session σ S) :
    Event → Session σ S → Prop
  | template (now : String) (tree : FileTree) (r : Request) :
    Step assistant st (.returned [(r, (st.workshop.byTemplate now tree r).1)])
      { st with workshop := (st.workshop.byTemplate now tree r).2 }
  | fix (r : Request) (report : Report) (w : Workshop S) (s : σ) (adrift : List Task)
      (h : Pool.Runs assistant 1 (st.pool [r]) ⟨w, s, [⟨r, .answered report⟩], adrift⟩) :
    Step assistant st (.returned [(r, report)]) ⟨w, s, adrift⟩
  | fixRaised (r : Request) (f : Reply.Fault) (w : Workshop S) (s : σ) (adrift : List Task)
      (h : Pool.Runs assistant 1 (st.pool [r]) ⟨w, s, [⟨r, .faulted f⟩], adrift⟩) :
    Step assistant st .raised ⟨w, s, adrift⟩
  | batch (rs : List Request) (given : Option Int) (w : Workshop S) (s : σ) (ks adrift : List Task)
      (hbound : Workshop.boundError? (Workshop.bound assistant given) = none)
      (h : Pool.Runs assistant (Workshop.bound assistant given) (st.pool rs) ⟨w, s, ks, adrift⟩)
      (hdone : (Task.answers ks).length = rs.length) :
    Step assistant st (.returned (Task.answers ks)) ⟨w, s, adrift⟩
  | batchRefused (given : Option Int) (message : String)
      (hbound : Workshop.boundError? (Workshop.bound assistant given) = some message) :
    Step assistant st .raised st
  | batchBroken (rs : List Request) (given : Option Int) (w : Workshop S) (s : σ)
      (ks adrift : List Task)
      (hbound : Workshop.boundError? (Workshop.bound assistant given) = none)
      (h : Pool.Runs assistant (Workshop.bound assistant given) (st.pool rs) ⟨w, s, ks, adrift⟩)
      (hfault : ∃ k ∈ ks, k.isFaulted = true) :
    Step assistant st .broken ⟨w, s, ks.filter Task.isOpen ++ adrift⟩
  | stats : Step assistant st (.told st.workshop.tally) st
  | reset : Step assistant st .reset { st with workshop := st.workshop.reset }
  | idle (w : Workshop S) (s : σ) (adrift kept : List Task)
      (h : Pool.Runs assistant 0 (st.pool []) ⟨w, s, [], adrift⟩) (hkept : kept.Sublist adrift) :
    Step assistant st .idle ⟨w, s, kept⟩

/-- The sessions that some steps lead to, with their events, the latest one first. -/
inductive Run [Repairer S] (assistant : Option (Assistant σ)) (st₀ : Session σ S) :
    List Event → Session σ S → Prop
  | start : Run assistant st₀ [] st₀
  | step {events : List Event} {event : Event} {st st' : Session σ S}
      (h : Run assistant st₀ events st) (hstep : Step assistant st event st') :
    Run assistant st₀ (event :: events) st'

variable {assistant : Option (Assistant σ)} {st st' st₀ : Session σ S} {event : Event}
  {events : List Event}

theorem answers_start (rs : List Request) : Task.answers (rs.map Task.start) = [] := by
  induction rs with
  | nil => rfl
  | cons r rs ih => exact ih

theorem map_request_start (rs : List Request) : (rs.map Task.start).map Task.request = rs := by
  induction rs with
  | nil => rfl
  | cons r rs ih => rw [List.map_cons, List.map_cons, ih]; rfl

structure Tallied (c : Catalog S) (as : List (Request × Report)) (t : Tally) : Prop where
  total : t.total = as.length
  successful : t.successful = as.countP fun a => a.2.success
  failed : t.failed = as.countP fun a => !a.2.success
  autoFixable : t.autoFixable = as.countP fun a => c.isAutoFixable a.1.diagnostic
  methods : ∀ name, t.byMethod.count name = as.countP fun a => a.2.method == some name
  errorTypes : ∀ name, t.byErrorType.count name =
    as.countP fun a => Tally.label (some a.1.diagnostic.bucket.name) == name
  complexities : ∀ name, t.byComplexity.count name =
    as.countP fun a => Tally.label (a.2.provenance.map (·.complexity.name)) == name

theorem tallied_of_tallies {w : Workshop S} {as : List (Request × Report)} (h : w.Tallies as) :
    Tallied w.catalog as w.tally where
  total := by rw [h.total, List.length_map]
  successful := by rw [h.successful, List.countP_map]; rfl
  failed := by rw [h.failed, List.countP_map]; rfl
  autoFixable := by rw [h.autoFixable, List.countP_map]; rfl
  methods := by
    intro name
    rw [h.methods, List.countP_map]
    rfl
  errorTypes := by
    intro name
    rw [h.errorTypes, List.countP_map]
    rfl
  complexities := by
    intro name
    rw [h.complexities, List.countP_map]
    rfl

variable [Repairer S]

theorem effect_of_runs {rs : List Request} {bound : Int} {w : Workshop S} {s : σ}
    {ks adrift : List Task} (h : Pool.Runs assistant bound (st.pool rs) ⟨w, s, ks, adrift⟩) :
    ∃ as, st.workshop.Enters as w ∧
      (Task.answers ks ++ Task.answers adrift).Perm (as ++ Task.answers st.adrift) := by
  obtain ⟨as, henters, hperm⟩ := Pool.Runs.effect h
  refine ⟨as, henters, hperm.trans ?_⟩
  rw [Pool.answers, pool, answers_start, List.nil_append]

theorem Step.adrift_eq_nil (h : Step assistant st event st') (hevent : event ≠ .broken)
    (hst : st.adrift = []) : st'.adrift = [] := by
  cases h with
  | template now tree r => exact hst
  | fix r report w s adrift h => exact Pool.Runs.adrift_eq_nil h hst
  | fixRaised r f w s adrift h => exact Pool.Runs.adrift_eq_nil h hst
  | batch rs given w s ks adrift _ h => exact Pool.Runs.adrift_eq_nil h hst
  | batchRefused given message => exact hst
  | batchBroken rs given w s ks adrift _ h => exact absurd rfl hevent
  | stats => exact hst
  | reset => exact hst
  | idle w s adrift kept h hkept =>
    have hadrift : adrift = [] := Pool.Runs.adrift_eq_nil h hst
    rw [hadrift] at hkept
    exact List.sublist_nil.1 hkept

theorem perm_of_adrift_eq_nil {rs : List Request} {bound : Int} {w : Workshop S} {s : σ}
    {ks adrift : List Task} (h : Pool.Runs assistant bound (st.pool rs) ⟨w, s, ks, adrift⟩)
    {as : List (Request × Report)} (hst : st.adrift = [])
    (has : (Task.answers ks ++ Task.answers adrift).Perm (as ++ Task.answers st.adrift)) :
    as.Perm (Task.answers ks) := by
  have hadrift : adrift = [] := Pool.Runs.adrift_eq_nil h hst
  rw [hadrift, hst] at has
  simpa [Task.answers] using has.symm

/-- What a step does to the workshop: it is reset, or some answers are entered. They are those that
the step returns, unless requests are adrift or come to be. -/
theorem Step.effect (h : Step assistant st event st') :
    (event = .reset ∧ st'.workshop = st.workshop.reset) ∨
    (event ≠ .reset ∧ ∃ as, st.workshop.Enters as st'.workshop ∧
      (event ≠ .broken → st.adrift = [] → as.Perm event.answered)) := by
  cases h with
  | template now tree r =>
    right
    rw [Workshop.byTemplate_eq]
    exact ⟨by nofun, _, .entered .nothing now r _, fun _ _ => .refl _⟩
  | fix r report w s adrift h =>
    right
    obtain ⟨as, henters, has⟩ := effect_of_runs h
    exact ⟨by nofun, as, henters, fun _ hst => perm_of_adrift_eq_nil h hst has⟩
  | fixRaised r f w s adrift h =>
    right
    obtain ⟨as, henters, has⟩ := effect_of_runs h
    exact ⟨by nofun, as, henters, fun _ hst => perm_of_adrift_eq_nil h hst has⟩
  | batch rs given w s ks adrift _ h =>
    right
    obtain ⟨as, henters, has⟩ := effect_of_runs h
    exact ⟨by nofun, as, henters, fun _ hst => perm_of_adrift_eq_nil h hst has⟩
  | batchRefused given message => exact .inr ⟨by nofun, [], .nothing, fun _ _ => .refl _⟩
  | batchBroken rs given w s ks adrift _ h =>
    right
    obtain ⟨as, henters, -⟩ := effect_of_runs h
    exact ⟨by nofun, as, henters, fun hevent _ => absurd rfl hevent⟩
  | stats => exact .inr ⟨by nofun, [], .nothing, fun _ _ => .refl _⟩
  | reset => exact .inl ⟨rfl, rfl⟩
  | idle w s adrift kept h =>
    right
    obtain ⟨as, henters, has⟩ := effect_of_runs h
    exact ⟨by nofun, as, henters, fun _ hst => perm_of_adrift_eq_nil h hst has⟩

theorem Step.catalog (h : Step assistant st event st') :
    st'.workshop.catalog = st.workshop.catalog := by
  rcases h.effect with ⟨-, hreset⟩ | ⟨-, as, henters, -⟩
  · rw [hreset]
    rfl
  · exact henters.catalog

theorem Step.sound (h : Step assistant st event st') (hst : st.workshop.tally.Sound) :
    st'.workshop.tally.Sound := by
  rcases h.effect with ⟨-, hreset⟩ | ⟨-, as, henters, -⟩
  · rw [hreset]
    exact Tally.sound_empty
  · exact henters.sound hst

theorem Step.tallies (h : Step assistant st event st') (hevent : event ≠ .broken)
    (hst : st.adrift = []) (hlog : st.workshop.Tallies (Event.answers events)) :
    st'.workshop.Tallies (Event.answers (event :: events)) := by
  rcases h.effect with ⟨rfl, hreset⟩ | ⟨hne, as, henters, has⟩
  · rw [hreset]
    exact Tally.sumsUp_empty
  · rw [Event.answers_cons hne]
    exact (henters.tallies hlog).perm ((has hevent hst).append_right _)

/-- A step that raised has entered nothing of its own: what was entered meanwhile are answers to
requests that were adrift. -/
theorem Step.effect_of_raised (h : Step assistant st .raised st') :
    ∃ as, st.workshop.Enters as st'.workshop ∧
      (Task.answers st'.adrift).Perm (as ++ Task.answers st.adrift) := by
  cases h with
  | fixRaised r f w s adrift h => exact effect_of_runs h
  | batchRefused given message => exact ⟨[], .nothing, .refl _⟩

theorem Step.workshop_eq_of_raised (h : Step assistant st .raised st') (hst : st.adrift = []) :
    st'.workshop = st.workshop := by
  obtain ⟨as, henters, has⟩ := h.effect_of_raised
  rw [h.adrift_eq_nil (by nofun) hst, hst, Task.answers, List.filterMap_nil, List.append_nil] at has
  rw [List.nil_perm.1 has] at henters
  exact henters.eq_of_nil

theorem Run.catalog (h : Run assistant st₀ events st) :
    st.workshop.catalog = st₀.workshop.catalog := by
  induction h with
  | start => rfl
  | step _ hstep ih => rw [hstep.catalog, ih]

theorem Run.sound (h : Run assistant st₀ events st) (h₀ : st₀.workshop.tally.Sound) :
    st.workshop.tally.Sound := by
  induction h with
  | start => exact h₀
  | step _ hstep ih => exact hstep.sound ih

theorem Run.adrift_eq_nil (h : Run assistant st₀ events st) (hevents : .broken ∉ events)
    (h₀ : st₀.adrift = []) : st.adrift = [] := by
  induction h with
  | start => exact h₀
  | step _ hstep ih =>
    rw [List.mem_cons, not_or] at hevents
    exact hstep.adrift_eq_nil (Ne.symm hevents.1) (ih hevents.2)

theorem Run.tallies (h : Run assistant st₀ events st) (hevents : .broken ∉ events)
    (h₀ : st₀.adrift = []) (htallies : st₀.workshop.Tallies []) :
    st.workshop.Tallies (Event.answers events) := by
  induction h with
  | start => exact htallies
  | step hrun hstep ih =>
    rw [List.mem_cons, not_or] at hevents
    exact hstep.tallies (Ne.symm hevents.1) (hrun.adrift_eq_nil hevents.2 h₀) (ih hevents.2)

/-- Wherever a session may lead, the counts of its tally agree with each other; as long as no batch
broke, they are those of the answers since the last reset; and a step that raises enters nothing of
its own, so that it leaves all counts as they are unless a broken batch has left requests open. -/
theorem tally_of_run {c : Catalog S} {s₀ : σ} (h : Run assistant (fresh c s₀) events st) :
    st.workshop.tally.Sound ∧
    st.workshop.tally.byMethod.count Report.byTemplate +
      st.workshop.tally.byMethod.count Report.byModel ≤ st.workshop.tally.total ∧
    (.broken ∉ events → Tallied c (Event.answers events) st.workshop.tally) ∧
    (∀ st', Step assistant st .raised st' →
      (∃ as, st.workshop.Enters as st'.workshop ∧
        (Task.answers st'.adrift).Perm (as ++ Task.answers st.adrift)) ∧
      (.broken ∉ events → st'.workshop = st.workshop)) := by
  have hsound : st.workshop.tally.Sound := h.sound Tally.sound_empty
  refine ⟨hsound, hsound.methods_le (by decide), ?_, ?_⟩
  · intro hevents
    have htallied := tallied_of_tallies (h.tallies hevents rfl Tally.sumsUp_empty)
    rwa [h.catalog] at htallied
  · intro st' hstep
    refine ⟨hstep.effect_of_raised, ?_⟩
    intro hevents
    exact hstep.workshop_eq_of_raised (h.adrift_eq_nil hevents rfl)

theorem tally_of_run_missed :
    let r : Request := ⟨⟨.other "", some "odd", "a.js", 1, .low, 1, ""⟩, "x", none⟩
    let report : Report := ((Workshop.ofCatalog .empty : Workshop).byTemplate "noon" .empty r).1
    ∃ st : Session Unit,
      Run none (fresh .empty ()) [.returned [(r, report)], .reset, .returned [(r, report)]] st ∧
      st.workshop.tally.Sound ∧ Tallied (.empty : Catalog) [(r, report)] st.workshop.tally := by
  intro r report
  have hrun : Run none (fresh .empty ())
      [.returned [(r, report)], .reset, .returned [(r, report)]] _ :=
    .step (.step (.step .start (.template "noon" .empty r)) .reset) (.template "noon" .empty r)
  refine ⟨_, hrun, (tally_of_run hrun).1, (tally_of_run hrun).2.2.1 ?_⟩
  simp

end Session

end Mend
