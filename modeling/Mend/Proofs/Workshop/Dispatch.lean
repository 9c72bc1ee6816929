import Mend.Workshop

namespace Mend.Workshop

variable {S : Type} {σ : Type} {w : Workshop S} {now : String} {tree : FileTree} {r : Request}
  {t : Template S} {text summary : String} {es : List Edit}

def Repairs [Repairer S] (w : Workshop S) (tree : FileTree) (r : Request) (t : Template S)
    (text summary : String) (es : List Edit) : Prop :=
  w.catalog.classify r.diagnostic = some t ∧
    Repairer.attempt t.strategy tree r.diagnostic r.content r.context =
      .ok (.fixed text summary es)

def Helps [Repairer S] (w : Workshop S) (tree : FileTree) (r : Request) : Prop :=
  ∃ t text summary es, w.Repairs tree r t text summary es

def repairReport (t : Template S) (text summary : String) (es : List Edit) : Report :=
  { success := true, fixType := some t.name, method := some Report.byTemplate, fix := some text,
    description := some summary, edits := es, confidence := t.confidence,
    autoFixable := t.autoFixable }

section

variable [Repairer S]

theorem draft_of_classify_eq_none (h : w.catalog.classify r.diagnostic = none) (tree : FileTree) :
    w.draft tree r = { success := false, reason := some (missReason w.catalog r.diagnostic) } := by
  rw [draft, tried?, selected?, h]
  rfl

theorem draft_of_classify (h : w.catalog.classify r.diagnostic = some t) (tree : FileTree) :
    w.draft tree r =
      attemptReport t (Repairer.attempt t.strategy tree r.diagnostic r.content r.context) := by
  rw [draft, tried?, selected?, h]
  rfl

theorem draft_of_repairs (h : w.Repairs tree r t text summary es) :
    w.draft tree r = repairReport t text summary es := by
  obtain ⟨hclassify, hattempt⟩ := h
  rw [draft_of_classify hclassify, hattempt]
  rfl

theorem helps_of_draft_success (h : (w.draft tree r).success = true) : w.Helps tree r := by
  cases hclassify : w.catalog.classify r.diagnostic with
  | none =>
    rw [draft_of_classify_eq_none hclassify] at h
    cases h
  | some t =>
    rw [draft_of_classify hclassify] at h
    cases hattempt : Repairer.attempt t.strategy tree r.diagnostic r.content r.context with
    | error f =>
      rw [hattempt] at h
      cases h
    | ok a =>
      cases a with
      | declined reason suggestion summary =>
        rw [hattempt] at h
        cases h
      | fixed text summary es => exact ⟨t, text, summary, es, hclassify, hattempt⟩

theorem draft_success_iff : (w.draft tree r).success = true ↔ w.Helps tree r := by
  constructor
  · exact helps_of_draft_success
  · intro h
    obtain ⟨t, text, summary, es, hrepairs⟩ := h
    rw [draft_of_repairs hrepairs]
    rfl

/-- The template that was tried is the one that the catalog selects. -/
theorem map_fst_tried? : (w.tried? tree r).map (·.1) = w.selected? r := by
  rw [tried?, Option.map_map]
  exact Option.map_id'

theorem answer_of_helps (h : w.Helps tree r) (assistant : Option (Assistant σ)) (s : σ) :
    w.answer assistant now tree r s = (.quiet (w.byTemplate now tree r), s) := by
  cases assistant with
  | none => rfl
  | some a =>
    exact if_pos (draft_success_iff.2 h)

theorem answer_of_not_helps (h : ¬ w.Helps tree r) (a : Assistant σ) (s : σ) :
    w.answer (some a) now tree r s =
      (.ofExchange w now (w.selected? r) r (a.ask now r.diagnostic (contextFor r) s).1,
        (a.ask now r.diagnostic (contextFor r) s).2) := by
  rw [← map_fst_tried?]
  exact if_neg (mt draft_success_iff.1 h)

end

theorem withHints_of_success (r : Request) {report : Report} (h : report.success = true) :
    withHints r report = report := by
  rw [withHints, if_pos h]

@[simp] theorem withHints_success (r : Request) (report : Report) :
    (withHints r report).success = report.success := by
  unfold withHints
  split
  · rfl
  · rfl

def noted (w : Workshop S) (r : Request) (report : Report) : Tally.Entry :=
  entry (w.selected? r) r report

/-- The template that was tried for a request is the one by which the catalog tells whether
repairs of its diagnostic may be applied without review. -/
theorem noted_autoFixable (report : Report) :
    (w.noted r report).autoFixable = w.catalog.isAutoFixable r.diagnostic := rfl

def entered (w : Workshop S) (now : String) (r : Request) (report : Report) : Workshop S :=
  { w with tally := w.tally.record now (w.noted r report) }

theorem entry_withHints (t : Option (Template S)) (report : Report) :
    entry t r (withHints r report) = entry t r report := by
  unfold withHints
  split
  · rfl
  · rfl

theorem finish_eq (report : Report) :
    w.finish now (w.selected? r) r report =
      (withHints r report, w.entered now r (withHints r report)) := by
  rw [finish, entered, noted, entry_withHints]

theorem byTemplate_eq [Repairer S] :
    w.byTemplate now tree r =
      (withHints r (w.draft tree r), w.entered now r (withHints r (w.draft tree r))) := by
  rw [← finish_eq, ← map_fst_tried?]
  rfl

theorem byTemplate_of_repairs [Repairer S] (h : w.Repairs tree r t text summary es) :
    w.byTemplate now tree r =
      (repairReport t text summary es, w.entered now r (repairReport t text summary es)) := by
  have hsuccess : (w.draft tree r).success = true :=
    draft_success_iff.2 ⟨t, text, summary, es, h⟩
  rw [byTemplate_eq, withHints_of_success r hsuccess, draft_of_repairs h]

theorem ofExchange_of_ok {e : Exchange} {p : Proposal} (h : e.outcome = .ok p) :
    Run.ofExchange w now (w.selected? r) r e =
      ⟨.ok (withHints r p.report), e.events, w.entered now r (withHints r p.report)⟩ := by
  simp only [Run.ofExchange, h, finish_eq]

theorem ofExchange_of_error {e : Exchange} {f : Reply.Fault} (h : e.outcome = .error f) :
    Run.ofExchange w now (w.selected? r) r e = ⟨.error f, e.events, w⟩ := by
  simp only [Run.ofExchange, h]

theorem of_ofExchange {e : Exchange} {report : Report}
    (h : (Run.ofExchange w now (w.selected? r) r e).answer = .ok report) :
    ∃ p, e.outcome = .ok p ∧ report = withHints r p.report ∧
      (Run.ofExchange w now (w.selected? r) r e).workshop = w.entered now r report := by
  cases he : e.outcome with
  | error f =>
    rw [ofExchange_of_error he] at h
    cases h
  | ok p =>
    rw [ofExchange_of_ok he] at h ⊢
    cases h
    exact ⟨p, rfl, rfl, rfl⟩

theorem ofExchange_answer_congr (w v : Workshop S) (e : Exchange) :
    (Run.ofExchange w now (w.selected? r) r e).answer =
      (Run.ofExchange v now (v.selected? r) r e).answer := by
  cases he : e.outcome with
  | error f => rw [ofExchange_of_error he, ofExchange_of_error he]
  | ok p => rw [ofExchange_of_ok he, ofExchange_of_ok he]

/-- The report comes from a model and says nothing that only templates say. -/
structure FromModel (report : Report) : Prop where
  fixType : report.fixType = some Report.byModel
  method : report.method = some Report.byModel
  autoFixable : report.autoFixable = false
  description : report.description = none
  suggestion : report.suggestion = none

theorem fromModel_withHints (r : Request) (p : Proposal) : FromModel (withHints r p.report) := by
  cases p with
  | repaired fix explanation confidence edits warnings provenance =>
    exact ⟨rfl, rfl, rfl, rfl, rfl⟩
  | failed reason reply => exact ⟨rfl, rfl, rfl, rfl, rfl⟩

/-- A template that repairs the text answers the request, with or without an assistant and without
a call. Otherwise the assistant answers, and only the exchange with it and the request decide what
the answer is; without an assistant the template does. -/
theorem answer_route [Repairer S] (σ : Type) (w : Workshop S) (now : String) (tree : FileTree)
    (r : Request) :
    (∀ t text summary es, w.Repairs tree r t text summary es →
      ∀ (assistant : Option (Assistant σ)) (s : σ),
        w.answer assistant now tree r s =
            (.quiet (repairReport t text summary es,
              w.entered now r (repairReport t text summary es)), s) ∧
          w.answer assistant now tree r s = (.quiet (w.byTemplate now tree r), s)) ∧
    (¬ w.Helps tree r → ∀ (a : Assistant σ) (s : σ) (report : Report),
      (w.answer (some a) now tree r s).1.answer = .ok report →
        (∃ p, (a.ask now r.diagnostic (contextFor r) s).1.outcome = .ok p ∧
          report = withHints r p.report) ∧
        FromModel report ∧
        (w.answer (some a) now tree r s).1.workshop = w.entered now r report ∧
        ∀ v : Workshop S, ¬ v.Helps tree r →
          (v.answer (some a) now tree r s).1.answer = .ok report) ∧
    (∀ s : σ, w.answer none now tree r s = (.quiet (w.byTemplate now tree r), s)) := by
  refine ⟨?_, ?_, fun s => rfl⟩
  · intro t text summary es h assistant s
    have hanswer : w.answer assistant now tree r s = (.quiet (w.byTemplate now tree r), s) :=
      answer_of_helps ⟨t, text, summary, es, h⟩ assistant s
    rw [hanswer, byTemplate_of_repairs h]
    exact ⟨rfl, rfl⟩
  · intro h a s report hreport
    rw [answer_of_not_helps h] at hreport ⊢
    obtain ⟨p, hp, hreport', hworkshop⟩ := of_ofExchange hreport
    refine ⟨⟨p, hp, hreport'⟩, ?_, hworkshop, ?_⟩
    · rw [hreport']
      exact fromModel_withHints r p
    · intro v hv
      rw [answer_of_not_helps hv, ← hreport]
      exact ofExchange_answer_congr v w _

theorem answer_route_debugger :
    let t : Template := ⟨"drop", .style, "debugger", .phrase "debugger", .debugger, .real .one, true⟩
    let r : Request :=
      ⟨⟨.known .style, some "no debugger", "a.js", 1, .low, 1, ""⟩, "debugger;\nrun();\n", none⟩
    let refusing : Assistant Unit :=
      ⟨⟨"ai", "m", fun _ s => (.failed ⟨.authentication, "no key"⟩, s)⟩, {}⟩
    ((ofCatalog ⟨[(.style, [t])], false⟩).answer (some refusing) "" .empty r ()).1.answer =
        .ok (repairReport t "run();\n" "Removed debugger statement"
          [{ kind := .delete, line := some 1, text := some "debugger;" }]) ∧
      ∀ report, ((ofCatalog .empty : Workshop).answer (some refusing) "" .empty r ()).1.answer =
        .ok report → FromModel report := by
  intro t r refusing
  have hclassify : (ofCatalog ⟨[(.style, [t])], false⟩).catalog.classify r.diagnostic = some t := by
    decide +kernel
  have hrepair : Strategy.Statement.debuggerAttempt r.diagnostic r.content =
      .fixed "run();\n" "Removed debugger statement"
        [{ kind := .delete, line := some 1, text := some "debugger;" }] := by
    decide +kernel
  have hmiss : ¬ (ofCatalog .empty : Workshop).Helps .empty r := by
    intro h
    obtain ⟨t, text, summary, es, hnone, -⟩ := h
    cases hnone
  constructor
  · rw [((answer_route Unit _ "" _ _).1 _ _ _ _ ⟨hclassify, congrArg Except.ok hrepair⟩
      (some refusing) ()).1]
    rfl
  · intro report hreport
    exact ((answer_route Unit _ "" _ _).2.1 hmiss refusing () report hreport).2.1

end Mend.Workshop
