import Mend.Proofs.Edit.Record
import Mend.Proofs.Workshop.Origin

namespace Mend

open Json (Fields)

namespace Complexity

theorem name_injective {a b : Complexity} (h : a.name = b.name) : a = b := by
  cases a <;> cases b <;> simp_all [name]

end Complexity

theorem Edit.toJson_injective : Function.Injective Edit.toJson := by
  intro d e h
  exact toFields_injective (Json.obj.inj h)

theorem Hint.toJson_injective : Function.Injective Hint.toJson := by
  intro g h heq
  cases g
  cases h
  simp_all [toJson]

theorem Provenance.toJson_injective : Function.Injective Provenance.toJson := by
  intro p q h
  cases p with
  | mk model errorType complexity timestamp generated provider inputTokens outputTokens cost =>
    cases q
    simp only [toJson, Json.obj.injEq, List.cons.injEq, Prod.mk.injEq, Json.bool.injEq,
      Json.str.injEq, Json.num.injEq, Number.int.injEq, true_and, and_true] at h
    obtain ⟨rfl, rfl, rfl, rfl, rfl, hcomplexity, rfl, rfl, rfl⟩ := h
    rw [Complexity.name_injective hcomplexity]

namespace Report

variable {p q : Report}

theorem nullable_injective : Function.Injective nullable := by
  intro v w h
  cases v <;> cases w <;> simp_all [nullable]

def listed {α : Type} (needed : Bool) (toJson : α → Json) (l : List α) : Option Json :=
  if needed || !l.isEmpty then some (.arr (l.map toJson)) else none

theorem listed_injective {α : Type} {toJson : α → Json} (h : Function.Injective toJson)
    (needed : Bool) : Function.Injective (listed needed toJson) := by
  intro k l heq
  cases k with
  | nil =>
    cases l with
    | nil => rfl
    | cons b l => cases needed <;> simp [listed] at heq
  | cons a k =>
    cases l with
    | nil => cases needed <;> simp [listed] at heq
    | cons b l =>
      simp only [listed, List.isEmpty_cons, Bool.not_false, Bool.or_true, if_true,
        Option.some.injEq, Json.arr.injEq] at heq
      exact (List.map_inj_right fun _ _ hab => h hab).1 heq

/-- The parts of a report under their names, those that are left out without a value. -/
def options (r : Report) : List (String × Option Json) :=
  [("success", some (.bool r.success)), ("fixType", some (nullable r.fixType)),
    ("confidence", some (.num r.confidence)), ("method", r.method.map .str),
    ("autoFixable", if r.method = some byTemplate then some (.bool r.autoFixable) else none),
    ("fix", r.fix.map .str), ("description", r.description.map .str),
    ("explanation", r.explanation.map .str), ("reason", r.reason.map .str),
    ("rawResponse", r.rawResponse.map .str), ("suggestion", r.suggestion.map .str),
    ("changes", listed r.success Edit.toJson r.edits), ("warnings", listed false .str r.warnings),
    ("suggestions", listed false Hint.toJson r.hints),
    ("metadata", r.provenance.map Provenance.toJson)]

theorem textField_eq (name : String) (v : Option String) :
    Edit.textField name v = ((v.map Json.str).map fun w => (name, w)).toList := by
  cases v with
  | none => rfl
  | some s => rfl

theorem toList_ite (p : Prop) [Decidable p] (name : String) (v : Json) :
    ((if p then some v else none).map fun w => (name, w)).toList =
      if p then [(name, v)] else [] := by
  split
  · rfl
  · rfl

theorem toList_listed {α : Type} (toJson : α → Json) (l : List α) (name : String) :
    ((listed false toJson l).map fun w => (name, w)).toList =
      if l.isEmpty then [] else [(name, .arr (l.map toJson))] := by
  cases l with
  | nil => rfl
  | cons a l => rfl

theorem toFields_eq (r : Report) : r.toFields = Fields.ofOptions r.options := by
  have hedits : ((listed r.success Edit.toJson r.edits).map fun w => ("changes", w)).toList =
      if r.success || !r.edits.isEmpty then [("changes", .arr (r.edits.map Edit.toJson))] else [] :=
    toList_ite _ _ _
  simp only [toFields, options, textField_eq, Fields.ofOptions_cons, toList_ite, toList_listed,
    hedits]
  cases r.provenance with
  | none => simp [Fields.ofOptions]
  | some p => simp [Fields.ofOptions]

theorem map_str_injective : Function.Injective (Option.map Json.str) :=
  Option.map_injective fun _ _ => Json.str.inj

/-- Only reports of templates have a mark for repairs that need no review. -/
def Marked (r : Report) : Prop := r.method ≠ some byTemplate → r.autoFixable = false

theorem autoFixable_eq (hp : p.Marked) (hq : q.Marked) (hmethod : p.method = q.method)
    (h : (if p.method = some byTemplate then some (Json.bool p.autoFixable) else none) =
      if q.method = some byTemplate then some (Json.bool q.autoFixable) else none) :
    p.autoFixable = q.autoFixable := by
  by_cases htemplate : q.method = some byTemplate
  · rw [hmethod, if_pos htemplate, if_pos htemplate] at h
    exact Json.bool.inj (Option.some.inj h)
  · rw [hp (hmethod ▸ htemplate), hq htemplate]

theorem eq_of_options_eq (hp : p.Marked) (hq : q.Marked) (h : p.options = q.options) : p = q := by
  simp only [options, List.cons.injEq, Prod.mk.injEq, true_and, and_true, Option.some.injEq,
    Json.bool.injEq, Json.num.injEq] at h
  obtain ⟨hsuccess, hfixType, hconfidence, hmethod, hautoFixable, hfix, hdescription, hexplanation,
    hreason, hrawResponse, hsuggestion, hedits, hwarnings, hhints, hprovenance⟩ := h
  rw [hsuccess] at hedits
  have hmethod := map_str_injective hmethod
  have hautoFixable := autoFixable_eq hp hq hmethod hautoFixable
  cases p
  cases q
  simp only [mk.injEq]
  exact ⟨hsuccess, nullable_injective hfixType, hmethod, map_str_injective hfix,
    map_str_injective hdescription, map_str_injective hexplanation,
    listed_injective Edit.toJson_injective _ hedits,
    listed_injective (fun _ _ => Json.str.inj) _ hwarnings, hconfidence, hautoFixable,
    map_str_injective hreason, map_str_injective hrawResponse, map_str_injective hsuggestion,
    listed_injective Hint.toJson_injective _ hhints,
    Option.map_injective Provenance.toJson_injective hprovenance⟩

theorem eq_of_toJson_eq (hp : p.Marked) (hq : q.Marked) (h : p.toJson = q.toJson) : p = q := by
  have hfields : p.toFields = q.toFields := Json.obj.inj h
  rw [toFields_eq, toFields_eq] at hfields
  have hnodup : (p.options.map Prod.fst).Nodup := by
    simp [options]
  have hnames : p.options.map Prod.fst = q.options.map Prod.fst := rfl
  exact eq_of_options_eq hp hq (Fields.eq_of_ofOptions_eq hnodup hnames hfields)

/-- Reports that are not marked do not show whether repairs need a review. -/
example : ∃ p q : Report, p.toJson = q.toJson ∧ p ≠ q :=
  ⟨{ success := true }, { success := true, autoFixable := true }, rfl, by decide⟩

end Report

namespace Workshop

variable {r : Request} {p q report : Report}

theorem marked_withHints (h : report.Marked) : (withHints r report).Marked := by
  unfold withHints
  split
  · exact h
  · exact h

theorem marked_attemptReport {S : Type} (t : Template S) (a : Except Strategy.Fault Attempt) :
    (attemptReport t a).Marked := by
  intro h
  cases a with
  | error f => exact absurd rfl h
  | ok attempt => cases attempt <;> exact absurd rfl h

theorem marked_draft {S : Type} [Repairer S] (w : Workshop S) (tree : FileTree) (r : Request) :
    (w.draft tree r).Marked := by
  cases hclassify : w.catalog.classify r.diagnostic with
  | none =>
    rw [draft_of_classify_eq_none hclassify]
    exact fun _ => rfl
  | some t =>
    rw [draft_of_classify hclassify]
    exact marked_attemptReport t _

theorem marked_proposal (p : Proposal) : p.report.Marked := by
  intro h
  cases p with
  | repaired fix explanation confidence edits warnings provenance => rfl
  | failed reason reply => rfl

variable {S : Type} [Repairer S] {σ : Type} {assistant : Option (Assistant σ)} {c : Catalog S}

theorem Origin.marked (h : Origin assistant c r report) : report.Marked := by
  cases h with
  | template w hw tree => exact marked_withHints (marked_draft w tree r)
  | model a ha now result p h => exact marked_withHints (marked_proposal p)

/-- The reports that are returned: to requests one by one, to several together, in sessions, and of
templates whatever their strategies come to. -/
inductive Returned : Report → Prop
  | template {S : Type} (r : Request) (t : Template S) (a : Except Strategy.Fault Attempt) :
    Returned (withHints r (attemptReport t a))
  | byTemplate {S : Type} [Repairer S] (w : Workshop S) (now : String) (tree : FileTree)
      (r : Request) : Returned (w.byTemplate now tree r).1
  | answer {S : Type} [Repairer S] {σ : Type} (assistant : Option (Assistant σ)) (w : Workshop S)
      (now : String) (tree : FileTree) (r : Request) (s : σ) (report : Report)
      (h : (w.answer assistant now tree r s).1.answer = .ok report) : Returned report
  | answerAll {S : Type} [Repairer S] {σ : Type} (assistant : Option (Assistant σ))
      (w : Workshop S) (now : String) (tree : FileTree) (rs : List Request) (s : σ)
      (reports : List Report)
      (h : (w.answerAll assistant now tree rs s).1.answer = .ok reports) (a : Request × Report)
      (ha : a ∈ rs.zip reports) : Returned a.2
  | session {S : Type} [Repairer S] {σ : Type} (assistant : Option (Assistant σ)) (c : Catalog S)
      (s : σ) (events : List Event) (st : Session σ S)
      (h : Session.Run assistant (Session.fresh c s) events st) (as : List (Request × Report))
      (has : .returned as ∈ events) (a : Request × Report) (ha : a ∈ as) : Returned a.2

theorem Returned.marked (h : Returned report) : report.Marked := by
  cases h with
  | template r t a => exact marked_withHints (marked_attemptReport t a)
  | byTemplate w now tree r =>
    have horigin : Origin (none : Option (Assistant Unit)) w.catalog r _ :=
      origin_byTemplate w now tree r
    exact horigin.marked
  | answer assistant w now tree r s report h => exact (origin_answer h).marked
  | answerAll assistant w now tree rs s reports h a ha => exact (originate_answerAll h a ha).marked
  | session assistant c s events st h as has a ha =>
    exact ((h.originate originate_nil).1 (.returned as) has a ha).marked

/-- Writing a report loses nothing: two reports that are returned and look the same are the same,
whatever workshops, models and requests they come from. -/
theorem eq_of_returned_of_toJson_eq (hp : Returned p) (hq : Returned q) (h : p.toJson = q.toJson) :
    p = q :=
  Report.eq_of_toJson_eq hp.marked hq.marked h

theorem eq_of_returned_of_toJson_eq_missed :
    let r : Request := ⟨⟨.other "lint", some "odd", "a.js", 1, .low, 1, ""⟩, "x", none⟩
    let elsewhere : Request := ⟨⟨.other "lint", some "odd", "b.js", 2, .low, 1, ""⟩, "y", none⟩
    let w := ofCatalog .builtin
    let p := (w.byTemplate "noon" .empty r).1
    ∃ q, (w.answer (none : Option (Assistant Unit)) "night" .empty elsewhere ()).1.answer = .ok q ∧
      Returned p ∧ Returned q ∧ p.toJson = q.toJson ∧ p = q := by
  intro r elsewhere w p
  have hp : Returned p := .byTemplate w "noon" .empty r
  have hq : Returned (w.byTemplate "night" .empty elsewhere).1 :=
    .answer (none : Option (Assistant Unit)) w "night" .empty elsewhere () _ rfl
  exact ⟨_, rfl, hp, hq, rfl, eq_of_returned_of_toJson_eq hp hq rfl⟩

end Workshop

end Mend
