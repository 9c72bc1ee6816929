import Mend.Proofs.Catalog.Contents
import Mend.Proofs.Model.Outcome
import Mend.Proofs.Strategy.Faithful
import Mend.Proofs.Workshop.Origin

namespace Mend

structure Number.IsShare (n : Number) : Prop where
  low : Number.le 0 n = true
  high : Number.le n 1 = true

namespace Hint

end Hint

namespace Proposal

variable {now : String} {d : Diagnostic} {c : Completion} {p : Proposal}

structure Sound (p : Proposal) : Prop where
  confidence : p.confidence.IsShare
  reason : ∀ text, p.reason? = some text → text ≠ ""

end Proposal

namespace Catalog

variable {c : Catalog} {t b : Template} {ts : List Template}

/-- The catalogs that there are: the built-in one, and those that are made step by step. -/
inductive Registered : Catalog → Prop
  | builtin : Registered builtin
  | performed (steps : List Step) : Registered (empty.performAll steps).2

theorem Registered.graded (h : Registered c) : ∀ t ∈ c.list, t.confidence.IsShare := by
  cases h with
  | builtin =>
    have hall : Catalog.builtin.list.all (fun t => Number.le 0 t.confidence && Number.le t.confidence 1) =
        true := by
      decide +kernel
    intro t ht
    have hshare := List.all_eq_true.1 hall t ht
    rw [Bool.and_eq_true] at hshare
    exact ⟨hshare.1, hshare.2⟩
  | performed steps =>
    have hholds := holds_performAll steps
    intro t ht
    have hshare := hholds.graded t (hholds.list_perm.mem_iff.1 ht)
    exact ⟨hshare.1, hshare.2⟩

theorem mem_of_strongest {best : Option Template} (h : strongest best ts = some t) :
    t ∈ best.toList ++ ts := by
  induction ts generalizing best with
  | nil =>
    rw [List.append_nil, Option.mem_toList]
    exact h
  | cons u ts ih =>
    cases best with
    | none => exact ih h
    | some b =>
      have hmem := ih h
      rw [Option.toList_some, List.singleton_append, List.mem_cons] at hmem ⊢
      rw [List.mem_cons]
      split at hmem
      · exact .inr hmem
      · exact hmem.imp_right .inr

theorem mem_list_of_mem_bucket {k : Category} (h : t ∈ c.bucket k) : t ∈ c.list := by
  unfold bucket at h
  cases hlookup : c.buckets.lookup k with
  | none =>
    rw [hlookup] at h
    cases h
  | some ts =>
    rw [hlookup] at h
    obtain ⟨before, after, hbuckets, -⟩ := List.lookup_eq_some_iff.1 hlookup
    refine List.mem_flatMap.2 ⟨(k, ts), ?_, h⟩
    rw [hbuckets]
    exact List.mem_append_right before List.mem_cons_self

end Catalog

namespace Report

/-- The report shows the template that the catalog selects for the diagnostic. -/
def Shows (c : Catalog) (d : Diagnostic) (report : Report) : Prop :=
  ∃ t, c.classify d = some t ∧ report.fixType = some t.name ∧ report.confidence = t.confidence ∧
    report.autoFixable = t.autoFixable

end Report

namespace Workshop

variable {c : Catalog} {t : Template} {r : Request} {text : String}

variable {σ : Type} {assistant : Option (Assistant σ)} {report : Report}

end Workshop

end Mend
