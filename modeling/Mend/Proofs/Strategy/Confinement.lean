import Mend.Proofs.Strategy.Removal

namespace Mend

namespace Edit

/-- Lines that are touched only where spans hold them, the first of them being counted as `n`. A
span may also hold the place behind the last line. -/
inductive Confined {α : Type} (es : List Edit) : Nat → List α → List α → Prop
  | done (n : Nat) : Confined es n [] []
  | added {n : Nat} (new : List α) (h : es.any (covers · n) = true) : Confined es n [] new
  | same {n : Nat} (l : α) {old new : List α} (t : Confined es (n + 1) old new) :
    Confined es n (l :: old) (l :: new)
  | changed {n : Nat} (l : α) (ls : List α) {old new : List α}
    (h : es.any (covers · n) = true) (t : Confined es (n + 1) old new) :
    Confined es n (l :: old) (ls ++ new)

namespace Confined

section
variable {α β : Type} {es : List Edit} {n : Nat} {old new : List α}

theorem refl (es : List Edit) (n : Nat) (old : List α) : Confined es n old old := by
  induction old generalizing n with
  | nil => exact .done n
  | cons l old ih => exact .same l (ih (n + 1))

theorem append_left (before : List α) (h : Confined es (n + before.length) old new) :
    Confined es n (before ++ old) (before ++ new) := by
  induction before generalizing n with
  | nil => exact h
  | cons l before ih =>
    apply Confined.same l (ih _)
    rwa [List.length_cons, Nat.add_comm before.length, ← Nat.add_assoc] at h

theorem map (f : α → β) (h : Confined es n old new) : Confined es n (old.map f) (new.map f) := by
  induction h with
  | done n => exact .done n
  | added new h => exact .added (new.map f) h
  | same l t ih => exact .same (f l) ih
  | changed l ls h t ih =>
    rw [List.map_append]
    exact .changed (f l) (ls.map f) h ih

theorem of_covered {gone after : List α}
    (h : ∀ k, n ≤ k → k < n + gone.length → es.any (covers · k) = true) :
    Confined es n (gone ++ after) after := by
  induction gone generalizing n with
  | nil => exact refl es n after
  | cons l gone ih =>
    simp only [List.length_cons] at h
    have hrest : Confined es (n + 1) (gone ++ after) after :=
      ih fun k hn hk => h k (by omega) (by omega)
    exact .changed l [] (h n (Nat.le_refl n) (by omega)) hrest

theorem of_span {e : Edit} {before gone after : List α} (new : List α)
    (hspan : e.span? = some ((before.length : Int) + 1, (before.length : Int) + gone.length))
    (hgone : gone ≠ []) : Confined [e] 1 (before ++ gone ++ after) (before ++ new ++ after) := by
  have hcovers {k : Nat} (hfirst : before.length + 1 ≤ k) (hlast : k ≤ before.length + gone.length) :
      [e].any (covers · k) = true := by
    simp only [List.any_cons, List.any_nil, Bool.or_false, covers, hspan, Bool.and_eq_true,
      decide_eq_true_eq]
    omega
  rw [List.append_assoc, List.append_assoc]
  apply append_left
  cases gone with
  | nil => exact absurd rfl hgone
  | cons l gone =>
    rw [List.length_cons] at hcovers
    refine .changed l new (hcovers (by omega) (by omega)) (of_covered fun k hn hk => ?_)
    exact hcovers (by omega) (by omega)

theorem of_nil (h : Confined es n old []) (hold : old ≠ []) (new : List α) :
    Confined es n old new := by
  generalize hnil : [] = ms at h
  cases h with
  | done n => exact absurd rfl hold
  | added _ h => exact absurd rfl hold
  | same l t => cases hnil
  | changed l ls hcovers t =>
    obtain ⟨rfl, rfl⟩ := List.append_eq_nil_iff.1 hnil.symm
    rw [← List.append_nil new]
    exact .changed l new hcovers t

end

theorem flatMap_split {es : List Edit} {n : Nat} {old new : List Line} (h : Confined es n old new)
    (hfree : ∀ l ∈ old, '\n' ∉ l) : Confined es n old (new.flatMap (Lines.split '\n')) := by
  induction h with
  | done n => exact .done n
  | added new h => exact .added _ h
  | same l t ih =>
    rw [List.forall_mem_cons] at hfree
    rw [List.flatMap_cons, Lines.split_eq_singleton hfree.1]
    exact .same l (ih hfree.2)
  | changed l ls h t ih =>
    rw [List.forall_mem_cons] at hfree
    rw [List.flatMap_append]
    exact .changed l _ h (ih hfree.2)

theorem ofText_toText {es : List Edit} {content : String} {lines : List Line}
    (h : Confined es 1 (Lines.ofText content) lines) :
    Confined es 1 (Lines.ofText content) (Lines.ofText (Lines.toText lines)) := by
  by_cases hlines : lines = []
  -- no lines at all are joined to one empty line
  · subst hlines
    exact h.of_nil (Lines.ofText_ne_nil content) _
  · rw [Lines.ofText_toText_eq_flatMap hlines]
    exact h.flatMap_split fun l hl => Lines.newline_not_mem hl

end Confined

end Edit

namespace Strategy

open Edit (Confined)

variable {tree : FileTree} {d : Diagnostic} {context : Option Context}
  {content text summary : String} {es : List Edit}

theorem Removes.confined (h : Removes content text es) :
    Confined es 1 (Lines.ofText content) (Lines.ofText text) := by
  obtain ⟨before, gone, after, e, hls, hgone, -, rfl, rfl, hspan⟩ := h
  apply Confined.ofText_toText
  rw [hls]
  have h : Confined [e] 1 (before ++ gone ++ after) (before ++ [] ++ after) :=
    .of_span [] hspan hgone
  rwa [List.append_nil] at h

theorem confined_of_amend {before after : List Line} {line : Line} {e : Edit} (new : Line)
    (hls : Lines.ofText content = before ++ line :: after)
    (hspan : e.span? = some ((before.length : Int) + 1, (before.length : Int) + 1)) :
    Confined [e] 1 (Lines.ofText content)
      (Lines.ofText (Lines.toText (before ++ new :: after))) := by
  apply Confined.ofText_toText
  have h : Confined [e] 1 (before ++ [line] ++ after) (before ++ [new] ++ after) :=
    .of_span [new] hspan (List.cons_ne_nil line [])
  simpa [hls] using h

theorem Brackets.confined (h : Brackets.attempt content = .fixed text summary es) :
    Confined es 1 (Lines.ofText content) (Lines.ofText text) := by
  have hspan (before : List Line) (new : Line) : (insertion (before.length + 1) new).span? =
      some ((before.length : Int) + 1, (before.length : Int) + 1) := rfl
  obtain ⟨before, line, after, hls, -, rfl, rfl⟩ | ⟨before, after, hls, hafter, -, -, rfl, rfl⟩ :=
    of_attempt h
  · apply Confined.ofText_toText
    have h : Confined [insertion (before.length + 1) openingLine] 1 (before ++ [line] ++ after)
        (before ++ [openingLine, line] ++ after) :=
      .of_span [openingLine, line] (hspan before openingLine) (List.cons_ne_nil line [])
    simpa [hls] using h
  · apply Confined.ofText_toText
    rw [hls]
    obtain rfl | rfl := hafter
    -- the span holds no line then, only the place behind the last one
    · apply Confined.append_left
      apply Confined.added
      simp [Edit.covers, hspan, Nat.add_comm]
    · have h : Confined [insertion (before.length + 1) closingLine] 1 (before ++ [[]] ++ [])
          (before ++ [closingLine, []] ++ []) :=
        .of_span [closingLine, []] (hspan before closingLine) (List.cons_ne_nil [] [])
      simpa using h

theorem confined_lineEdits {edit? : Nat → Line → Option Edit} {f : Line → Line}
    (hnone : ∀ i l, edit? i l = none → f l = l)
    (hspan : ∀ i l e, edit? i l = some e → e.line = some ((i : Int) + 1) ∧ e.endLine = none)
    {i : Nat} {ls : List Line} (hes : ∀ e ∈ lineEdits edit? i ls, e ∈ es) :
    Confined es (i + 1) ls (ls.map f) := by
  induction ls generalizing i with
  | nil => exact .done _
  | cons l ls ih =>
    have hrest : Confined es (i + 1 + 1) ls (ls.map f) :=
      ih fun e he => hes e (List.mem_append_right _ he)
    cases hl : edit? i l with
    | none =>
      rw [List.map_cons, hnone i l hl]
      exact .same l hrest
    | some e =>
      have hmem : e ∈ es := hes e (List.mem_append_left _ (by rw [hl]; exact List.mem_singleton_self e))
      obtain ⟨hline, hend⟩ := hspan i l e hl
      have hcovers : Edit.covers e (i + 1) = true := by
        simp [Edit.covers, Edit.span?, hline, hend]
      exact .changed l [f l] (List.any_eq_true.2 ⟨e, hmem, hcovers⟩) hrest

theorem attempt_confined {s : Strategy}
    (h : s.attempt tree d content context = .ok (.fixed text summary es)) :
    Confined es 1 (Lines.ofText content) (Lines.ofText text) := by
  cases s with
  | terminator mark =>
    obtain ⟨before, line, after, hls, hline, -, rfl, rfl⟩ := Terminator.of_attempt (Except.ok.inj h)
    exact confined_of_amend _ hls (by simp [Edit.span?, hline])
  | brackets => exact Brackets.confined (Except.ok.inj h)
  | unexpectedToken => cases h
  | trailingBlanks =>
    obtain ⟨rfl, hes, -⟩ := Blanks.of_attempt (Except.ok.inj h)
    apply Confined.ofText_toText
    rw [hes, Blanks.editsFrom_eq]
    exact confined_lineEdits (i := 0) (fun _ _ => Blanks.clean_eq_of_edit?_eq_none)
      (fun _ _ _ => Blanks.edit?_span) fun _ he => he
  | console =>
    obtain ⟨before, line, after, hls, hline, -, rfl, rfl⟩ :=
      Statement.of_consoleAttempt (Except.ok.inj h)
    exact confined_of_amend _ hls (by simp [Edit.span?, hline])
  | debugger => exact (removes_of_attempt rfl h).confined
  | unusedVariable window => exact (removes_of_attempt rfl h).confined
  | unusedImport => exact (removes_of_attempt rfl h).confined
  | unreachable => exact (removes_of_attempt rfl h).confined
  | extension extensions =>
    obtain ⟨module, ext, pieces, -, -, -, -, -, rfl, hes, -⟩ := Extension.of_attempt h
    apply Confined.ofText_toText
    rw [hes, Extension.editsFrom_eq]
    refine confined_lineEdits (i := 0) (fun _ _ => Extension.renameLine_eq_of_edit?_eq_none) ?_
      fun _ he => he
    intro i l e he
    obtain ⟨-, -, hline, hend, -⟩ := Extension.of_edit?_eq_some he
    exact ⟨hline, hend⟩
  | missingName => exact absurd (Except.ok.inj h) MissingName.attempt_ne_fixed
  | decline reason => cases h
  | broken fault => cases h

end Strategy

end Mend
