import Mend.Proofs.Edit.Replay
import Mend.Strategy.Basic

/-! Repairs redone from their records. The records of a repair are `Faithful` when they tell of
separate places, from the top down, and redoing them turns the old lines into the new ones. -/

namespace Mend.Strategy

/-- The lines after the edit that a strategy has recorded. An insertion is a line of its own where
braces are balanced, and text within a line elsewhere; a modification without new code is a line
commented out. -/
def redo? (s : Strategy) (e : Edit) (ls : List Line) : Option (List Line) := do
  let (first, last) ← e.span?
  match e.kind with
  | .delete => Edit.remove? first last ls
  | .insert =>
    let text ← e.text
    match s with
    | brackets => Edit.insert? first text.toList ls
    | _ => Edit.amend? first (Edit.put? (← e.column) text.toList) ls
  | .cleanup => Edit.amend? first (Edit.cut? (← e.column) (← e.text).toList) ls
  | .modify =>
    match e.newCode with
    | some new => Edit.amend? first (fun _ => some new.toList) ls
    | none => Edit.amend? first (fun l => some (Edit.commented l)) ls
  | .replace => none

/-- The lines after all edits. The last one is redone first, so that every record still finds the
lines where it names them. -/
def replay? (s : Strategy) : List Edit → List Line → Option (List Line)
  | [], ls => some ls
  | e :: es, ls => (replay? s es ls).bind (s.redo? e)

structure Faithful (s : Strategy) (es : List Edit) (old new : List Line) : Prop where
  nonempty : es ≠ []
  increasing : es.Pairwise fun a b => ∃ i j, a.line = some i ∧ b.line = some j ∧ i < j
  disjoint : es.Pairwise fun a b => ∃ p q, a.span? = some p ∧ b.span? = some q ∧ p.2 < q.1
  /-- Only a closing brace may stand behind the last line. -/
  within : ∀ e ∈ es, ∃ first last, e.span? = some (first, last) ∧ 1 ≤ first ∧ first ≤ last ∧
    (last ≤ old.length ∨
      s = brackets ∧ e = Brackets.insertion (old.length + 1) Brackets.closingLine)
  replay : s.replay? es old = some new
  untouched : (Edit.untouched es 1 old).Sublist new

section
variable {s : Strategy} {e : Edit} {before gone after : List Line} {old new : Line}

theorem Faithful.of_single {old new : List Line} {first last : Int}
    (hspan : e.span? = some (first, last)) (hfirst : 1 ≤ first) (hlast : first ≤ last)
    (hwithin : last ≤ old.length ∨
      s = brackets ∧ e = Brackets.insertion (old.length + 1) Brackets.closingLine)
    (hredo : s.redo? e old = some new) (huntouched : (Edit.untouched [e] 1 old).Sublist new) :
    Faithful s [e] old new where
  nonempty := by simp
  increasing := List.pairwise_singleton _ _
  disjoint := List.pairwise_singleton _ _
  within := by
    intro a ha
    rw [List.mem_singleton.1 ha]
    exact ⟨first, last, hspan, hfirst, hlast, hwithin⟩
  replay := hredo
  untouched := huntouched

theorem Faithful.of_amend (hspan : e.span? = some ((before.length : Int) + 1, (before.length : Int) + 1))
    (h : s.redo? e (before ++ old :: after) = some (before ++ new :: after)) :
    Faithful s [e] (before ++ old :: after) (before ++ new :: after) := by
  have hsub : (Edit.untouched [e] 1 (before ++ [old] ++ after)).Sublist (before ++ after) :=
    Edit.untouched_of_span hspan
  rw [List.append_assoc, List.singleton_append] at hsub
  refine .of_single hspan (by omega) (Int.le_refl _) (.inl ?_) h ?_
  · simp only [List.length_append, List.length_cons]
    omega
  · exact hsub.trans ((List.Sublist.refl before).append (List.sublist_cons_self new after))

theorem Faithful.of_remove (hgone : gone ≠ [])
    (hspan : e.span? = some ((before.length : Int) + 1, (before.length : Int) + gone.length))
    (h : s.redo? e (before ++ gone ++ after) = some (before ++ after)) :
    Faithful s [e] (before ++ gone ++ after) (before ++ after) := by
  have hpos : 0 < gone.length := List.length_pos_iff.2 hgone
  refine .of_single hspan (by omega) (by omega) (.inl ?_) h (Edit.untouched_of_span hspan)
  simp only [List.length_append]
  omega

theorem Faithful.of_insert (hspan : e.span? = some ((before.length : Int) + 1, (before.length : Int) + 1))
    (hafter : after ≠ [] ∨
      s = brackets ∧ e = Brackets.insertion (before.length + 1) Brackets.closingLine)
    (h : s.redo? e (before ++ after) = some (before ++ new :: after)) :
    Faithful s [e] (before ++ after) (before ++ new :: after) := by
  have hsub : (before ++ after).Sublist (before ++ new :: after) :=
    (List.Sublist.refl before).append (List.sublist_cons_self new after)
  refine .of_single hspan (by omega) (Int.le_refl _) ?_ h ((Edit.untouched_sublist _ _ _).trans hsub)
  cases after with
  | nil =>
    cases hafter with
    | inl hne => exact absurd rfl hne
    | inr hclose =>
      right
      rw [List.append_nil]
      exact hclose
  | cons l ls =>
    left
    simp only [List.length_append, List.length_cons]
    omega

end

def lineEdits (edit? : Nat → Line → Option Edit) (i : Nat) : List Line → List Edit
  | [] => []
  | l :: ls => (edit? i l).toList ++ lineEdits edit? (i + 1) ls

section
variable {s : Strategy} {edit? : Nat → Line → Option Edit} {f : Line → Line}

theorem mem_lineEdits {i : Nat} {ls : List Line} {e : Edit} (h : e ∈ lineEdits edit? i ls) :
    ∃ j, ∃ l ∈ ls, edit? j l = some e ∧ i ≤ j ∧ j < i + ls.length := by
  induction ls generalizing i with
  | nil => cases h
  | cons l ls ih =>
    simp only [List.length_cons]
    rcases List.mem_append.1 h with h | h
    · exact ⟨i, l, List.mem_cons_self, Option.mem_toList.1 h, Nat.le_refl _, by omega⟩
    · obtain ⟨j, m, hm, he, hi, hj⟩ := ih h
      exact ⟨j, m, List.mem_cons_of_mem l hm, he, by omega, by omega⟩

theorem pairwise_lineEdits
    (hspan : ∀ i l e, edit? i l = some e → e.line = some ((i : Int) + 1) ∧ e.endLine = none)
    (i : Nat) (ls : List Line) :
    (lineEdits edit? i ls).Pairwise fun a b =>
      ∃ m n : Int, a.line = some m ∧ b.line = some n ∧ m < n ∧
        a.span? = some (m, m) ∧ b.span? = some (n, n) := by
  induction ls generalizing i with
  | nil => exact .nil
  | cons l ls ih =>
    unfold lineEdits
    cases hl : edit? i l with
    | none => exact ih (i + 1)
    | some e =>
      refine List.Pairwise.cons ?_ (ih (i + 1))
      intro b hb
      obtain ⟨j, m, -, hj, hi, -⟩ := mem_lineEdits hb
      obtain ⟨he, heEnd⟩ := hspan i l e hl
      obtain ⟨hb, hbEnd⟩ := hspan j m b hj
      refine ⟨i + 1, j + 1, he, hb, by omega, ?_, ?_⟩
      · simp [Edit.span?, he, heEnd]
      · simp [Edit.span?, hb, hbEnd]

theorem replay?_lineEdits (hnone : ∀ i l, edit? i l = none → f l = l)
    (hsome : ∀ l e (before after : List Line), edit? before.length l = some e →
      s.redo? e (before ++ l :: after) = some (before ++ f l :: after))
    (before ls : List Line) :
    s.replay? (lineEdits edit? before.length ls) (before ++ ls) = some (before ++ ls.map f) := by
  -- the lines below are changed first, so that `l` still stands behind the unchanged `before`
  induction ls generalizing before with
  | nil => simp [lineEdits, replay?]
  | cons l ls ih =>
    have hrest := ih (before ++ [l])
    rw [List.length_append, List.length_singleton, List.append_assoc, List.append_assoc] at hrest
    unfold lineEdits
    cases hl : edit? before.length l with
    | none => simpa [hnone _ l hl] using hrest
    | some e =>
      simp only [Option.toList, List.singleton_append, replay?, List.map_cons]
      rw [show before ++ l :: ls = before ++ ([l] ++ ls) from rfl, hrest]
      exact hsome l e before (ls.map f) hl

theorem untouched_lineEdits (hnone : ∀ i l, edit? i l = none → f l = l)
    (hspan : ∀ i l e, edit? i l = some e → e.line = some ((i : Int) + 1) ∧ e.endLine = none)
    {es : List Edit} (i : Nat) (ls : List Line) (h : ∀ e ∈ lineEdits edit? i ls, e ∈ es) :
    (Edit.untouched es (i + 1) ls).Sublist (ls.map f) := by
  induction ls generalizing i with
  | nil => exact .slnil
  | cons l ls ih =>
    have hrest := ih (i + 1) fun e he => h e (List.mem_append_right _ he)
    unfold Edit.untouched
    split
    · exact hrest.cons _
    · rename_i hfree
      cases hl : edit? i l with
      | none =>
        rw [List.map_cons, hnone i l hl]
        exact hrest.cons_cons l
      | some e =>
        exfalso
        apply hfree
        obtain ⟨he, heEnd⟩ := hspan i l e hl
        have hmem : e ∈ es := h e (List.mem_append_left _ (by simp [hl]))
        refine List.any_eq_true.2 ⟨e, hmem, ?_⟩
        simp [Edit.covers, Edit.span?, he, heEnd]

theorem Faithful.of_lineEdits (hnone : ∀ i l, edit? i l = none → f l = l)
    (hspan : ∀ i l e, edit? i l = some e → e.line = some ((i : Int) + 1) ∧ e.endLine = none)
    (hsome : ∀ l e (before after : List Line), edit? before.length l = some e →
      s.redo? e (before ++ l :: after) = some (before ++ f l :: after))
    {ls : List Line} (hne : lineEdits edit? 0 ls ≠ []) :
    Faithful s (lineEdits edit? 0 ls) ls (ls.map f) where
  nonempty := hne
  increasing := by
    apply (pairwise_lineEdits hspan 0 ls).imp
    intro a b h
    obtain ⟨m, n, ha, hb, hmn, -, -⟩ := h
    exact ⟨m, n, ha, hb, hmn⟩
  disjoint := by
    apply (pairwise_lineEdits hspan 0 ls).imp
    intro a b h
    obtain ⟨m, n, -, -, hmn, ha, hb⟩ := h
    exact ⟨_, _, ha, hb, hmn⟩
  within := by
    intro e he
    obtain ⟨j, l, -, hl, -, hj⟩ := mem_lineEdits he
    obtain ⟨hline, hend⟩ := hspan j l e hl
    refine ⟨j + 1, j + 1, ?_, by omega, Int.le_refl _, .inl (by omega)⟩
    simp [Edit.span?, hline, hend]
  replay := replay?_lineEdits hnone hsome [] ls
  untouched := untouched_lineEdits hnone hspan 0 ls fun _ he => he

end

end Mend.Strategy
