import Mend.Edit
import Mend.Text.Lines

namespace Mend.Edit

def put? (column : Int) (text line : Line) : Option Line :=
  if 0 ≤ column ∧ column ≤ line.length then
    some (line.take column.toNat ++ text ++ line.drop column.toNat)
  else none

def cut? (column : Int) (text line : Line) : Option Line :=
  if 0 ≤ column ∧ text <+: line.drop column.toNat then
    some (line.take column.toNat ++ line.drop (column.toNat + text.length))
  else none

def commented (line : Line) : Line :=
  line.takeWhile Text.isBlank ++ "// ".toList ++ line.dropWhile Text.isBlank

def amend? (n : Int) (f : Line → Option Line) (ls : List Line) : Option (List Line) :=
  (Lines.index? n ls).bind fun i => (f (ls.getD i [])).map (ls.set i)

def remove? (first last : Int) (ls : List Line) : Option (List Line) :=
  if 1 ≤ first ∧ first ≤ last ∧ last ≤ ls.length then
    some (ls.take (first - 1).toNat ++ ls.drop last.toNat)
  else none

/-- A new line before the one named, or behind the last one. -/
def insert? (n : Int) (new : Line) (ls : List Line) : Option (List Line) :=
  if 1 ≤ n ∧ n ≤ ls.length + 1 then
    some (ls.take (n - 1).toNat ++ new :: ls.drop (n - 1).toNat)
  else none

theorem put?_length (text line : Line) :
    put? line.length text line = some (line ++ text) := by
  simp [put?]

theorem cut?_append (a b c : Line) : cut? a.length b (a ++ b ++ c) = some (a ++ c) := by
  simp [cut?, List.append_assoc]

section
variable {before after gone : List Line} {line new : Line} {n : Int}

theorem index?_append (h : n = before.length + 1) :
    Lines.index? n (before ++ line :: after) = some before.length := by
  have hspan : 1 ≤ n ∧ n ≤ ((before ++ line :: after).length : Int) := by
    simp only [List.length_append, List.length_cons]
    omega
  have hplace : (n - 1).toNat = before.length := by omega
  rw [Lines.index?, if_pos hspan, hplace]

theorem amend?_append {f : Line → Option Line} (h : n = before.length + 1)
    (hf : f line = some new) :
    amend? n f (before ++ line :: after) = some (before ++ new :: after) := by
  simp [amend?, index?_append h, hf]

theorem remove?_append {first last : Int} (hfirst : first = before.length + 1)
    (hlast : last = before.length + gone.length) (h : gone ≠ []) :
    remove? first last (before ++ gone ++ after) = some (before ++ after) := by
  have hpos : 0 < gone.length := List.length_pos_iff.2 h
  have htake : (first - 1).toNat = before.length := by omega
  have hdrop : last.toNat = (before ++ gone).length := by
    rw [List.length_append]
    omega
  have hspan : 1 ≤ first ∧ first ≤ last ∧ last ≤ ((before ++ gone ++ after).length : Int) := by
    simp only [List.length_append]
    omega
  rw [remove?, if_pos hspan, htake, hdrop, List.append_assoc, List.take_left', ← List.append_assoc,
    List.drop_left']
  · rfl
  · rfl

theorem insert?_append (h : n = before.length + 1) :
    insert? n new (before ++ after) = some (before ++ new :: after) := by
  have htake : (n - 1).toNat = before.length := by omega
  have hspan : 1 ≤ n ∧ n ≤ ((before ++ after).length : Int) + 1 := by
    simp only [List.length_append]
    omega
  rw [insert?, if_pos hspan, htake, List.take_left, List.drop_left]

end

theorem split_of_index? {n : Int} {ls : List Line} {i : Nat} (h : Lines.index? n ls = some i) :
    ∃ before after, ls = before ++ ls.getD i [] :: after ∧ before.length = i ∧ n = i + 1 := by
  unfold Lines.index? at h
  split at h
  · rename_i hn
    cases h
    have hi : (n - 1).toNat < ls.length := by omega
    have hl : ls.getD (n - 1).toNat [] = ls[(n - 1).toNat] := by
      rw [List.getD_eq_getElem?_getD, List.getElem?_eq_getElem hi, Option.getD_some]
    refine ⟨ls.take (n - 1).toNat, ls.drop ((n - 1).toNat + 1), ?_, ?_, by omega⟩
    · rw [hl, ← List.drop_eq_getElem_cons hi, List.take_append_drop]
    · rw [List.length_take]
      omega
  · cases h

def covers (e : Edit) (n : Nat) : Bool :=
  match e.span? with
  | some (first, last) => first ≤ n && n ≤ last
  | none => false

/-- The lines that no span holds, the first of them being counted as `n`. -/
def untouched (es : List Edit) (n : Nat) : List Line → List Line
  | [] => []
  | l :: ls =>
    if es.any (covers · n) then untouched es (n + 1) ls else l :: untouched es (n + 1) ls

theorem untouched_sublist (es : List Edit) (n : Nat) (ls : List Line) :
    (untouched es n ls).Sublist ls := by
  induction ls generalizing n with
  | nil => exact .slnil
  | cons l ls ih =>
    unfold untouched
    split
    · exact (ih (n + 1)).cons l
    · exact (ih (n + 1)).cons_cons l

theorem untouched_append (es : List Edit) (n : Nat) (ls ms : List Line) :
    untouched es n (ls ++ ms) = untouched es n ls ++ untouched es (n + ls.length) ms := by
  induction ls generalizing n with
  | nil => rfl
  | cons l ls ih =>
    have hn : n + (l :: ls).length = n + 1 + ls.length := by
      simp only [List.length_cons]
      omega
    rw [hn]
    simp only [List.cons_append, untouched, ih]
    split <;> rfl

theorem untouched_eq_nil {es : List Edit} {n : Nat} {ls : List Line}
    (h : ∀ k, n ≤ k → k < n + ls.length → es.any (covers · k) = true) : untouched es n ls = [] := by
  induction ls generalizing n with
  | nil => rfl
  | cons l ls ih =>
    simp only [List.length_cons] at h
    rw [untouched, if_pos (h n (by omega) (by omega))]
    apply ih
    intro k hn hk
    exact h k (by omega) (by omega)

theorem untouched_of_span {e : Edit} {before gone after : List Line}
    (h : e.span? = some ((before.length : Int) + 1, (before.length : Int) + gone.length)) :
    (untouched [e] 1 (before ++ gone ++ after)).Sublist (before ++ after) := by
  have hgone : untouched [e] (1 + before.length) gone = [] := by
    apply untouched_eq_nil
    intro k hn hk
    simp only [List.any_cons, List.any_nil, Bool.or_false, covers, h, Bool.and_eq_true,
      decide_eq_true_eq]
    omega
  rw [untouched_append, untouched_append, hgone, List.append_nil]
  exact (untouched_sublist _ _ _).append (untouched_sublist _ _ _)

end Mend.Edit
