/-!
Text as lines. Lines are separated by a newline and by nothing else, so a carriage return stays at
the end of its line and a final newline leaves an empty last line; joining gives the text back.
-/

namespace Mend

abbrev Line := List Char

namespace Lines

def split (sep : Char) : List Char → List Line
  | [] => [[]]
  | c :: cs =>
    if c = sep then [] :: split sep cs
    else match split sep cs with
      | [] => [[c]]
      | l :: ls => (c :: l) :: ls

def join (sep : Char) : List Line → List Char
  | [] => []
  | [l] => l
  | l :: ls => l ++ sep :: join sep ls

def ofText (s : String) : List Line := split '\n' s.toList

def toText (ls : List Line) : String := .ofList (join '\n' ls)

theorem split_ne_nil (sep : Char) (cs : List Char) : split sep cs ≠ [] := by
  induction cs with
  | nil => simp [split]
  | cons c cs ih =>
    unfold split
    split
    · simp
    · split <;> simp

@[simp] theorem join_nil_cons (sep : Char) {ls : List Line} (h : ls ≠ []) :
    join sep ([] :: ls) = sep :: join sep ls := by
  cases ls with
  | nil => exact absurd rfl h
  | cons l ls => rfl

theorem join_cons_cons (sep c : Char) (l : Line) (ls : List Line) :
    join sep ((c :: l) :: ls) = c :: join sep (l :: ls) := by
  cases ls <;> rfl

@[simp] theorem join_split (sep : Char) (cs : List Char) : join sep (split sep cs) = cs := by
  induction cs with
  | nil => rfl
  | cons c cs ih =>
    unfold split
    split
    · rename_i h
      rw [join_nil_cons sep (split_ne_nil sep cs), ih, h]
    · split
      · rename_i h
        exact absurd h (split_ne_nil sep cs)
      · rename_i l ls h
        rw [join_cons_cons, ← h, ih]

@[simp] theorem toText_ofText (s : String) : toText (ofText s) = s := by
  simp [toText, ofText]

theorem length_split_pos (sep : Char) (cs : List Char) : 0 < (split sep cs).length :=
  List.length_pos_iff.2 (split_ne_nil sep cs)

theorem sep_not_mem_of_mem_split {sep : Char} {cs : List Char} {l : Line}
    (h : l ∈ split sep cs) : sep ∉ l := by
  induction cs generalizing l with
  | nil =>
    have : l = [] := by simpa [split] using h
    simp [this]
  | cons c cs ih =>
    unfold split at h
    split at h
    · rcases List.mem_cons.1 h with rfl | h
      · simp
      · exact ih h
    · rename_i hc
      split at h
      · rename_i he
        exact absurd he (split_ne_nil sep cs)
      · rename_i l₀ ls he
        rcases List.mem_cons.1 h with rfl | h
        · have := ih (l := l₀) (by rw [he]; simp)
          simp [this, Ne.symm hc]
        · exact ih (by rw [he]; simp [h])

end Lines

/-- The place, counted from zero, of a line counted from one; absent outside the text. -/
def Lines.index? (line : Int) (lines : List Line) : Option Nat :=
  if 1 ≤ line ∧ line ≤ lines.length then some (line - 1).toNat else none

end Mend
