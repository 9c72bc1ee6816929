import Mend.Text.Kind

namespace Mend.Text

def dropLeft (p : Char → Bool) (cs : List Char) : List Char := cs.dropWhile p

def dropRight (p : Char → Bool) : List Char → List Char
  | [] => []
  | c :: cs =>
    match dropRight p cs with
    | [] => if p c then [] else [c]
    | r => c :: r

def trimLeft (cs : List Char) : List Char := dropLeft isBlank cs

def trimRight (cs : List Char) : List Char := dropRight isBlank cs

def trim (cs : List Char) : List Char := trimRight (trimLeft cs)

def stripChars (chars : List Char) (cs : List Char) : List Char :=
  dropRight chars.contains (dropLeft chars.contains cs)

def trimmed (s : String) : String := .ofList (trim s.toList)

theorem eq_dropRight_append (p : Char → Bool) (cs : List Char) :
    ∃ t, cs = dropRight p cs ++ t ∧ ∀ c ∈ t, p c = true := by
  induction cs with
  | nil => exact ⟨[], rfl, by simp⟩
  | cons c cs ih =>
    obtain ⟨t, ht, hp⟩ := ih
    unfold dropRight
    split
    · rename_i h
      rw [h] at ht
      split
      · rename_i hc
        refine ⟨c :: t, by simpa using ht, ?_⟩
        intro d hd
        rcases List.mem_cons.1 hd with rfl | hd
        · exact hc
        · exact hp d hd
      · exact ⟨t, by simpa using ht, hp⟩
    · exact ⟨t, by simpa using ht, hp⟩

theorem dropRight_append {p : Char → Bool} {t : List Char} {c : Char} (hc : ¬ p c = true)
    (ht : ∀ x ∈ t, p x = true) (cs : List Char) : dropRight p (cs ++ c :: t) = cs ++ [c] := by
  have hdrop : dropRight p t = [] := by
    induction t with
    | nil => rfl
    | cons x t ih =>
      rw [dropRight, ih fun y hy => ht y (List.mem_cons_of_mem x hy)]
      exact if_pos (ht x List.mem_cons_self)
  induction cs with
  | nil =>
    rw [List.nil_append, dropRight, hdrop]
    exact if_neg hc
  | cons x cs ih =>
    rw [List.cons_append, dropRight, ih]
    cases cs with
    | nil => rfl
    | cons y cs => rfl

theorem eq_trim_append (cs : List Char) :
    ∃ s t, cs = s ++ (trim cs ++ t) ∧ (∀ c ∈ s, isBlank c = true) ∧ ∀ c ∈ t, isBlank c = true := by
  obtain ⟨t, ht, hblank⟩ := eq_dropRight_append isBlank (trimLeft cs)
  refine ⟨cs.takeWhile isBlank, t, ?_, fun c hc => List.all_eq_true.1 List.all_takeWhile c hc,
    hblank⟩
  rw [trim, trimRight, ← ht]
  exact List.takeWhile_append_dropWhile.symm

theorem trim_append {s t cs : List Char} {x y : Char} (hs : ∀ c ∈ s, isBlank c = true)
    (ht : ∀ c ∈ t, isBlank c = true) (hx : ¬ isBlank x = true) (hy : ¬ isBlank y = true) :
    trim (s ++ (x :: (cs ++ y :: t))) = x :: (cs ++ [y]) := by
  have hleft : trimLeft (s ++ (x :: (cs ++ y :: t))) = x :: (cs ++ y :: t) := by
    rw [trimLeft, dropLeft, List.dropWhile_append_of_pos hs, List.dropWhile_cons_of_neg hx]
  rw [trim, hleft]
  exact dropRight_append hy ht (x :: cs)

end Mend.Text
