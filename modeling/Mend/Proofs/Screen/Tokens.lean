import Mathlib.Data.List.Basic
import Mend.Screen.Markup

namespace Mend.Markup

section
variable {a b cs rest inside tail : List Char} {c : Char} {n k : Nat}

def bracket? (cs : List Char) : Option Char := (cs.dropWhile isInside).head?

/-- Text behind which no tag is left to be completed: its first bracket does not close one. -/
def Apart (rest : List Char) : Prop := bracket? rest ≠ some ']'

/-- Text that can stand inside a tag. -/
structure Inside (inside : List Char) : Prop where
  begins : inside.head?.any isTagStart = true
  all : ∀ c ∈ inside, isInside c = true

theorem bracket?_append (a b : List Char) : bracket? (a ++ b) = (bracket? a).or (bracket? b) := by
  induction a with
  | nil => rfl
  | cons c a ih =>
    rw [List.cons_append, bracket?, bracket?, List.dropWhile_cons, List.dropWhile_cons]
    split
    · exact ih
    · rfl

theorem isInside_of_isTagStart (h : isTagStart c = true) : isInside c = true := by
  have hopen : c ≠ '[' := by
    rintro rfl
    exact absurd h (by decide)
  have hclose : c ≠ ']' := by
    rintro rfl
    exact absurd h (by decide)
  simp [isInside, hopen, hclose]

theorem tag?_bracket (cs : List Char) : tag? ('[' :: cs) =
    if cs.head?.any isTagStart && bracket? cs == some ']' then some (cs.takeWhile isInside)
    else none := by
  cases cs with
  | nil => rfl
  | cons c cs =>
    rw [tag?, List.head?_cons, Option.any_some]
    cases hc : isTagStart c with
    | false => rfl
    | true =>
      have hinside := isInside_of_isTagStart hc
      rw [bracket?, List.dropWhile_cons_of_pos hinside, List.takeWhile_cons_of_pos hinside]

theorem tag?_of_ne (h : c ≠ '[') (cs : List Char) : tag? (c :: cs) = none := by
  unfold tag?
  split
  · rename_i heq
    exact absurd (List.cons.inj heq).1 h
  · rfl

theorem tag?_inside (h : Inside inside) (tail : List Char) :
    tag? ('[' :: (inside ++ ']' :: tail)) = some inside := by
  obtain ⟨hbegins, hall⟩ := h
  have hbracket : bracket? (inside ++ ']' :: tail) = some ']' := by
    rw [bracket?, List.dropWhile_append_of_pos hall]
    rfl
  have hhead : (inside ++ ']' :: tail).head?.any isTagStart = true := by
    cases inside with
    | nil => cases hbegins
    | cons c inside => exact hbegins
  rw [tag?_bracket, hbracket, hhead, List.takeWhile_append_of_pos hall]
  simp [isInside]

theorem of_tag? (h : tag? (c :: cs) = some inside) :
    c = '[' ∧ Inside inside ∧ ∃ tail, cs = inside ++ ']' :: tail := by
  by_cases hc : c = '['
  · subst hc
    rw [tag?_bracket] at h
    split at h
    · rename_i hcond
      rw [Bool.and_eq_true, beq_iff_eq] at hcond
      obtain ⟨hhead, hbracket⟩ := hcond
      obtain rfl := Option.some.inj h
      obtain ⟨tail, htail⟩ : ∃ tail, cs.dropWhile isInside = ']' :: tail := by
        rw [bracket?, List.head?_eq_some_iff] at hbracket
        exact hbracket
      refine ⟨rfl, ⟨?_, List.all_eq_true.1 List.all_takeWhile⟩, tail, ?_⟩
      · cases cs with
        | nil => cases hhead
        | cons c cs =>
          rw [List.takeWhile_cons_of_pos (isInside_of_isTagStart hhead)]
          exact hhead
      · rw [← htail, List.takeWhile_append_dropWhile]
    · cases h
  · rw [tag?_of_ne hc] at h
    cases h

/-- What is apart does not make a tag of a bracket before it. -/
theorem tag?_append (h : tag? (c :: cs) = none) (hrest : Apart rest) :
    tag? (c :: (cs ++ rest)) = none := by
  by_cases hc : c = '['
  · subst hc
    rw [tag?_bracket] at h ⊢
    rw [bracket?_append, if_neg]
    intro hcond
    rw [Bool.and_eq_true, beq_iff_eq] at hcond
    obtain ⟨hhead, hbracket⟩ := hcond
    cases hcs : bracket? cs with
    | none =>
      rw [hcs] at hbracket
      exact hrest hbracket
    | some d =>
      cases cs with
      | nil => cases hcs
      | cons c cs =>
        rw [hcs] at hbracket h
        rw [if_pos] at h
        · cases h
        · rw [Bool.and_eq_true, beq_iff_eq]
          exact ⟨hhead, hbracket⟩
  · exact tag?_of_ne hc _

theorem tag?_of_append (h : tag? (c :: (cs ++ rest)) = none) : tag? (c :: cs) = none := by
  cases htag : tag? (c :: cs) with
  | none => rfl
  | some inside =>
    obtain ⟨rfl, hinside, tail, rfl⟩ := of_tag? htag
    rw [List.append_assoc, List.cons_append, tag?_inside hinside] at h
    cases h

theorem apart_slashes (n : Nat) (h : Apart rest) : Apart (slashes n ++ rest) := by
  have hnone : bracket? (slashes n) = none := by
    rw [bracket?, slashes, List.dropWhile_replicate]
    rfl
  rw [Apart, bracket?_append, hnone]
  exact h

theorem apart_nil : Apart [] := by simp [Apart, bracket?]

theorem apart_of_slashes (n : Nat) : Apart (slashes n) := by
  rw [← List.append_nil (slashes n)]
  exact apart_slashes n apart_nil

theorem tokens_slashes (n k : Nat) (cs : List Char) :
    tokens k 0 (slashes n ++ cs) = tokens (k + n) 0 cs := by
  induction n generalizing k with
  | zero => rfl
  | succ n ih =>
    rw [slashes, List.replicate_succ, List.cons_append, tokens, tag?_of_ne (by decide)]
    simp only [reduceIte]
    rw [← slashes, ih, Nat.add_assoc, Nat.add_comm 1]

theorem tokens_skip (a b : List Char) : tokens 0 a.length (a ++ b) = tokens 0 0 b := by
  induction a with
  | nil => rfl
  | cons c a ih => exact ih

theorem tokens_tag (h : Inside inside) (k : Nat) (tail : List Char) :
    tokens k 0 ('[' :: (inside ++ ']' :: tail)) = .tag k inside :: tokens 0 0 tail := by
  have hskip := tokens_skip (inside ++ [']']) tail
  rw [List.length_append, List.append_assoc] at hskip
  rw [tokens, tag?_inside h]
  exact congrArg _ hskip

theorem tokens_plain (hc : c ≠ '\\') (h : tag? (c :: cs) = none) (k : Nat) :
    tokens k 0 (c :: cs) = List.replicate k (.plain '\\') ++ .plain c :: tokens 0 0 cs := by
  rw [tokens, h]
  exact if_neg hc

/-- Text up to the backslashes at its end: characters and tags with backslashes before them. -/
inductive Body : List Char → Prop
  | nil : Body []
  | plain (n : Nat) {c : Char} {cs : List Char} (hc : c ≠ '\\') (htag : tag? (c :: cs) = none)
    (h : Body cs) : Body (slashes n ++ c :: cs)
  | tag (n : Nat) {inside tail : List Char} (hinside : Inside inside) (h : Body tail) :
    Body (slashes n ++ '[' :: (inside ++ ']' :: tail))

theorem exists_slashes (cs : List Char) : ∃ n rest, cs = slashes n ++ rest ∧
    rest.head? ≠ some '\\' := by
  induction cs with
  | nil => exact ⟨0, [], rfl, by simp⟩
  | cons c cs ih =>
    by_cases hc : c = '\\'
    · obtain ⟨n, rest, rfl, hrest⟩ := ih
      exact ⟨n + 1, rest, by rw [hc]; rfl, hrest⟩
    · exact ⟨0, c :: cs, rfl, by simpa using hc⟩

theorem exists_body (cs : List Char) : ∃ body n, cs = body ++ slashes n ∧ Body body := by
  obtain ⟨n, rest, hcs, hrest⟩ := exists_slashes cs
  cases rest with
  | nil => exact ⟨[], n, by rw [hcs, List.append_nil]; rfl, .nil⟩
  | cons c rest =>
    have hc : c ≠ '\\' := by simpa using hrest
    cases htag : tag? (c :: rest) with
    | none =>
      obtain ⟨body, k, hbody, h⟩ := exists_body rest
      have hapart : tag? (c :: body) = none := by
        rw [hbody] at htag
        exact tag?_of_append htag
      refine ⟨slashes n ++ c :: body, k, ?_, .plain n hc hapart h⟩
      rw [hcs, hbody, List.append_assoc]
      rfl
    | some inside =>
      obtain ⟨rfl, hinside, tail, htail⟩ := of_tag? htag
      obtain ⟨body, k, hbody, h⟩ := exists_body tail
      refine ⟨slashes n ++ '[' :: (inside ++ ']' :: body), k, ?_, .tag n hinside h⟩
      rw [hcs, htail, hbody]
      simp
termination_by cs.length
decreasing_by
  all_goals simp_all
  all_goals omega

end

end Mend.Markup
