import Mathlib.Data.List.TakeWhile
import Mend.Text.Trim

namespace Mend.Text

variable {p : Char → Bool} {chars cs s t : List Char} {c : Char}

theorem dropRight_eq_nil_iff : dropRight p cs = [] ↔ ∀ c ∈ cs, p c = true := by
  constructor
  · intro h
    obtain ⟨t, ht, hp⟩ := eq_dropRight_append p cs
    rw [h, List.nil_append] at ht
    exact ht ▸ hp
  · intro h
    induction cs with
    | nil => rfl
    | cons c cs ih =>
      rw [List.forall_mem_cons] at h
      rw [dropRight, ih h.2]
      exact if_pos h.1

theorem dropRight_subset (p : Char → Bool) (cs : List Char) : dropRight p cs ⊆ cs := by
  intro c hc
  obtain ⟨t, ht, -⟩ := eq_dropRight_append p cs
  rw [ht]
  exact List.mem_append_left t hc

theorem dropRight_append_of_pos (h : ∀ c ∈ t, p c = true) :
    dropRight p (cs ++ t) = dropRight p cs := by
  induction cs with
  | nil => exact dropRight_eq_nil_iff.2 h
  | cons c cs ih => rw [List.cons_append, dropRight, ih, dropRight]

theorem getLast?_dropRight (h : (dropRight p cs).getLast? = some c) : p c = false := by
  induction cs with
  | nil => cases h
  | cons d cs ih =>
    rw [dropRight] at h
    split at h
    · split at h
      · cases h
      · rename_i hd
        cases h
        exact Bool.eq_false_iff.2 hd
    · rename_i hne
      cases hrest : dropRight p cs with
      | nil => exact absurd hrest hne
      | cons e es =>
        rw [hrest] at h ih
        rw [List.getLast?_cons_cons] at h
        exact ih h

theorem any_getLast?_dropRight (p : Char → Bool) (cs : List Char) :
    (dropRight p cs).getLast?.any p = false := by
  cases h : (dropRight p cs).getLast? with
  | none => rfl
  | some c => exact getLast?_dropRight h

theorem dropRight_eq_self_iff : dropRight p cs = cs ↔ cs.getLast?.any p = false := by
  constructor
  · exact fun h => h ▸ any_getLast?_dropRight p cs
  · intro h
    obtain rfl | ⟨init, c, rfl⟩ := cs.eq_nil_or_concat
    · rfl
    · rw [List.concat_eq_append, List.getLast?_concat, Option.any_some] at h
      rw [List.concat_eq_append]
      exact dropRight_append (Bool.eq_false_iff.1 h) (fun _ hx => absurd hx List.not_mem_nil) init

theorem dropLeft_eq_self (h : ∀ c ∈ cs, p c = false) : dropLeft p cs = cs := by
  cases cs with
  | nil => rfl
  | cons c cs => exact List.dropWhile_cons_of_neg (by simp [h c List.mem_cons_self])

theorem dropRight_eq_self (h : ∀ c ∈ cs, p c = false) : dropRight p cs = cs := by
  rw [dropRight_eq_self_iff]
  cases hlast : cs.getLast? with
  | none => rfl
  | some c => exact h c (List.mem_of_getLast? hlast)

theorem trim_eq_self (h : ∀ c ∈ cs, isBlank c = false) : trim cs = cs := by
  rw [trim, trimLeft, dropLeft_eq_self h]
  exact dropRight_eq_self h

theorem stripChars_eq_self (h : ∀ c ∈ cs, chars.contains c = false) :
    stripChars chars cs = cs := by
  rw [stripChars, dropLeft_eq_self h]
  exact dropRight_eq_self h

theorem trim_eq_nil_iff : trim cs = [] ↔ ∀ c ∈ cs, isBlank c = true := by
  constructor
  · intro h
    obtain ⟨s, t, hcs, hs, ht⟩ := eq_trim_append cs
    rw [h, List.nil_append] at hcs
    rw [hcs]
    exact List.forall_mem_append.2 ⟨hs, ht⟩
  · intro h
    rw [trim, trimLeft, dropLeft, List.dropWhile_eq_nil_iff.2 h]
    rfl

theorem getLast?_trim (cs : List Char) : (trim cs).getLast?.any isBlank = false :=
  any_getLast?_dropRight isBlank _

theorem head?_trim (cs : List Char) : (trim cs).head?.any isBlank = false := by
  obtain ⟨t, ht, -⟩ := eq_dropRight_append isBlank (trimLeft cs)
  cases htrim : trim cs with
  | nil => rfl
  | cons c rest =>
    rw [trim, trimRight] at htrim
    rw [htrim, trimLeft, dropLeft] at ht
    have hhead := List.head?_dropWhile_not isBlank cs
    rw [ht] at hhead
    simpa using hhead

theorem trim_around (hs : ∀ c ∈ s, isBlank c = true) (ht : ∀ c ∈ t, isBlank c = true) :
    trim (s ++ (cs ++ t)) = trim cs := by
  rw [trim, trimLeft, dropLeft, List.dropWhile_append_of_pos hs, List.dropWhile_append]
  split
  · rename_i hcs
    have hblank : ∀ c ∈ cs, isBlank c = true := by simpa using hcs
    rw [List.dropWhile_eq_nil_iff.2 ht, trim_eq_nil_iff.2 hblank]
    rfl
  · exact dropRight_append_of_pos ht

theorem trim_trim (cs : List Char) : trim (trim cs) = trim cs := by
  obtain ⟨s, t, hcs, hs, ht⟩ := eq_trim_append cs
  calc trim (trim cs) = trim (s ++ (trim cs ++ t)) := (trim_around hs ht).symm
    _ = trim cs := congrArg trim hcs.symm

end Mend.Text
