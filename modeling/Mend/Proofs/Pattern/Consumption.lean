import Mend.Pattern.Search

namespace Mend.Pattern

def needsText : Pattern → Bool
  | one _ => true
  | seq p q => p.needsText || q.needsText
  | alt p q => p.needsText && q.needsText
  | _ => false

theorem Spans.length_le {p : Pattern} {i k : Cursor} (h : Spans p i k) :
    k.rest.length ≤ i.rest.length := by
  induction h with
  | empty => exact Nat.le_refl _
  | one => exact Nat.le_succ _
  | manyNil => exact Nat.le_refl _
  | manyCons _ _ ih => exact Nat.le_succ_of_le ih
  | boundary => exact Nat.le_refl _
  | beginning => exact Nat.le_refl _
  | ending => exact Nat.le_refl _
  | seq _ _ ihs iht => exact Nat.le_trans iht ihs
  | left _ ih => exact ih
  | right _ ih => exact ih

theorem Spans.length_lt {p : Pattern} {i k : Cursor} (h : Spans p i k) (hp : p.needsText = true) :
    k.rest.length < i.rest.length := by
  induction h with
  | one => exact Nat.lt_succ_self _
  | seq s t ihs iht =>
    rcases Bool.or_eq_true_iff.1 hp with hp | hp
    · exact Nat.lt_of_le_of_lt t.length_le (ihs hp)
    · exact Nat.lt_of_lt_of_le (iht hp) s.length_le
  | left _ ih => exact ih (Bool.and_eq_true_iff.1 hp).1
  | right _ ih => exact ih (Bool.and_eq_true_iff.1 hp).2
  | _ => cases hp

theorem ne_nil_of_found {p : Pattern} {cs : List Char} (hp : p.needsText = true)
    (h : p.found cs = true) : cs ≠ [] := by
  intro hcs
  obtain ⟨j, hj, k, t⟩ := (found_iff p cs).1 h
  rw [hcs, Cursor.places, List.mem_singleton] at hj
  subst hj
  exact Nat.not_lt_zero _ (t.length_lt hp)

end Mend.Pattern
