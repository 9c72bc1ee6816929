import Mend.Text.Search

namespace Mend.Text

variable {needle hay a b x y : List Char} {c : Char}

theorem occurs_nil (needle : List Char) : occurs needle [] = needle.isPrefixOf [] :=
  Bool.or_false _

theorem occurs_cons (needle : List Char) (c : Char) (hay : List Char) :
    occurs needle (c :: hay) = (needle.isPrefixOf (c :: hay) || occurs needle hay) := rfl

theorem occurs_eq_false_of_not_mem (hc : c ∈ needle) (h : c ∉ hay) : occurs needle hay = false := by
  rw [Bool.eq_false_iff]
  intro hoccurs
  obtain ⟨a, b, rfl⟩ := (occurs_iff _ _).1 hoccurs
  exact h (List.mem_append_left b (List.mem_append_right a hc))

theorem occurs_of_part (h : occurs needle hay = true) (a b : List Char) :
    occurs needle (a ++ (hay ++ b)) = true := by
  obtain ⟨x, y, rfl⟩ := (occurs_iff _ _).1 h
  exact (occurs_iff _ _).2 ⟨a ++ x, y ++ b, by simp⟩

theorem prefix_append_cons_iff (hc : c ∉ needle) : needle <+: x ++ c :: y ↔ needle <+: x := by
  constructor
  · intro h
    by_cases hlen : needle.length ≤ x.length
    · exact List.prefix_of_prefix_length_le h (List.prefix_append x _) hlen
    · have hmore : x ++ [c] <+: needle := by
        apply List.prefix_of_prefix_length_le _ h
        · rw [List.length_append, List.length_singleton]
          exact Nat.lt_of_not_le hlen
        · exact ⟨y, by simp⟩
      exact absurd (hmore.subset List.mem_concat_self) hc
  · exact fun h => h.trans (List.prefix_append x _)

theorem isPrefixOf_append_cons (hc : c ∉ needle) :
    needle.isPrefixOf (x ++ c :: y) = needle.isPrefixOf x := by
  rw [Bool.eq_iff_iff, List.isPrefixOf_iff_prefix, List.isPrefixOf_iff_prefix]
  exact prefix_append_cons_iff hc

theorem occurs_append_cons_iff :
    occurs needle (x ++ c :: y) = true ↔
      occurs needle x = true ∨ occurs needle y = true ∨
        ∃ u w, needle = u ++ c :: w ∧ u <:+ x ∧ w <+: y := by
  constructor
  · intro h
    obtain ⟨a, b, heq⟩ := (occurs_iff _ _).1 h
    rw [List.append_eq_append_iff] at heq
    rcases heq with ⟨v, hleft, hright⟩ | ⟨v, rfl, -⟩
    · rw [List.append_eq_append_iff] at hleft
      rcases hleft with ⟨u, rfl, rfl⟩ | ⟨u, rfl, rfl⟩
      · cases v with
        | nil => exact .inl ((occurs_iff _ _).2 ⟨a, [], by simp⟩)
        | cons d w =>
          obtain ⟨rfl, rfl⟩ := List.cons.inj hright
          exact .inr (.inr ⟨u, w, rfl, List.suffix_append a u, List.prefix_append w b⟩)
      · cases u with
        | nil =>
          cases needle with
          | nil => exact .inr (.inl ((occurs_iff _ _).2 ⟨[], y, rfl⟩))
          | cons d w =>
            obtain ⟨rfl, rfl⟩ := List.cons.inj hright
            exact .inr (.inr ⟨[], w, rfl, List.nil_suffix, List.prefix_append w b⟩)
        | cons d u =>
          obtain ⟨rfl, rfl⟩ := List.cons.inj hright
          exact .inr (.inl ((occurs_iff _ _).2 ⟨u, b, rfl⟩))
    · exact .inl ((occurs_iff _ _).2 ⟨a, v, rfl⟩)
  · rintro (h | h | ⟨u, w, rfl, ⟨p, rfl⟩, ⟨q, rfl⟩⟩)
    · exact occurs_of_part h [] (c :: y)
    · have hpart := occurs_of_part h (x ++ [c]) []
      simpa using hpart
    · exact (occurs_iff _ _).2 ⟨p, q, by simp⟩

theorem occurs_append_cons (hc : c ∉ needle) :
    occurs needle (x ++ c :: y) = (occurs needle x || occurs needle y) := by
  rw [Bool.eq_iff_iff, Bool.or_eq_true, occurs_append_cons_iff]
  constructor
  · rintro (h | h | ⟨u, w, rfl, -, -⟩)
    · exact .inl h
    · exact .inr h
    · exact absurd (List.mem_append_right u List.mem_cons_self) hc
  · exact Or.imp_right .inl

theorem splitFirst?_append_cons (hc : c ∉ needle) (h : occurs needle x = false) :
    splitFirst? needle (x ++ c :: y) = (splitFirst? needle y).map fun r => (x ++ c :: r.1, r.2) := by
  induction x with
  | nil =>
    have hfirst : needle.isPrefixOf (c :: y) = false := by
      rw [← h, occurs_nil]
      exact isPrefixOf_append_cons (x := []) hc
    simp [splitFirst?, hfirst]
  | cons d x ih =>
    rw [occurs_cons, Bool.or_eq_false_iff] at h
    have hfirst : needle.isPrefixOf (d :: (x ++ c :: y)) = false := by
      rw [← List.cons_append, isPrefixOf_append_cons hc, h.1]
    simp [splitFirst?, hfirst, ih h.2, Function.comp_def]

theorem splitFirst?_append (needle rest : List Char) :
    splitFirst? needle (needle ++ rest) = some ([], rest) := by
  cases needle with
  | nil => cases rest <;> simp [splitFirst?]
  | cons c needle => simp [splitFirst?]

theorem occurs_before (hne : needle ≠ []) (h : splitFirst? needle hay = some (a, b)) :
    occurs needle a = false := by
  induction hay generalizing a with
  | nil => simp [splitFirst?, hne] at h
  | cons c hay ih =>
    rw [splitFirst?] at h
    split at h
    · cases h
      rwa [occurs_nil, Bool.eq_false_iff, ne_eq, List.isPrefixOf_iff_prefix, List.prefix_nil]
    · rename_i hfirst
      obtain ⟨⟨a', b'⟩, hsplit, heq⟩ := Option.map_eq_some_iff.1 h
      cases heq
      rw [occurs_cons, ih hsplit, Bool.or_false, Bool.eq_false_iff]
      rw [eq_of_splitFirst? hsplit, List.isPrefixOf_iff_prefix] at hfirst
      rw [ne_eq, List.isPrefixOf_iff_prefix]
      exact fun hbegins => hfirst (hbegins.trans (List.prefix_append (c :: a') _))

end Mend.Text
