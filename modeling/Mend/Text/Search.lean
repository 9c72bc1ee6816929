namespace Mend.Text

def tails : List Char → List (List Char)
  | [] => [[]]
  | c :: cs => (c :: cs) :: tails cs

def occurs (needle hay : List Char) : Bool := (tails hay).any needle.isPrefixOf

def hasInfix (needle hay : String) : Bool := occurs needle.toList hay.toList

def splitFirst? (needle : List Char) : List Char → Option (List Char × List Char)
  | [] => if needle = [] then some ([], []) else none
  | c :: cs =>
    if needle.isPrefixOf (c :: cs) then some ([], (c :: cs).drop needle.length)
    else (splitFirst? needle cs).map fun r => (c :: r.1, r.2)

theorem occurs_iff (needle hay : List Char) :
    occurs needle hay = true ↔ ∃ a b, hay = a ++ needle ++ b := by
  induction hay with
  | nil =>
    simp only [occurs, tails, List.any_cons, List.any_nil, Bool.or_false, List.isPrefixOf_iff_prefix]
    constructor
    · rintro ⟨b, hb⟩
      exact ⟨[], b, by simpa using hb.symm⟩
    · rintro ⟨a, b, h⟩
      refine ⟨[], ?_⟩
      have := (List.append_eq_nil_iff.1 h.symm).1
      simpa using (List.append_eq_nil_iff.1 this).2
  | cons c cs ih =>
    have step : occurs needle (c :: cs) = (needle.isPrefixOf (c :: cs) || occurs needle cs) := rfl
    rw [step, Bool.or_eq_true, ih, List.isPrefixOf_iff_prefix]
    constructor
    · rintro (⟨b, hb⟩ | ⟨a, b, h⟩)
      · exact ⟨[], b, by simpa using hb.symm⟩
      · exact ⟨c :: a, b, by simp [h]⟩
    · rintro ⟨a, b, h⟩
      cases a with
      | nil => exact .inl ⟨b, by simpa using h.symm⟩
      | cons x a =>
        simp only [List.cons_append, List.cons.injEq] at h
        exact .inr ⟨a, b, h.2⟩

theorem eq_of_splitFirst? {needle hay a b : List Char} (h : splitFirst? needle hay = some (a, b)) :
    hay = a ++ (needle ++ b) := by
  induction hay generalizing a with
  | nil =>
    unfold splitFirst? at h
    split at h
    · rename_i hneedle
      cases h
      rw [hneedle]
      rfl
    · cases h
  | cons c cs ih =>
    unfold splitFirst? at h
    split at h
    · rename_i hprefix
      cases h
      obtain ⟨b, hb⟩ := List.isPrefixOf_iff_prefix.1 hprefix
      rw [← hb, List.drop_left]
      rfl
    · obtain ⟨⟨a', b'⟩, hsplit, heq⟩ := Option.map_eq_some_iff.1 h
      cases heq
      rw [ih hsplit]
      rfl

theorem splitFirst?_eq_none_iff (needle hay : List Char) :
    splitFirst? needle hay = none ↔ occurs needle hay = false := by
  induction hay with
  | nil => cases needle <;> simp [splitFirst?, occurs, tails]
  | cons c cs ih =>
    have step : occurs needle (c :: cs) = (needle.isPrefixOf (c :: cs) || occurs needle cs) := rfl
    rw [splitFirst?, step]
    cases needle.isPrefixOf (c :: cs) with
    | true => simp
    | false => simp [ih]

end Mend.Text
