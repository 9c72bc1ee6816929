import Mend.Proofs.Tally

namespace Mend

namespace Counts

variable {b c d : Counts}

def Same (c d : Counts) : Prop := ∀ name, List.lookup name c = List.lookup name d

theorem lookup_cons (k name : String) (n : Nat) (c : Counts) :
    List.lookup name ((k, n) :: c) = if name = k then some n else List.lookup name c := by
  rw [List.lookup_cons]
  by_cases h : name = k
  · simp [h]
  · simp [h, beq_false_of_ne h]

theorem count_eq_lookup (name : String) (c : Counts) :
    count name c = (List.lookup name c).getD 0 := by
  induction c with
  | nil => rfl
  | cons e c ih =>
    obtain ⟨k, n⟩ := e
    rw [lookup_cons, count, ih]
    by_cases h : name = k
    · simp [h]
    · simp [h, Ne.symm h]

theorem lookup_increment (name other : String) (c : Counts) :
    List.lookup other (increment name c) =
      if other = name then some (count name c + 1) else List.lookup other c := by
  induction c with
  | nil => exact lookup_cons name other 1 []
  | cons e c ih =>
    obtain ⟨k, n⟩ := e
    by_cases h : k = name
    · subst h
      simp only [increment, count, if_true, lookup_cons]
      split
      · rfl
      · rfl
    · simp only [increment, count, if_neg h, lookup_cons, ih]
      by_cases hother : other = k
      · simp [hother, h]
      · simp [hother]

theorem Same.refl (c : Counts) : Same c c := fun _ => rfl

theorem Same.symm (h : Same c d) : Same d c := fun name => (h name).symm

theorem Same.trans (h : Same b c) (h' : Same c d) : Same b d :=
  fun name => (h name).trans (h' name)

theorem Same.count (h : Same c d) (name : String) : count name c = count name d := by
  rw [count_eq_lookup, count_eq_lookup, h name]

theorem Same.increment (h : Same c d) (name : String) : Same (increment name c) (increment name d) := by
  intro other
  rw [lookup_increment, lookup_increment, h.count, h other]

theorem same_increment_increment (one two : String) (c : Counts) :
    Same (increment one (increment two c)) (increment two (increment one c)) := by
  intro name
  simp only [lookup_increment, count_increment]
  by_cases h : one = two
  · rw [h]
  · by_cases hone : name = one
    · subst hone
      simp [h, Ne.symm h]
    · simp [hone, h]

end Counts

namespace Tally

variable {α : Type} {t u v : Tally α} {es fs : List (Entry α)}

structure Agrees (t u : Tally α) : Prop where
  total : t.total = u.total
  successful : t.successful = u.successful
  failed : t.failed = u.failed
  autoFixable : t.autoFixable = u.autoFixable
  methods : t.byMethod.Same u.byMethod
  errorTypes : t.byErrorType.Same u.byErrorType
  complexities : t.byComplexity.Same u.byComplexity

theorem Agrees.refl (t : Tally α) : Agrees t t :=
  ⟨rfl, rfl, rfl, rfl, .refl _, .refl _, .refl _⟩

theorem Agrees.symm (h : Agrees t u) : Agrees u t where
  total := h.total.symm
  successful := h.successful.symm
  failed := h.failed.symm
  autoFixable := h.autoFixable.symm
  methods := h.methods.symm
  errorTypes := h.errorTypes.symm
  complexities := h.complexities.symm

theorem Agrees.trans (h : Agrees t u) (h' : Agrees u v) : Agrees t v where
  total := h.total.trans h'.total
  successful := h.successful.trans h'.successful
  failed := h.failed.trans h'.failed
  autoFixable := h.autoFixable.trans h'.autoFixable
  methods := h.methods.trans h'.methods
  errorTypes := h.errorTypes.trans h'.errorTypes
  complexities := h.complexities.trans h'.complexities

variable [Add α]

theorem Agrees.record (h : Agrees t u) (now now' : String) (e : Entry α) :
    Agrees (t.record now e) (u.record now' e) where
  total := congrArg (· + 1) h.total
  successful := congrArg (· + _) h.successful
  failed := congrArg (· + _) h.failed
  autoFixable := congrArg (· + _) h.autoFixable
  methods := by
    unfold Tally.record
    cases e.method with
    | none => exact h.methods
    | some m => exact h.methods.increment m
  errorTypes := h.errorTypes.increment _
  complexities := h.complexities.increment _

theorem agrees_record_record (t : Tally α) (now : String) (e f : Entry α) :
    Agrees ((t.record now e).record now f) ((t.record now f).record now e) where
  total := rfl
  successful := Nat.add_right_comm _ _ _
  failed := Nat.add_right_comm _ _ _
  autoFixable := Nat.add_right_comm _ _ _
  methods := by
    unfold Tally.record
    cases e.method with
    | none => exact .refl _
    | some m =>
      cases f.method with
      | none => exact .refl _
      | some m' => exact Counts.same_increment_increment m' m _
  errorTypes := Counts.same_increment_increment _ _ _
  complexities := Counts.same_increment_increment _ _ _

def recordAll (t : Tally α) : List (Entry α) → Tally α
  | [] => t
  | e :: es => (recordAll t es).record "" e

theorem agrees_of_perm (t : Tally α) (h : es.Perm fs) : Agrees (t.recordAll es) (t.recordAll fs) := by
  induction h with
  | nil => exact .refl t
  | cons e _ ih => exact ih.record "" "" e
  | swap e f es => exact agrees_record_record (t.recordAll es) "" e f
  | trans _ _ ih ih' => exact ih.trans ih'

end Tally

end Mend
