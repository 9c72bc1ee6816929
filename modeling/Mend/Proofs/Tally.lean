import Mend.Tally

namespace Mend

namespace Counts

def names (c : Counts) : List String := c.map Prod.fst

theorem sum_increment (name : String) (c : Counts) : sum (increment name c) = sum c + 1 := by
  induction c with
  | nil => rfl
  | cons e c ih =>
    obtain ⟨k, n⟩ := e
    simp only [increment]
    split
    · simp only [sum]
      omega
    · simp only [sum, ih]
      omega

theorem count_increment (name other : String) (c : Counts) :
    count other (increment name c) = count other c + if name = other then 1 else 0 := by
  induction c with
  | nil => simp [increment, count]
  | cons e c ih =>
    obtain ⟨k, n⟩ := e
    simp only [increment]
    split
    · rename_i hk
      subst hk
      simp only [count]
      split
      · rfl
      · rfl
    · rename_i hk
      simp only [count, ih]
      split
      · rename_i hother
        rw [if_neg fun h => hk (hother.trans h.symm), Nat.add_zero]
      · rfl

theorem mem_names_increment {name other : String} {c : Counts} :
    other ∈ names (increment name c) ↔ other = name ∨ other ∈ names c := by
  induction c with
  | nil => simp [increment, names]
  | cons e c ih =>
    obtain ⟨k, n⟩ := e
    simp only [increment]
    split
    · rename_i hk
      subst hk
      simp [names]
    · simp only [names, List.map_cons, List.mem_cons] at ih ⊢
      rw [ih]
      exact or_left_comm

theorem nodup_increment (name : String) {c : Counts} (h : (names c).Nodup) :
    (names (increment name c)).Nodup := by
  induction c with
  | nil => simp [increment, names]
  | cons e c ih =>
    obtain ⟨k, n⟩ := e
    simp only [names, List.map_cons, List.nodup_cons] at h
    simp only [increment]
    split
    · exact List.nodup_cons.2 h
    · rename_i hk
      refine List.nodup_cons.2 ⟨?_, ih h.2⟩
      intro hmem
      rcases mem_names_increment.1 hmem with hname | hrest
      · exact hk hname
      · exact h.1 hrest

theorem positive_increment (name : String) {c : Counts} (h : ∀ e ∈ c, 1 ≤ e.2) :
    ∀ e ∈ increment name c, 1 ≤ e.2 := by
  induction c with
  | nil => simp [increment]
  | cons e c ih =>
    obtain ⟨k, n⟩ := e
    rw [List.forall_mem_cons] at h
    simp only [increment]
    split
    · rw [List.forall_mem_cons]
      exact ⟨Nat.le_add_left 1 n, h.2⟩
    · rw [List.forall_mem_cons]
      exact ⟨h.1, ih h.2⟩

theorem count_le_sum (name : String) (c : Counts) : count name c ≤ sum c := by
  induction c with
  | nil => exact Nat.le_refl 0
  | cons e c ih =>
    simp only [count, sum]
    split
    · exact Nat.le_add_right _ _
    · exact Nat.le_add_left_of_le ih

theorem count_add_count_le_sum {name other : String} (h : name ≠ other) (c : Counts) :
    count name c + count other c ≤ sum c := by
  induction c with
  | nil => exact Nat.le_refl 0
  | cons e c ih =>
    obtain ⟨k, n⟩ := e
    have hname := count_le_sum name c
    have hother := count_le_sum other c
    simp only [count, sum]
    split
    · rename_i hk
      rw [if_neg fun hk' => h (hk.symm.trans hk')]
      omega
    · split
      · omega
      · omega

end Counts

namespace Tally

variable {α : Type}

structure Sound (t : Tally α) : Prop where
  total : t.total = t.successful + t.failed
  errorTypes : t.byErrorType.sum = t.total
  complexities : t.byComplexity.sum = t.total
  methods : t.byMethod.sum ≤ t.total
  errorTypes_positive : ∀ e ∈ t.byErrorType, 1 ≤ e.2
  complexities_positive : ∀ e ∈ t.byComplexity, 1 ≤ e.2
  errorTypes_nodup : t.byErrorType.names.Nodup
  complexities_nodup : t.byComplexity.names.Nodup
  autoFixable : t.autoFixable ≤ t.total
  lastTime : t.lastTime = none ↔ t.total = 0

theorem sound_empty [Zero α] : Sound (empty : Tally α) := by
  constructor <;> simp [empty, Counts.sum, Counts.names]

theorem Sound.record [Add α] {t : Tally α} (h : t.Sound) (now : String) (e : Entry α) :
    (t.record now e).Sound where
  total := by
    have htotal := h.total
    simp only [Tally.record]
    split
    · omega
    · omega
  errorTypes := by rw [Tally.record, Counts.sum_increment, h.errorTypes]
  complexities := by rw [Tally.record, Counts.sum_increment, h.complexities]
  methods := by
    have hmethods := h.methods
    simp only [Tally.record]
    split
    · rw [Counts.sum_increment]
      omega
    · omega
  errorTypes_positive := Counts.positive_increment _ h.errorTypes_positive
  complexities_positive := Counts.positive_increment _ h.complexities_positive
  errorTypes_nodup := Counts.nodup_increment _ h.errorTypes_nodup
  complexities_nodup := Counts.nodup_increment _ h.complexities_nodup
  autoFixable := by
    have hauto := h.autoFixable
    simp only [Tally.record]
    split
    · omega
    · omega
  lastTime := by simp [Tally.record]

theorem Sound.methods_le {t : Tally α} (h : t.Sound) {one other : String} (hne : one ≠ other) :
    t.byMethod.count one + t.byMethod.count other ≤ t.total :=
  Nat.le_trans (Counts.count_add_count_le_sum hne _) h.methods

/-- The tally is that of the entries, in whichever order they were made. -/
structure SumsUp (es : List (Entry α)) (t : Tally α) : Prop where
  total : t.total = es.length
  successful : t.successful = es.countP (·.success)
  failed : t.failed = es.countP (!·.success)
  autoFixable : t.autoFixable = es.countP (·.autoFixable)
  methods : ∀ name, t.byMethod.count name = es.countP (·.method == some name)
  errorTypes : ∀ name, t.byErrorType.count name = es.countP (label ·.errorType == name)
  complexities : ∀ name, t.byComplexity.count name = es.countP (label ·.complexity == name)

theorem sumsUp_empty [Zero α] : SumsUp [] (empty : Tally α) := by
  constructor <;> simp [empty, Counts.count]

theorem SumsUp.record [Add α] {es : List (Entry α)} {t : Tally α} (h : SumsUp es t)
    (now : String) (e : Entry α) : SumsUp (e :: es) (t.record now e) where
  total := by rw [Tally.record, h.total, List.length_cons]
  successful := by rw [Tally.record, h.successful, List.countP_cons]
  failed := by
    rw [Tally.record, h.failed, List.countP_cons]
    cases e.success with
    | false => rfl
    | true => rfl
  autoFixable := by rw [Tally.record, h.autoFixable, List.countP_cons]
  methods := by
    intro name
    rw [List.countP_cons, ← h.methods]
    simp only [Tally.record]
    cases e.method with
    | none => rfl
    | some m => simp [Counts.count_increment]
  errorTypes := by
    intro name
    rw [List.countP_cons, ← h.errorTypes]
    simp [Tally.record, Counts.count_increment]
  complexities := by
    intro name
    rw [List.countP_cons, ← h.complexities]
    simp [Tally.record, Counts.count_increment]

theorem SumsUp.perm {es fs : List (Entry α)} {t : Tally α} (h : SumsUp es t)
    (hperm : es.Perm fs) : SumsUp fs t where
  total := by rw [h.total, hperm.length_eq]
  successful := by rw [h.successful, hperm.countP_eq]
  failed := by rw [h.failed, hperm.countP_eq]
  autoFixable := by rw [h.autoFixable, hperm.countP_eq]
  methods := by
    intro name
    rw [h.methods, hperm.countP_eq]
  errorTypes := by
    intro name
    rw [h.errorTypes, hperm.countP_eq]
  complexities := by
    intro name
    rw [h.complexities, hperm.countP_eq]

end Tally

end Mend
