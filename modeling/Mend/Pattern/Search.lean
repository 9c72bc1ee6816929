import Mend.Pattern.Basic

/-!
Searching a text for a pattern. All places of the text are looked at together: marks on those where
a match may begin are moved to those where it may end, so that the work grows with the length of the
text and the size of the pattern only. `sweep_iff` says that the marks go where the pattern leads,
and `found_iff` that a pattern is found where it matches somewhere.
-/

namespace Mend.Pattern

/-- The places of a text, each with a mark or without. -/
abbrev Marks := List (Cursor × Bool)

def startsIn (s : CharSet) (k : Cursor) : Bool := k.rest.head?.any s.has

/-- Moves marks past one character of a set; `carried` is the mark from the place before. -/
def pastOne (s : CharSet) (carried : Bool) : Marks → Marks
  | [] => []
  | (k, m) :: ms => (k, carried) :: pastOne s (m && startsIn s k) ms

def pastMany (s : CharSet) (carried : Bool) : Marks → Marks
  | [] => []
  | (k, m) :: ms => (k, m || carried) :: pastMany s ((m || carried) && startsIn s k) ms

def keep (p : Cursor → Bool) (ms : Marks) : Marks := ms.map fun m => (m.1, m.2 && p m.1)

def union : Marks → Marks → Marks
  | (k, m) :: ms, (_, n) :: ns => (k, m || n) :: union ms ns
  | _, _ => []

/-- The marks where matches that begin at marks end. -/
def sweep : Pattern → Marks → Marks
  | empty, ms => ms
  | one s, ms => pastOne s false ms
  | many s, ms => pastMany s false ms
  | boundary, ms => keep Cursor.atBoundary ms
  | beginning, ms => keep (·.prev.isNone) ms
  | ending, ms => keep Cursor.atEnd ms
  | seq p q, ms => q.sweep (p.sweep ms)
  | alt p q, ms => union (p.sweep ms) (q.sweep ms)

def found (p : Pattern) (cs : List Char) : Bool :=
  (p.sweep ((Cursor.places none cs).map (·, true))).any (·.2)

theorem map_pastOne (s : CharSet) (b : Bool) (ms : Marks) :
    (pastOne s b ms).map (·.1) = ms.map (·.1) := by
  induction ms generalizing b with
  | nil => rfl
  | cons m ms ih => simp [pastOne, ih]

theorem map_pastMany (s : CharSet) (b : Bool) (ms : Marks) :
    (pastMany s b ms).map (·.1) = ms.map (·.1) := by
  induction ms generalizing b with
  | nil => rfl
  | cons m ms ih => simp [pastMany, ih]

theorem map_keep (p : Cursor → Bool) (ms : Marks) : (keep p ms).map (·.1) = ms.map (·.1) := by
  simp [keep, Function.comp_def]

theorem map_union {ms ns : Marks} (h : ms.map (·.1) = ns.map (·.1)) :
    (union ms ns).map (·.1) = ms.map (·.1) := by
  induction ms generalizing ns with
  | nil => cases ns <;> rfl
  | cons m ms ih =>
    cases ns with
    | nil => simp at h
    | cons n ns => simp_all [union]

theorem map_sweep (p : Pattern) (ms : Marks) : (p.sweep ms).map (·.1) = ms.map (·.1) := by
  induction p generalizing ms with
  | empty => rfl
  | one s => exact map_pastOne s false ms
  | many s => exact map_pastMany s false ms
  | boundary | beginning | ending => exact map_keep _ ms
  | seq p q ihp ihq => rw [sweep, ihq, ihp]
  | alt p q ihp ihq => rw [sweep, map_union (by rw [ihp, ihq]), ihp]

theorem mem_pastOne {s : CharSet} {b : Bool} {prev : Option Char} {cs : List Char} {ms : Marks}
    (h : ms.map (·.1) = Cursor.places prev cs) (k : Cursor) :
    (k, true) ∈ pastOne s b ms ↔
      (b = true ∧ k = ⟨prev, cs⟩) ∨ ∃ j, (j, true) ∈ ms ∧ Spans (.one s) j k := by
  induction cs generalizing prev b ms with
  | nil =>
    obtain ⟨m, rfl, hm⟩ : ∃ m, ms = [m] ∧ m.1 = ⟨prev, []⟩ := by
      cases ms with
      | nil => simp [Cursor.places] at h
      | cons m ms => cases ms <;> simp_all [Cursor.places]
    obtain ⟨i, m⟩ := m
    subst hm
    simp only [pastOne, List.mem_singleton, Prod.mk.injEq]
    constructor
    · rintro ⟨rfl, hb⟩
      exact .inl ⟨hb.symm, rfl⟩
    · rintro (⟨rfl, rfl⟩ | ⟨j, ⟨rfl, _⟩, t⟩)
      · exact ⟨rfl, rfl⟩
      · cases t
  | cons c cs ih =>
    cases ms with
    | nil => simp [Cursor.places] at h
    | cons m ms =>
      obtain ⟨i, m⟩ := m
      simp only [Cursor.places, List.map_cons, List.cons.injEq] at h
      obtain ⟨rfl, h⟩ := h
      simp only [pastOne, List.mem_cons, Prod.mk.injEq, ih h, startsIn, List.head?_cons,
        Option.any_some, Bool.and_eq_true]
      constructor
      · rintro (⟨rfl, hb⟩ | ⟨⟨hm, hc⟩, rfl⟩ | ⟨j, hj, t⟩)
        · exact .inl ⟨hb.symm, rfl⟩
        · exact .inr ⟨_, .inl ⟨rfl, hm.symm⟩, .one _ _ hc⟩
        · exact .inr ⟨j, .inr hj, t⟩
      · rintro (⟨rfl, rfl⟩ | ⟨j, ⟨rfl, hm⟩ | hj, t⟩)
        · exact .inl ⟨rfl, rfl⟩
        · cases t with
          | one _ _ hc => exact .inr (.inl ⟨⟨hm.symm, hc⟩, rfl⟩)
        · exact .inr (.inr ⟨j, hj, t⟩)

theorem mem_pastMany {s : CharSet} {b : Bool} {prev : Option Char} {cs : List Char} {ms : Marks}
    (h : ms.map (·.1) = Cursor.places prev cs) (k : Cursor) :
    (k, true) ∈ pastMany s b ms ↔
      (b = true ∧ Spans (.many s) ⟨prev, cs⟩ k) ∨
        ∃ j, (j, true) ∈ ms ∧ Spans (.many s) j k := by
  induction cs generalizing prev b ms with
  | nil =>
    obtain ⟨m, rfl, hm⟩ : ∃ m, ms = [m] ∧ m.1 = ⟨prev, []⟩ := by
      cases ms with
      | nil => simp [Cursor.places] at h
      | cons m ms => cases ms <;> simp_all [Cursor.places]
    obtain ⟨i, m⟩ := m
    subst hm
    have hk : ∀ k, Spans (.many s) ⟨prev, []⟩ k ↔ k = ⟨prev, []⟩ := fun k =>
      ⟨fun t => by cases t; rfl, fun e => e ▸ .manyNil _ _⟩
    simp only [pastMany, List.mem_singleton, Prod.mk.injEq]
    constructor
    · rintro ⟨rfl, hb⟩
      rcases Bool.or_eq_true_iff.1 hb.symm with rfl | rfl
      · exact .inr ⟨_, ⟨rfl, rfl⟩, .manyNil _ _⟩
      · exact .inl ⟨rfl, .manyNil _ _⟩
    · rintro (⟨rfl, t⟩ | ⟨j, ⟨rfl, rfl⟩, t⟩)
      · exact ⟨(hk _).1 t, by simp⟩
      · exact ⟨(hk _).1 t, by simp⟩
  | cons c cs ih =>
    cases ms with
    | nil => simp [Cursor.places] at h
    | cons m ms =>
      obtain ⟨i, m⟩ := m
      simp only [Cursor.places, List.map_cons, List.cons.injEq] at h
      obtain ⟨rfl, h⟩ := h
      have hk : ∀ k, Spans (.many s) ⟨prev, c :: cs⟩ k ↔
          k = ⟨prev, c :: cs⟩ ∨ (s.has c = true ∧ Spans (.many s) ⟨some c, cs⟩ k) := fun k =>
        ⟨fun t => by
          cases t with
          | manyNil => exact .inl rfl
          | manyCons hc t => exact .inr ⟨hc, t⟩,
        fun e => by
          rcases e with rfl | ⟨hc, t⟩
          · exact .manyNil _ _
          · exact .manyCons hc t⟩
      simp only [pastMany, List.mem_cons, Prod.mk.injEq, ih h, startsIn, List.head?_cons,
        Option.any_some, Bool.and_eq_true, Bool.or_eq_true]
      constructor
      · rintro (⟨rfl, hb⟩ | ⟨⟨hb, hc⟩, t⟩ | ⟨j, hj, t⟩)
        · rcases Bool.or_eq_true_iff.1 hb.symm with rfl | rfl
          · exact .inr ⟨_, .inl ⟨rfl, rfl⟩, .manyNil _ _⟩
          · exact .inl ⟨rfl, .manyNil _ _⟩
        · rcases hb with rfl | rfl
          · exact .inr ⟨_, .inl ⟨rfl, rfl⟩, .manyCons hc t⟩
          · exact .inl ⟨rfl, .manyCons hc t⟩
        · exact .inr ⟨j, .inr hj, t⟩
      · rintro (⟨rfl, t⟩ | ⟨j, ⟨rfl, rfl⟩ | hj, t⟩)
        · rcases (hk _).1 t with rfl | ⟨hc, t⟩
          · exact .inl ⟨rfl, by simp⟩
          · exact .inr (.inl ⟨⟨.inr rfl, hc⟩, t⟩)
        · rcases (hk _).1 t with rfl | ⟨hc, t⟩
          · exact .inl ⟨rfl, by simp⟩
          · exact .inr (.inl ⟨⟨.inl rfl, hc⟩, t⟩)
        · exact .inr (.inr ⟨j, hj, t⟩)

theorem mem_keep (p : Cursor → Bool) (ms : Marks) (k : Cursor) :
    (k, true) ∈ keep p ms ↔ (k, true) ∈ ms ∧ p k = true := by
  simp only [keep, List.mem_map, Prod.mk.injEq, Bool.and_eq_true, Prod.exists]
  constructor
  · rintro ⟨j, m, hm, rfl, rfl, hp⟩
    exact ⟨hm, hp⟩
  · rintro ⟨hm, hp⟩
    exact ⟨k, true, hm, rfl, rfl, hp⟩

theorem mem_union {ms ns : Marks} (h : ms.map (·.1) = ns.map (·.1)) (k : Cursor) :
    (k, true) ∈ union ms ns ↔ (k, true) ∈ ms ∨ (k, true) ∈ ns := by
  induction ms generalizing ns with
  | nil => cases ns <;> simp_all [union]
  | cons m ms ih =>
    cases ns with
    | nil => simp at h
    | cons n ns =>
      obtain ⟨i, m⟩ := m
      obtain ⟨j, n⟩ := n
      simp only [List.map_cons, List.cons.injEq] at h
      obtain ⟨rfl, h⟩ := h
      simp only [union, List.mem_cons, Prod.mk.injEq, ih h]
      cases m <;> cases n <;> simp [or_assoc, or_left_comm]

theorem sweep_iff (p : Pattern) {prev : Option Char} {cs : List Char} {ms : Marks}
    (h : ms.map (·.1) = Cursor.places prev cs) (k : Cursor) :
    (k, true) ∈ p.sweep ms ↔ ∃ j, (j, true) ∈ ms ∧ Spans p j k := by
  induction p generalizing ms k with
  | empty =>
    exact ⟨fun hk => ⟨k, hk, .empty k⟩, fun ⟨j, hj, t⟩ => by cases t; exact hj⟩
  | one s => simp [sweep, mem_pastOne h]
  | many s => simp [sweep, mem_pastMany h]
  | boundary =>
    rw [sweep, mem_keep]
    exact ⟨fun ⟨hk, hp⟩ => ⟨k, hk, .boundary hp⟩, fun ⟨j, hj, t⟩ => by
      cases t with
      | boundary hp => exact ⟨hj, hp⟩⟩
  | beginning =>
    rw [sweep, mem_keep, Option.isNone_iff_eq_none]
    exact ⟨fun ⟨hk, hp⟩ => ⟨k, hk, .beginning hp⟩, fun ⟨j, hj, t⟩ => by
      cases t with
      | beginning hp => exact ⟨hj, hp⟩⟩
  | ending =>
    rw [sweep, mem_keep]
    exact ⟨fun ⟨hk, hp⟩ => ⟨k, hk, .ending hp⟩, fun ⟨j, hj, t⟩ => by
      cases t with
      | ending hp => exact ⟨hj, hp⟩⟩
  | seq p q ihp ihq =>
    rw [sweep, ihq (by rw [map_sweep, h])]
    simp only [ihp h]
    constructor
    · rintro ⟨j, ⟨i, hi, s⟩, t⟩
      exact ⟨i, hi, .seq s t⟩
    · rintro ⟨i, hi, t⟩
      cases t with
      | seq s t => exact ⟨_, ⟨i, hi, s⟩, t⟩
  | alt p q ihp ihq =>
    rw [sweep, mem_union (by rw [map_sweep, map_sweep]), ihp h, ihq h]
    constructor
    · rintro (⟨j, hj, t⟩ | ⟨j, hj, t⟩)
      · exact ⟨j, hj, .left t⟩
      · exact ⟨j, hj, .right t⟩
    · rintro ⟨j, hj, t⟩
      cases t with
      | left t => exact .inl ⟨j, hj, t⟩
      | right t => exact .inr ⟨j, hj, t⟩

theorem found_iff (p : Pattern) (cs : List Char) :
    p.found cs = true ↔ ∃ j ∈ Cursor.places none cs, ∃ k, Spans p j k := by
  have h : ((Cursor.places none cs).map (·, true)).map (·.1) = Cursor.places none cs := by
    simp [Function.comp_def]
  have hm (j : Cursor) :
      (j, true) ∈ (Cursor.places none cs).map (·, true) ↔ j ∈ Cursor.places none cs := by simp
  simp only [found, List.any_eq_true, Prod.exists]
  constructor
  · rintro ⟨k, m, hk, rfl⟩
    obtain ⟨j, hj, t⟩ := (sweep_iff p h k).1 hk
    exact ⟨j, (hm j).1 hj, k, t⟩
  · rintro ⟨j, hj, k, t⟩
    exact ⟨k, true, (sweep_iff p h k).2 ⟨j, (hm j).2 hj, t⟩, rfl⟩

end Mend.Pattern
