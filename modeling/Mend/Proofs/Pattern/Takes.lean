import Mend.Proofs.Pattern.Consumption

namespace Mend

theorem Text.isWord_eq_false_of_isBlank {c : Char} (h : isBlank c = true) : isWord c = false := by
  have hall : blankRanges.all (fun r => (List.range' r.1 (r.2 + 1 - r.1)).all
      fun n => !isWord (Char.ofNat n)) = true := by decide +kernel
  obtain ⟨r, hr, hin⟩ := List.any_eq_true.1 h
  rw [Bool.and_eq_true, decide_eq_true_eq, decide_eq_true_eq] at hin
  have hmem : c.toNat ∈ List.range' r.1 (r.2 + 1 - r.1) := by
    rw [List.mem_range'_1]
    omega
  have hc := List.all_eq_true.1 (List.all_eq_true.1 hall r hr) c.toNat hmem
  rwa [Char.ofNat_toNat, Bool.not_eq_true'] at hc

theorem Text.any_isWord_getLast?_append {a gap : List Char} (hgap : gap ≠ [])
    (hblank : ∀ c ∈ gap, isBlank c = true) : (a ++ gap).getLast?.any isWord = false := by
  obtain ⟨init, c, rfl⟩ : ∃ init c, gap = init ++ [c] :=
    ⟨_, _, (List.dropLast_concat_getLast hgap).symm⟩
  rw [← List.append_assoc, List.getLast?_concat]
  exact isWord_eq_false_of_isBlank (hblank c List.mem_concat_self)

def Cursor.between (a b : List Char) : Cursor := ⟨a.getLast?, b⟩

theorem Cursor.atBoundary_between_cons {a b : List Char} {c : Char} (hc : Text.isWord c = true) :
    (between a (c :: b)).atBoundary = true ↔ a.getLast?.any Text.isWord = false := by
  have hafter : (between a (c :: b)).wordAfter = true := hc
  rw [atBoundary, hafter, bne_iff_ne, ne_eq, Bool.not_eq_true]
  rfl

theorem Cursor.mem_places {prev : Option Char} {cs : List Char} {k : Cursor} :
    k ∈ places prev cs ↔ ∃ a b, cs = a ++ b ∧ k = ⟨a.getLast?.or prev, b⟩ := by
  induction cs generalizing prev with
  | nil =>
    rw [places, List.mem_singleton]
    constructor
    · rintro rfl
      exact ⟨[], [], rfl, rfl⟩
    · rintro ⟨a, b, hcs, rfl⟩
      obtain ⟨rfl, rfl⟩ := List.append_eq_nil_iff.1 hcs.symm
      rfl
  | cons c cs ih =>
    rw [places, List.mem_cons, ih]
    constructor
    · rintro (rfl | ⟨a, b, rfl, rfl⟩)
      · exact ⟨[], c :: cs, rfl, rfl⟩
      · refine ⟨c :: a, b, rfl, ?_⟩
        rw [List.getLast?_cons]
        cases a.getLast? <;> rfl
    · rintro ⟨a, b, hcs, rfl⟩
      cases a with
      | nil => exact .inl (by rw [hcs]; rfl)
      | cons d a =>
        obtain ⟨rfl, rfl⟩ := List.cons.inj hcs
        refine .inr ⟨a, b, rfl, ?_⟩
        rw [List.getLast?_cons]
        cases a.getLast? <;> rfl

theorem Cursor.mem_places_none {cs : List Char} {k : Cursor} :
    k ∈ places none cs ↔ ∃ a b, cs = a ++ b ∧ k = between a b := by
  simp only [mem_places, Option.or_none, between]

namespace Pattern

def Takes (p : Pattern) (a w b : List Char) : Prop :=
  Spans p (.between a (w ++ b)) (.between (a ++ w) b)

section
variable {p q : Pattern} {s : CharSet} {c : Char} {cs a b w : List Char} {ps : List Pattern}

theorem Spans.exists_takes {i k : Cursor} (h : Spans p i k) (hi : i = .between a b) :
    ∃ w rest, b = w ++ rest ∧ k = .between (a ++ w) rest := by
  -- matches that take nothing
  have hstay {a b : List Char} : ∃ w rest, b = w ++ rest ∧
      Cursor.between a b = .between (a ++ w) rest := ⟨[], b, rfl, by rw [List.append_nil]⟩
  induction h generalizing a b with
  | empty _ => exact hi ▸ hstay
  | @one s c prev cs _ =>
    cases hi
    exact ⟨[c], cs, rfl, by simp [Cursor.between]⟩
  | manyNil _ _ => exact hi ▸ hstay
  | @manyCons s c prev cs k _ _ ih =>
    cases hi
    obtain ⟨w, rest, rfl, rfl⟩ := ih (a := a ++ [c]) (b := cs) (by simp [Cursor.between])
    exact ⟨c :: w, rest, rfl, by rw [List.append_assoc]; rfl⟩
  | boundary _ => exact hi ▸ hstay
  | beginning _ => exact hi ▸ hstay
  | ending _ => exact hi ▸ hstay
  | seq _ _ ihs iht =>
    obtain ⟨u, rest, rfl, hj⟩ := ihs hi
    obtain ⟨v, rest', rfl, rfl⟩ := iht hj
    exact ⟨u ++ v, rest', by rw [List.append_assoc], by rw [List.append_assoc]⟩
  | left _ ih => exact ih hi
  | right _ ih => exact ih hi

theorem found_iff_takes : p.found cs = true ↔ ∃ a w b, cs = a ++ (w ++ b) ∧ p.Takes a w b := by
  rw [found_iff]
  constructor
  · rintro ⟨j, hj, k, h⟩
    obtain ⟨a, rest, rfl, rfl⟩ := Cursor.mem_places_none.1 hj
    obtain ⟨w, b, rfl, rfl⟩ := h.exists_takes rfl
    exact ⟨a, w, b, rfl, h⟩
  · rintro ⟨a, w, b, rfl, h⟩
    exact ⟨_, Cursor.mem_places_none.2 ⟨a, w ++ b, rfl, rfl⟩, _, h⟩

theorem takes_iff_of_stays (test : Cursor → Prop) (hp : ∀ {i k}, Spans p i k ↔ i = k ∧ test i) :
    p.Takes a w b ↔ w = [] ∧ test (.between a b) := by
  rw [Takes, hp]
  constructor
  · rintro ⟨hplace, htest⟩
    have hrest : w ++ b = b := congrArg Cursor.rest hplace
    obtain rfl : w = [] := by simpa using hrest
    exact ⟨rfl, htest⟩
  · rintro ⟨rfl, htest⟩
    exact ⟨by rw [List.append_nil]; rfl, htest⟩

theorem takes_empty : Takes .empty a w b ↔ w = [] := by
  have hp {i k : Cursor} : Spans .empty i k ↔ i = k ∧ True := by
    constructor
    · intro h
      cases h
      exact ⟨rfl, trivial⟩
    · rintro ⟨rfl, -⟩
      exact .empty i
  rw [takes_iff_of_stays (fun _ => True) hp, and_true]

theorem takes_boundary :
    Takes .boundary a w b ↔ w = [] ∧ (Cursor.between a b).atBoundary = true := by
  apply takes_iff_of_stays fun i => i.atBoundary = true
  intro i k
  constructor
  · intro h
    cases h with
    | boundary h => exact ⟨rfl, h⟩
  · rintro ⟨rfl, h⟩
    exact .boundary h

theorem takes_one : Takes (.one s) a w b ↔ ∃ c, w = [c] ∧ s.has c = true := by
  constructor
  · intro h
    rw [Takes] at h
    generalize hi : Cursor.between a (w ++ b) = i at h
    generalize hk : Cursor.between (a ++ w) b = k at h
    cases h with
    | @one _ c prev cs hc =>
      have hrest : w ++ b = [c] ++ cs := congrArg Cursor.rest hi
      have hb : b = cs := congrArg Cursor.rest hk
      rw [hb] at hrest
      exact ⟨c, List.append_cancel_right hrest, hc⟩
  · rintro ⟨c, rfl, hc⟩
    have hk : Cursor.between (a ++ [c]) b = ⟨some c, b⟩ := by simp [Cursor.between]
    rw [Takes, hk]
    exact .one _ _ hc

theorem takes_many : Takes (.many s) a w b ↔ ∀ c ∈ w, s.has c = true := by
  induction w generalizing a with
  | nil =>
    refine iff_of_true ?_ fun _ h => nomatch h
    rw [Takes, List.append_nil]
    exact .manyNil s _
  | cons c w ih =>
    have hk : Cursor.between (a ++ [c]) (w ++ b) = ⟨some c, w ++ b⟩ := by simp [Cursor.between]
    rw [List.forall_mem_cons, ← ih (a := a ++ [c]), Takes, Takes, hk, List.append_assoc]
    constructor
    · intro h
      generalize hi : Cursor.between a (c :: w ++ b) = i at h
      generalize hj : Cursor.between (a ++ c :: w) b = j at h
      cases h with
      | manyNil =>
        have hrest : c :: w ++ b = b := congrArg Cursor.rest (hi.trans hj.symm)
        exact absurd (List.append_left_eq_self.1 hrest) (List.cons_ne_nil c w)
      | @manyCons _ d prev cs _ hd t =>
        obtain ⟨rfl, rfl⟩ : c = d ∧ w ++ b = cs := List.cons.inj (congrArg Cursor.rest hi)
        exact ⟨hd, hj ▸ t⟩
    · rintro ⟨hc, t⟩
      exact .manyCons hc t

theorem takes_seq : Takes (.seq p q) a w b ↔
    ∃ u v, w = u ++ v ∧ p.Takes a u (v ++ b) ∧ q.Takes (a ++ u) v b := by
  constructor
  · intro h
    rw [Takes] at h
    generalize hk : Cursor.between (a ++ w) b = k at h
    cases h with
    | seq s t =>
      obtain ⟨u, rest, hw, rfl⟩ := s.exists_takes rfl
      obtain ⟨v, b', rfl, rfl⟩ := t.exists_takes rfl
      obtain rfl : b = b' := congrArg Cursor.rest hk
      rw [← List.append_assoc] at hw
      obtain rfl := List.append_cancel_right hw
      rw [List.append_assoc] at s
      exact ⟨u, v, rfl, s, t⟩
  · rintro ⟨u, v, rfl, s, t⟩
    rw [Takes, List.append_assoc] at t
    rw [Takes, List.append_assoc]
    exact .seq s t

theorem takes_alt : Takes (.alt p q) a w b ↔ p.Takes a w b ∨ q.Takes a w b := by
  constructor
  · intro h
    cases h with
    | left h => exact .inl h
    | right h => exact .inr h
  · rintro (h | h)
    · exact .left h
    · exact .right h

theorem takes_all_nil : Takes (all []) a w b ↔ w = [] := takes_empty

theorem takes_all_cons : Takes (all (p :: ps)) a w b ↔
    ∃ u v, w = u ++ v ∧ p.Takes a u (v ++ b) ∧ (all ps).Takes (a ++ u) v b := by
  cases ps with
  | nil =>
    simp only [all, takes_empty]
    constructor
    · exact fun h => ⟨w, [], (List.append_nil w).symm, h, rfl⟩
    · rintro ⟨u, v, rfl, h, rfl⟩
      rwa [List.append_nil]
  | cons q ps => exact takes_seq

theorem takes_any (h : ps ≠ []) : Takes (any ps) a w b ↔ ∃ p ∈ ps, p.Takes a w b := by
  induction ps with
  | nil => exact absurd rfl h
  | cons p ps ih =>
    cases ps with
    | nil => simp [any]
    | cons q ps =>
      have hany : any (p :: q :: ps) = .alt p (any (q :: ps)) := rfl
      rw [hany, takes_alt, ih (List.cons_ne_nil q ps)]
      simp

theorem takes_exactly : Takes (exactly cs) a w b ↔ w = cs := by
  induction cs generalizing a w with
  | nil => exact takes_empty
  | cons c cs ih =>
    rw [exactly, List.map_cons, takes_all_cons]
    constructor
    · rintro ⟨u, v, rfl, hu, hv⟩
      obtain ⟨d, rfl, hd⟩ := takes_one.1 hu
      obtain rfl : d = c := eq_of_beq hd
      rw [ih.1 hv]
      rfl
    · rintro rfl
      exact ⟨[c], cs, rfl, takes_one.2 ⟨c, rfl, beq_self_eq_true c⟩, ih.2 rfl⟩

theorem takes_someBlanks :
    Takes someBlanks a w b ↔ w ≠ [] ∧ ∀ c ∈ w, Text.isBlank c = true := by
  rw [someBlanks, takes_seq]
  constructor
  · rintro ⟨u, v, rfl, hu, hv⟩
    obtain ⟨c, rfl, hc⟩ := takes_one.1 hu
    exact ⟨List.cons_ne_nil c v, List.forall_mem_cons.2 ⟨hc, takes_many.1 hv⟩⟩
  · rintro ⟨hne, hblank⟩
    cases w with
    | nil => exact absurd rfl hne
    | cons c w =>
      rw [List.forall_mem_cons] at hblank
      exact ⟨[c], w, rfl, takes_one.2 ⟨c, rfl, hblank.1⟩, takes_many.2 hblank.2⟩

theorem takes_phrase {s : String} :
    (phrase s).Takes a w b ↔ w.map Text.foldChar = s.toList.map Text.foldChar := by
  rw [phrase]
  induction s.toList generalizing a w with
  | nil => rw [List.map_nil, List.map_nil, List.map_eq_nil_iff, takes_all_nil]
  | cons c cs ih =>
    rw [List.map_cons, List.map_cons, takes_all_cons, List.map_eq_cons_iff]
    constructor
    · rintro ⟨u, v, rfl, hu, hv⟩
      obtain ⟨x, rfl, hx⟩ := takes_one.1 hu
      have hfold : Text.foldChar c = Text.foldChar x := eq_of_beq hx
      exact ⟨x, v, rfl, hfold.symm, ih.1 hv⟩
    · rintro ⟨x, v, rfl, hx, hv⟩
      exact ⟨[x], v, rfl, takes_one.2 ⟨x, rfl, beq_iff_eq.2 hx.symm⟩, ih.2 hv⟩

theorem takes_all_boundary : Takes (all (.boundary :: ps)) a w b ↔
    (Cursor.between a (w ++ b)).atBoundary = true ∧ (all ps).Takes a w b := by
  rw [takes_all_cons]
  constructor
  · rintro ⟨u, v, rfl, hu, hv⟩
    obtain ⟨rfl, hboundary⟩ := takes_boundary.1 hu
    rw [List.append_nil] at hv
    exact ⟨hboundary, hv⟩
  · rintro ⟨hboundary, h⟩
    refine ⟨[], w, rfl, takes_boundary.2 ⟨rfl, hboundary⟩, ?_⟩
    rwa [List.append_nil]

theorem takes_all_exactly : Takes (all (exactly cs :: ps)) a w b ↔
    ∃ v, w = cs ++ v ∧ (all ps).Takes (a ++ cs) v b := by
  rw [takes_all_cons]
  constructor
  · rintro ⟨u, v, rfl, hu, hv⟩
    rw [takes_exactly.1 hu] at hv ⊢
    exact ⟨v, rfl, hv⟩
  · rintro ⟨v, rfl, hv⟩
    exact ⟨cs, v, rfl, takes_exactly.2 rfl, hv⟩

theorem takes_all_only : Takes (all (.one (.only c) :: ps)) a w b ↔
    ∃ v, w = c :: v ∧ (all ps).Takes (a ++ [c]) v b := by
  have hone : Pattern.one (.only c) = exactly [c] := rfl
  rw [hone, takes_all_exactly]
  rfl

theorem takes_all_blanks : Takes (all (blanks :: ps)) a w b ↔
    ∃ gap v, w = gap ++ v ∧ (∀ c ∈ gap, Text.isBlank c = true) ∧
      (all ps).Takes (a ++ gap) v b := by
  rw [takes_all_cons]
  simp only [blanks, takes_many]
  rfl

theorem takes_all_someBlanks : Takes (all (someBlanks :: ps)) a w b ↔
    ∃ gap v, w = gap ++ v ∧ (gap ≠ [] ∧ ∀ c ∈ gap, Text.isBlank c = true) ∧
      (all ps).Takes (a ++ gap) v b := by
  rw [takes_all_cons]
  simp only [takes_someBlanks]

end

end Pattern

end Mend
