import Mend.Proofs.Pattern.Takes
import Mend.Proofs.Strategy.Blocks

namespace Mend.Strategy.Unreachable

open Brackets Pattern

def endingWords : List (List Char) := ["return".toList, "throw".toList, "break".toList]

def EndsFlow (line : Line) : Prop :=
  ∃ before, ∃ word ∈ endingWords, ∃ after, line = before ++ (word ++ after) ∧
    before.getLast?.any Text.isWord = false ∧ after.head?.any Text.isWord = false

/-- The line at a place is blank, and the lines up to it leave no brace open when `n` were open
before them. -/
def Pauses (n : Int) (ls : List Line) (i : Nat) : Prop :=
  ∃ line, ls[i]? = some line ∧ (∀ c ∈ line, Text.isBlank c = true) ∧ n + total (ls.take (i + 1)) ≤ 0

def Leaves (ls : List Line) (i : Nat) : Prop := ∃ line, ls[i]? = some line ∧ EndsFlow line

def Stops (n : Int) (ls : List Line) (i : Nat) : Prop := Pauses n ls i ∨ Leaves ls i

structure FirstStop (n : Int) (ls : List Line) (i : Nat) : Prop where
  stops : Stops n ls i
  earlier : ∀ j < i, ¬ Stops n ls j

/-- How many of the lines go: those above a blank one that is the first to stop, or those up to and
including one that ends the flow of control. -/
inductive Goes (n : Int) (ls : List Line) : Nat → Prop
  | pause {i : Nat} (hfirst : FirstStop n ls i) (h : Pauses n ls i) : Goes n ls i
  | leave {i : Nat} (hfirst : FirstStop n ls i) (h : Leaves ls i) : Goes n ls (i + 1)

section
variable {n m : Int} {i j k : Nat} {ls : List Line} {line : Line} {a w b : List Char}

theorem atBoundary_between_concat {c : Char} (hc : Text.isWord c = true) :
    (Cursor.between (a ++ [c]) b).atBoundary = true ↔ b.head?.any Text.isWord = false := by
  have hbefore : (Cursor.between (a ++ [c]) b).wordBefore = true := by
    rwa [Cursor.wordBefore, Cursor.between, List.getLast?_concat]
  rw [Cursor.atBoundary, hbefore, bne_iff_ne, ne_eq, Bool.true_eq, Bool.not_eq_true]
  rfl

theorem takes_ending : ending.Takes a w b ↔
    w ∈ endingWords ∧ a.getLast?.any Text.isWord = false ∧ b.head?.any Text.isWord = false := by
  have hword {a w b : List Char} :
      (any [.word "return", .word "throw", .word "break"]).Takes a w b ↔ w ∈ endingWords := by
    rw [takes_any (List.cons_ne_nil _ _)]
    simp [word, takes_exactly, endingWords]
  -- every one of the words begins and ends with a letter
  have hedges {w : List Char} (hw : w ∈ endingWords) :
      ((Cursor.between a (w ++ b)).atBoundary = true ↔ a.getLast?.any Text.isWord = false) ∧
      ((Cursor.between (a ++ w) b).atBoundary = true ↔ b.head?.any Text.isWord = false) := by
    obtain ⟨c, rest, init, d, hfirst, hlast, hc, hd⟩ : ∃ c rest init d, w = c :: rest ∧
        w = init ++ [d] ∧ Text.isWord c = true ∧ Text.isWord d = true := by
      simp only [endingWords, List.mem_cons, List.not_mem_nil, or_false] at hw
      rcases hw with rfl | rfl | rfl
      · exact ⟨'r', "eturn".toList, "retur".toList, 'n', rfl, rfl, rfl, rfl⟩
      · exact ⟨'t', "hrow".toList, "thro".toList, 'w', rfl, rfl, rfl, rfl⟩
      · exact ⟨'b', "reak".toList, "brea".toList, 'k', rfl, rfl, rfl, rfl⟩
    constructor
    · rw [hfirst, List.cons_append, Cursor.atBoundary_between_cons hc]
    · rw [hlast, ← List.append_assoc, atBoundary_between_concat hd]
  rw [ending, takes_all_boundary, takes_all_cons]
  constructor
  · rintro ⟨hbefore, u, v, rfl, hu, hv⟩
    obtain ⟨rfl, hafter⟩ := takes_boundary.1 hv
    have hmem := hword.1 hu
    rw [List.append_nil] at hbefore ⊢
    exact ⟨hmem, (hedges hmem).1.1 hbefore, (hedges hmem).2.1 hafter⟩
  · rintro ⟨hmem, hbefore, hafter⟩
    exact ⟨(hedges hmem).1.2 hbefore, w, [], (List.append_nil w).symm, hword.2 hmem,
      takes_boundary.2 ⟨rfl, (hedges hmem).2.2 hafter⟩⟩

theorem found_ending_iff : ending.found line = true ↔ EndsFlow line := by
  simp only [found_iff_takes, takes_ending, EndsFlow]
  constructor
  · rintro ⟨a, w, b, hline, hw, hbefore, hafter⟩
    exact ⟨a, w, hw, b, hline, hbefore, hafter⟩
  · rintro ⟨a, w, hw, b, hline, hbefore, hafter⟩
    exact ⟨a, w, b, hline, hw, hbefore, hafter⟩

theorem pauses_zero_iff : Pauses n (line :: ls) 0 ↔
    (n + balance line ≤ 0 ∧ isBlankLine line = true) := by
  simp [Pauses, isBlankLine_iff, total, and_comm]

theorem pauses_succ_iff : Pauses n (line :: ls) (i + 1) ↔ Pauses (n + balance line) ls i := by
  simp only [Pauses, List.getElem?_cons_succ, List.take_succ_cons, total, Int.add_assoc]

theorem leaves_zero_iff : Leaves (line :: ls) 0 ↔ ending.found line = true := by
  simp [Leaves, found_ending_iff]

theorem leaves_succ_iff : Leaves (line :: ls) (i + 1) ↔ Leaves ls i := Iff.rfl

theorem stops_succ_iff : Stops n (line :: ls) (i + 1) ↔ Stops (n + balance line) ls i :=
  or_congr pauses_succ_iff leaves_succ_iff

theorem firstStop_zero (h : Stops n ls 0) : FirstStop n ls 0 := ⟨h, nofun⟩

theorem FirstStop.cons (hline : ¬ Stops n (line :: ls) 0) (h : FirstStop (n + balance line) ls i) :
    FirstStop n (line :: ls) (i + 1) where
  stops := stops_succ_iff.2 h.stops
  earlier := by
    intro j hj
    cases j with
    | zero => exact hline
    | succ j => exact mt stops_succ_iff.1 (h.earlier j (Nat.lt_of_succ_lt_succ hj))

theorem Goes.cons (hline : ¬ Stops n (line :: ls) 0) (h : Goes (n + balance line) ls k) :
    Goes n (line :: ls) (k + 1) := by
  cases h with
  | pause hfirst h => exact .pause (hfirst.cons hline) (pauses_succ_iff.2 h)
  | leave hfirst h => exact .leave (hfirst.cons hline) h

theorem FirstStop.eq (hi : FirstStop n ls i) (hj : FirstStop n ls j) : i = j := by
  rcases Nat.lt_trichotomy i j with h | h | h
  · exact absurd hi.stops (hj.earlier i h)
  · exact h
  · exact absurd hj.stops (hi.earlier j h)

theorem extent?_cases (n : Int) (ls : List Line) :
    (∃ k, extent? n ls = some k ∧ Goes n ls k) ∨ (extent? n ls = none ∧ ∀ i, ¬ Stops n ls i) := by
  induction ls generalizing n with
  | nil =>
    refine .inr ⟨rfl, fun i => ?_⟩
    rintro (⟨line, hline, -⟩ | ⟨line, hline, -⟩)
    · cases hline
    · cases hline
  | cons line ls ih =>
    rw [extent?]
    by_cases hpause : n + balance line ≤ 0 ∧ isBlankLine line = true
    · have h : Pauses n (line :: ls) 0 := pauses_zero_iff.2 hpause
      rw [if_pos hpause]
      exact .inl ⟨0, rfl, .pause (firstStop_zero (.inl h)) h⟩
    · rw [if_neg hpause]
      by_cases hleave : ending.found line = true
      · have h : Leaves (line :: ls) 0 := leaves_zero_iff.2 hleave
        rw [if_pos hleave]
        exact .inl ⟨1, rfl, .leave (firstStop_zero (.inr h)) h⟩
      · have hline : ¬ Stops n (line :: ls) 0 :=
          not_or.2 ⟨mt pauses_zero_iff.1 hpause, mt leaves_zero_iff.1 hleave⟩
        rw [if_neg hleave]
        obtain ⟨k, hk, hgoes⟩ | ⟨hnone, hno⟩ := ih (n + balance line)
        · exact .inl ⟨k + 1, by rw [hk]; rfl, hgoes.cons hline⟩
        · refine .inr ⟨by rw [hnone]; rfl, fun i => ?_⟩
          cases i with
          | zero => exact hline
          | succ i => exact mt stops_succ_iff.1 (hno i)

theorem Leaves.not_pauses (h : Leaves ls i) : ¬ Pauses n ls i := by
  obtain ⟨line, hline, before, word, hword, after, hwords, -⟩ := h
  rintro ⟨line', hline', hblank, -⟩
  obtain rfl := Option.some.inj (hline.symm.trans hline')
  rw [hwords] at hblank
  have hall : ∀ c ∈ word, Text.isBlank c = true := fun c hc =>
    hblank c (List.mem_append_right _ (List.mem_append_left after hc))
  simp only [endingWords, List.mem_cons, List.not_mem_nil, or_false] at hword
  rcases hword with rfl | rfl | rfl
  all_goals exact absurd (hall _ List.mem_cons_self) (by decide)

theorem Goes.not_leaves (h : Goes n ls k) (hj : j + 1 < k) : ¬ Leaves ls j := by
  cases h with
  | pause hfirst _ => exact fun h => hfirst.earlier j (Nat.lt_of_succ_lt hj) (.inr h)
  | leave hfirst _ => exact fun h => hfirst.earlier j (Nat.lt_of_succ_lt_succ hj) (.inr h)

theorem Goes.not_pauses (h : Goes n ls k) (hj : j < k) : ¬ Pauses n ls j := by
  cases h with
  | pause hfirst _ => exact fun h => hfirst.earlier j hj (.inl h)
  | leave hfirst h =>
    obtain hj | rfl := Nat.lt_or_eq_of_le (Nat.le_of_lt_succ hj)
    · exact fun h => hfirst.earlier j hj (.inl h)
    · exact h.not_pauses

theorem FirstStop.exists_goes (h : FirstStop n ls i) : ∃ k, Goes n ls k :=
  h.stops.elim (fun hpauses => ⟨i, .pause h hpauses⟩) fun hleaves => ⟨i + 1, .leave h hleaves⟩

theorem Goes.exists_firstStop (h : Goes n ls k) : ∃ i, FirstStop n ls i := by
  cases h with
  | pause hfirst _ => exact ⟨_, hfirst⟩
  | leave hfirst _ => exact ⟨_, hfirst⟩

theorem Goes.le_length (h : Goes n ls k) : k ≤ ls.length := by
  cases h with
  | pause _ h =>
    obtain ⟨line, hline, -⟩ := h
    exact Nat.le_of_lt (List.getElem?_eq_some_iff.1 hline).1
  | leave _ h =>
    obtain ⟨line, hline, -⟩ := h
    exact (List.getElem?_eq_some_iff.1 hline).1

theorem Goes.pos_iff (h : Goes n ls k) :
    0 < k ↔ ∃ i, FirstStop n ls i ∧ ¬ (i = 0 ∧ Pauses n ls 0) := by
  cases h with
  | pause hfirst h =>
    constructor
    · exact fun hpos => ⟨k, hfirst, fun hzero => Nat.ne_of_gt hpos hzero.1⟩
    · rintro ⟨j, hj, hno⟩
      obtain rfl := hj.eq hfirst
      refine Nat.pos_of_ne_zero fun hzero => hno ⟨hzero, ?_⟩
      rwa [hzero] at h
  | @leave i hfirst h =>
    refine iff_of_true i.succ_pos ⟨i, hfirst, ?_⟩
    rintro ⟨rfl, hpauses⟩
    exact h.not_pauses hpauses

end

def removal (content : String) (s k : Nat) : Attempt :=
  .fixed (Lines.toText ((Lines.ofText content).take s ++ (Lines.ofText content).drop (s + k)))
    "Removed unreachable code"
    [{ kind := .delete, line := some (s + 1), endLine := some (s + k),
       text := some "unreachable code block" }]

theorem attempt_of_line {d : Diagnostic} {content : String} {before after : List Line} {line : Line}
    (hls : Lines.ofText content = before ++ line :: after) (hline : d.line = before.length + 1) :
    attempt d content = match extent? 0 (line :: after) with
      | none => .decline reason
      | some 0 => .decline reason
      | some k => removal content before.length k := by
  rw [attempt, hls, Edit.index?_append hline]
  simp only [List.drop_left]
  cases extent? 0 (line :: after) with
  | none => rfl
  | some k =>
    cases k with
    | zero => rfl
    | succ k => simp only [removal, hls]

theorem attempt_cases (d : Diagnostic) (content : String) :
    (∃ s k : Nat, d.line = s + 1 ∧ s < (Lines.ofText content).length ∧
      Goes 0 ((Lines.ofText content).drop s) k ∧ 0 < k ∧ attempt d content = removal content s k) ∨
    (attempt d content = .decline reason ∧
      ∀ s : Nat, d.line = s + 1 → s < (Lines.ofText content).length →
        ∀ k, Goes 0 ((Lines.ofText content).drop s) k → k = 0) := by
  by_cases hreported : ∃ s : Nat, d.line = s + 1 ∧ s < (Lines.ofText content).length
  · obtain ⟨s, hline, hs⟩ := hreported
    obtain ⟨before, line, after, hls, rfl⟩ := split_at hs
    have hattempt := attempt_of_line hls hline
    have hdrop : (Lines.ofText content).drop before.length = line :: after := by
      rw [hls, List.drop_left]
    have hplace {s : Nat} (h : d.line = s + 1) : s = before.length := by omega
    obtain ⟨k, hk, hgoes⟩ | ⟨hnone, hno⟩ := extent?_cases 0 (line :: after)
    · rw [hk] at hattempt
      cases k with
      | zero =>
        refine .inr ⟨hattempt, fun s hline _ k h => ?_⟩
        rw [hplace hline, hdrop] at h
        exact Nat.eq_zero_of_not_pos fun hpos =>
          absurd (hgoes.pos_iff.2 (h.pos_iff.1 hpos)) (Nat.lt_irrefl 0)
      | succ k =>
        exact .inl ⟨before.length, k + 1, hline, hs, by rwa [hdrop], k.succ_pos, hattempt⟩
    · rw [hnone] at hattempt
      refine .inr ⟨hattempt, fun s hline _ k h => ?_⟩
      rw [hplace hline, hdrop] at h
      obtain ⟨i, hi⟩ := h.exists_firstStop
      exact absurd hi.stops (hno i)
  · have hindex : Lines.index? d.line (Lines.ofText content) = none := by
      rw [Lines.index?, if_neg]
      exact fun h => hreported ⟨(d.line - 1).toNat, by omega, by omega⟩
    refine .inr ⟨by rw [attempt, hindex], fun s hline hs => ?_⟩
    exact absurd ⟨s, hline, hs⟩ hreported

/-- Unreachable code is removed when the reported line exists and some line from there on stops the
search, unless this is at once a blank one. The lines that go end above the first such line if it is
blank, and with it if it ends the flow of control. -/
theorem attempt_stops (tree : FileTree) (d : Diagnostic) (content : String)
    (context : Option Context) :
    let lines := Lines.ofText content
    ∃ a, unreachable.attempt tree d content context = .ok a ∧
      ((∃ text summary es, a = .fixed text summary es) ∨ a = .decline reason) ∧
      ((∃ text summary es, a = .fixed text summary es) ↔
        ∃ s i : Nat, d.line = s + 1 ∧ s < lines.length ∧ FirstStop 0 (lines.drop s) i ∧
          ¬ (i = 0 ∧ Pauses 0 (lines.drop s) 0)) ∧
      ∀ text summary es, a = .fixed text summary es → ∃ s k : Nat, d.line = s + 1 ∧
        Goes 0 (lines.drop s) k ∧ 0 < k ∧ s + k ≤ lines.length ∧
        text = Lines.toText (lines.take s ++ lines.drop (s + k)) ∧
        es = [{ kind := .delete, line := some (s + 1), endLine := some (s + k),
                text := some "unreachable code block" }] ∧
        (∀ j, j + 1 < k → ¬ Leaves (lines.drop s) j) ∧ ∀ j < k, ¬ Pauses 0 (lines.drop s) j := by
  intro lines
  refine ⟨attempt d content, rfl, ?_⟩
  obtain ⟨s, k, hline, hs, hgoes, hk, hattempt⟩ | ⟨hattempt, hno⟩ := attempt_cases d content
  · have hfixed : ∃ text summary es, attempt d content = .fixed text summary es := ⟨_, _, _, hattempt⟩
    obtain ⟨i, hi, hpause⟩ := hgoes.pos_iff.1 hk
    refine ⟨.inl hfixed, iff_of_true hfixed ⟨s, i, hline, hs, hi, hpause⟩, ?_⟩
    intro text summary es h
    rw [hattempt] at h
    cases h
    have hle : s + k ≤ (Lines.ofText content).length := by
      have hlen := hgoes.le_length
      rw [List.length_drop] at hlen
      omega
    exact ⟨s, k, hline, hgoes, hk, hle, rfl, rfl, fun j hj => hgoes.not_leaves hj,
      fun j hj => hgoes.not_pauses hj⟩
  · have hdeclined : ¬ ∃ text summary es, attempt d content = .fixed text summary es := by
      rintro ⟨text, summary, es, h⟩
      cases hattempt.symm.trans h
    refine ⟨.inr hattempt, iff_of_false hdeclined ?_, fun text summary es h => ?_⟩
    · rintro ⟨s, i, hline, hs, hi, hpause⟩
      obtain ⟨k, hgoes⟩ := hi.exists_goes
      exact Nat.ne_of_gt (hgoes.pos_iff.2 ⟨i, hi, hpause⟩) (hno s hline hs k hgoes)
    · exact absurd ⟨text, summary, es, h⟩ hdeclined

end Mend.Strategy.Unreachable
