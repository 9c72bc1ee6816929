import Mend.Proofs.Strategy.Balance
import Mend.Proofs.Text.Trimming

/-! Blocks around unreachable code. The lines that go end before a blank line at which no brace
opened among them is open, or with a line that ends the flow of control, however deep that line
stands. In the first case they close at least as many braces as they open, so that a block is cut
open only by closing a brace from outside; in the second case they may leave blocks open, too. -/

namespace Mend.Strategy

namespace Brackets

theorem balance_append (cs ds : List Char) : balance (cs ++ ds) = balance cs + balance ds := by
  simp only [balance, List.count_append]
  omega

theorem balance_join (ls : List Line) : balance (Lines.join '\n' ls) = total ls := by
  induction ls with
  | nil => rfl
  | cons l ls ih =>
    cases ls with
    | nil => simp [Lines.join, total]
    | cons m ls =>
      have hnewline (cs : List Char) : balance ('\n' :: cs) = balance cs := by simp [balance]
      rw [Lines.join, balance_append, hnewline, ih]
      · rfl
      · exact List.cons_ne_nil m ls

end Brackets

namespace Unreachable

open Brackets

/-- No part of the text that begins at its beginning closes more braces than it opens. -/
def NeverBelow (cs : List Char) : Prop := ∀ p, p <+: cs → 0 ≤ balance p

structure KeepsBlocks (content text : String) (gone : List Line) : Prop where
  balanced : balance (Lines.join '\n' gone) = 0
  neverBelow : NeverBelow (Lines.join '\n' gone)
  balance_eq : balance text.toList = balance content.toList

/-- Lines that do not stop the search when `n` braces are open before them: none ends the flow of
control, and every blank one stands between braces. -/
def PassedOver (n : Int) (ls : List Line) : Prop :=
  ∀ before line after, ls = before ++ line :: after →
    ending.found line = false ∧ (isBlankLine line = true → 0 < n + total (before ++ [line]))

/-- The lines that go and those that are left behind them, when `n` braces are open before. -/
inductive Extent (n : Int) : List Line → List Line → Prop
  | blank {gone after : List Line} {line : Line} (hpassed : PassedOver n gone)
    (hblank : isBlankLine line = true) (hopen : n + total gone ≤ 0) :
    Extent n gone (line :: after)
  | last {init after : List Line} {line : Line} (hpassed : PassedOver n init)
    (hending : ending.found line = true) : Extent n (init ++ [line]) after

section
variable {n : Int} {k : Nat} {ls gone after : List Line} {line : Line}

theorem isBlankLine_iff : isBlankLine line = true ↔ ∀ c ∈ line, Text.isBlank c = true := by
  rw [isBlankLine, List.isEmpty_iff, Text.trim_eq_nil_iff]

theorem balance_of_isBlankLine (h : isBlankLine line = true) : balance line = 0 := by
  have hnot {c : Char} (hc : Text.isBlank c = false) : line.count c = 0 := by
    rw [List.count_eq_zero]
    intro hmem
    rw [isBlankLine_iff.1 h c hmem] at hc
    cases hc
  rw [balance, hnot (by decide), hnot (by decide)]
  rfl

theorem passedOver_nil : PassedOver n [] := by
  intro before line after h
  cases before <;> cases h

theorem PassedOver.cons (hline : ending.found line = false)
    (hopen : isBlankLine line = true → 0 < n + balance line)
    (h : PassedOver (n + balance line) ls) : PassedOver n (line :: ls) := by
  intro before m after hsplit
  cases before with
  | nil =>
    obtain ⟨rfl, -⟩ := List.cons.inj hsplit
    refine ⟨hline, fun hblank => ?_⟩
    simpa [total] using hopen hblank
  | cons l before =>
    obtain ⟨rfl, rfl⟩ := List.cons.inj hsplit
    obtain ⟨hfound, hdepth⟩ := h before m after rfl
    refine ⟨hfound, fun hblank => ?_⟩
    rw [List.cons_append, total, ← Int.add_assoc]
    exact hdepth hblank

theorem Extent.cons (hline : ending.found line = false)
    (hopen : isBlankLine line = true → 0 < n + balance line)
    (h : Extent (n + balance line) gone after) : Extent n (line :: gone) after := by
  cases h with
  | blank hpassed hblank hdepth =>
    refine .blank (hpassed.cons hline hopen) hblank ?_
    rwa [total, ← Int.add_assoc]
  | last hpassed hending => exact .last (hpassed.cons hline hopen) hending

theorem exists_extent (h : extent? n ls = some k) :
    ∃ gone after, ls = gone ++ after ∧ gone.length = k ∧ Extent n gone after := by
  induction ls generalizing n k with
  | nil => cases h
  | cons l ls ih =>
    rw [extent?] at h
    split at h
    · rename_i hstop
      cases h
      refine ⟨[], l :: ls, rfl, rfl, .blank passedOver_nil hstop.2 ?_⟩
      have hdepth := hstop.1
      rw [balance_of_isBlankLine hstop.2] at hdepth
      simpa [total] using hdepth
    · rename_i hgoes
      split at h
      · rename_i hending
        cases h
        have hlast : Extent n ([] ++ [l]) ls := .last passedOver_nil hending
        exact ⟨[l], ls, rfl, rfl, hlast⟩
      · rename_i hending
        obtain ⟨m, hm, rfl⟩ := Option.map_eq_some_iff.1 h
        obtain ⟨gone, after, rfl, rfl, hextent⟩ := ih hm
        refine ⟨l :: gone, after, rfl, rfl, hextent.cons (Bool.eq_false_iff.2 hending) ?_⟩
        intro hblank
        exact Int.not_le.1 fun hdepth => hgoes ⟨hdepth, hblank⟩

theorem Extent.total_nonpos (h : Extent 0 gone after)
    (hlast : gone.getLast?.any ending.found = false) : total gone ≤ 0 := by
  cases h with
  | blank _ _ hopen => omega
  | last _ hending =>
    rw [List.getLast?_concat, Option.any_some, hending] at hlast
    cases hlast

end

section
variable {tree : FileTree} {d : Diagnostic} {content text summary : String}
  {context : Option Context} {es : List Edit}

/-- The lines that go are told by where the search stops, and the braces in them are missing from
the text. Whole blocks go if no brace is closed before it is opened and, where the last line ends
the flow of control, as many braces are opened as are closed. -/
theorem removes_extent
    (h : Strategy.unreachable.attempt tree d content context = .ok (.fixed text summary es)) :
    ∃ before gone after, Lines.ofText content = before ++ gone ++ after ∧
      d.line = before.length + 1 ∧ gone ≠ [] ∧ text = Lines.toText (before ++ after) ∧
      es = [{ kind := .delete, line := some (before.length + 1),
              endLine := some (before.length + gone.length),
              text := some "unreachable code block" }] ∧
      Extent 0 gone after ∧
      balance text.toList = balance content.toList - balance (Lines.join '\n' gone) ∧
      (KeepsBlocks content text gone ↔ NeverBelow (Lines.join '\n' gone) ∧
        (gone.getLast?.any ending.found = true →
          balance (Lines.join '\n' gone) = 0)) := by
  obtain ⟨before, gone, after, hls, hline, hextent, hgone, rfl, hes⟩ :=
    Unreachable.of_attempt (Except.ok.inj h)
  have hstops : Extent 0 gone after := by
    obtain ⟨gone', after', happend, hlen, hextent'⟩ := exists_extent hextent
    obtain ⟨rfl, rfl⟩ := List.append_inj happend hlen.symm
    exact hextent'
  have hbalance : balance (Lines.toText (before ++ after)).toList =
      balance content.toList - balance (Lines.join '\n' gone) := by
    rw [← Lines.join_ofText content, hls, Lines.toText, String.toList_ofList]
    simp only [balance_join, total_append]
    omega
  refine ⟨before, gone, after, hls, hline, hgone, rfl, hes, hstops, hbalance, ?_⟩
  constructor
  · intro hkeeps
    exact ⟨hkeeps.neverBelow, fun _ => hkeeps.balanced⟩
  · rintro ⟨hbelow, hending⟩
    have hbalanced : balance (Lines.join '\n' gone) = 0 := by
      cases hlast : gone.getLast?.any ending.found with
      | true => exact hending hlast
      | false =>
        have hnonpos := hstops.total_nonpos hlast
        have hnonneg := hbelow _ (List.prefix_refl _)
        rw [balance_join] at hnonneg ⊢
        omega
    refine ⟨hbalanced, hbelow, ?_⟩
    rw [hbalance, hbalanced, Int.sub_zero]

theorem removes_extent_nested :
    let d : Diagnostic := ⟨.known .unused, some "unreachable code", "a.js", 1, .low, 1, ""⟩
    let content := "if (a) \x7b\n\n  b();\n\x7d\n\nc();"
    let gone : List Line := ["if (a) \x7b".toList, [], "  b();".toList, "\x7d".toList]
    let a := Attempt.fixed "\nc();" "Removed unreachable code"
      [{ kind := .delete, line := some 1, endLine := some 4,
         text := some "unreachable code block" }]
    Strategy.unreachable.attempt .empty d content none = .ok a ∧
      KeepsBlocks content "\nc();" gone := by
  intro d content gone a
  have hattempt : Strategy.unreachable.attempt .empty d content none = .ok a := by
    have hunreachable : Unreachable.attempt d content = a := by decide +kernel
    exact congrArg Except.ok hunreachable
  refine ⟨hattempt, ?_⟩
  obtain ⟨before, gone', after, hls, hline, -, -, hes, -, -, hkeeps⟩ := removes_extent hattempt
  have hbefore : before.length = 0 := by
    have hd : d.line = 1 := rfl
    omega
  have hlen : gone'.length = 4 := by
    have hend := congrArg (List.map Edit.endLine) hes
    simp only [List.map_cons, List.map_nil, List.cons.injEq, Option.some.injEq] at hend
    omega
  obtain rfl := List.eq_nil_of_length_eq_zero hbefore
  have hlines : Lines.ofText content = gone ++ [[], "c();".toList] := by decide +kernel
  rw [hlines, List.nil_append] at hls
  obtain ⟨rfl, -⟩ := List.append_inj hls hlen.symm
  refine hkeeps.2 ⟨?_, fun _ => ?_⟩
  · have hparts : ∀ n < (Lines.join '\n' gone).length + 1,
        0 ≤ balance ((Lines.join '\n' gone).take n) := by decide +kernel
    intro p hp
    rw [List.prefix_iff_eq_take.1 hp]
    exact hparts _ (Nat.lt_succ_of_le hp.length_le)
  · decide +kernel

/-- A line that ends the flow of control goes together with the brace that opens its block, and a
brace that closes a block from outside goes like any other line. -/
theorem breaks_blocks :
    let d : Diagnostic := ⟨.known .unused, some "unreachable code", "a.js", 1, .low, 1, ""⟩
    (∃ summary es, Strategy.unreachable.attempt .empty d "if (x) \x7b\n  return 1;\n\x7d" none =
        .ok (.fixed "\x7d" summary es) ∧
      ∀ gone, ¬ KeepsBlocks "if (x) \x7b\n  return 1;\n\x7d" "\x7d" gone) ∧
    ∃ summary es, Strategy.unreachable.attempt .empty d "\x7d\n\nb();" none =
        .ok (.fixed "\nb();" summary es) ∧
      ∀ gone, ¬ KeepsBlocks "\x7d\n\nb();" "\nb();" gone := by
  intro d
  constructor
  · have hattempt : Unreachable.attempt d "if (x) \x7b\n  return 1;\n\x7d" =
        .fixed "\x7d" "Removed unreachable code"
          [{ kind := .delete, line := some 1, endLine := some 2,
             text := some "unreachable code block" }] := by decide +kernel
    refine ⟨_, _, congrArg Except.ok hattempt, fun gone hkeeps => ?_⟩
    exact absurd hkeeps.balance_eq (by decide +kernel)
  · have hattempt : Unreachable.attempt d "\x7d\n\nb();" =
        .fixed "\nb();" "Removed unreachable code"
          [{ kind := .delete, line := some 1, endLine := some 1,
             text := some "unreachable code block" }] := by decide +kernel
    refine ⟨_, _, congrArg Except.ok hattempt, fun gone hkeeps => ?_⟩
    exact absurd hkeeps.balance_eq (by decide +kernel)

end

end Unreachable

end Mend.Strategy
