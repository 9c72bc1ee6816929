import Mend.Proofs.Strategy.LineRepair
import Mend.Proofs.Strategy.Faithful
import Mend.Proofs.Strategy.Rounds
import Mend.Proofs.Text.Trimming

namespace Mend.Strategy

namespace Blanks

inductive Body : Line → Line → Line → Prop
  | crlf (b : Line) : Body (b ++ ['\r']) b ['\r']
  | plain {b : Line} (h : b.getLast? ≠ some '\r') : Body b b []

/-- Lines, what becomes of them, and the records of those that change, from a place on. -/
inductive Cleaned : Nat → List Line → List Line → List Edit → Prop
  | nil (i : Nat) : Cleaned i [] [] []
  | stays {i : Nat} {line b cr : Line} {ls ms : List Line} {es : List Edit}
    (hbody : Body line b cr) (hlast : b.getLast?.any Text.isBlank = false)
    (h : Cleaned (i + 1) ls ms es) : Cleaned i (line :: ls) (line :: ms) es
  | cut {i : Nat} {line kept gone cr : Line} {ls ms : List Line} {es : List Edit}
    (hbody : Body line (kept ++ gone) cr) (hgone : gone ≠ [])
    (hblank : ∀ c ∈ gone, Text.isBlank c = true) (hlast : kept.getLast?.any Text.isBlank = false)
    (h : Cleaned (i + 1) ls ms es) :
    Cleaned i (line :: ls) ((kept ++ cr) :: ms)
      ({ kind := .cleanup, line := some (i + 1), column := some kept.length,
         text := some (.ofList gone), description := some "Removed trailing whitespace" } :: es)

section
variable {i : Nat} {line b cr : Line} {ls : List Line}

theorem body_crlf (b : Line) : body (b ++ ['\r']) = (b, ['\r']) := by
  simp [body]

theorem body_plain (h : b.getLast? ≠ some '\r') : body b = (b, []) := if_neg h

theorem body_iff : Body line b cr ↔ body line = (b, cr) := by
  constructor
  · intro h
    cases h with
    | crlf => exact body_crlf b
    | plain h => exact body_plain h
  · intro h
    rw [body] at h
    split at h
    · rename_i hlast
      obtain ⟨init, rfl⟩ := List.getLast?_eq_some_iff.1 hlast
      rw [List.dropLast_concat] at h
      cases h
      exact .crlf b
    · rename_i hlast
      cases h
      exact .plain hlast

theorem edit?_eq_none_iff :
    edit? i line = none ↔ (body line).1.getLast?.any Text.isBlank = false := by
  have hkept : Text.trimRight (body line).1 = (body line).1 ↔ _ := Text.dropRight_eq_self_iff
  simp [edit?, ← hkept]

theorem editsFrom_eq_nil_iff :
    editsFrom i ls = [] ↔ ∀ line ∈ ls, (body line).1.getLast?.any Text.isBlank = false := by
  induction ls generalizing i with
  | nil => simp [editsFrom]
  | cons line ls ih => simp [editsFrom, ih, edit?_eq_none_iff]

theorem body_clean (line : Line) :
    body (clean line) = (Text.trimRight (body line).1, (body line).2) := by
  rw [clean]
  obtain ⟨b, cr, hbody⟩ : ∃ b cr, body line = (b, cr) := ⟨_, _, rfl⟩
  rw [hbody]
  cases body_iff.2 hbody with
  | crlf => exact body_crlf _
  | plain h =>
    rw [List.append_nil]
    apply body_plain
    intro hlast
    have hblank : Text.isBlank '\r' = false := Text.getLast?_dropRight hlast
    cases hblank

theorem newline_not_mem_clean (h : '\n' ∉ line) : '\n' ∉ clean line := by
  obtain ⟨kept, gone, cr, hline, hbody, hkept⟩ := parts line
  rw [hline] at h
  rw [clean, hbody, hkept]
  simp_all

theorem cleaned_map (i : Nat) (ls : List Line) :
    Cleaned i ls (ls.map clean) (editsFrom i ls) := by
  induction ls generalizing i with
  | nil => exact .nil i
  | cons line ls ih =>
    obtain ⟨kept, gone, cr, hline, hbody, hkept⟩ := parts line
    rw [List.map_cons, editsFrom]
    by_cases hgone : gone = []
    · rw [hgone, List.append_nil] at hbody hkept
      have hlast : kept.getLast?.any Text.isBlank = false := Text.dropRight_eq_self_iff.1 hkept
      have hnone : edit? i line = none := edit?_eq_none_iff.2 (by rwa [hbody])
      rw [hnone, clean_eq_of_edit?_eq_none hnone]
      exact .stays (body_iff.2 hbody) hlast (ih (i + 1))
    · have hsome : edit? i line = some
          { kind := .cleanup, line := some (i + 1), column := some kept.length,
            text := some (.ofList gone), description := some "Removed trailing whitespace" } := by
        simp [edit?, hbody, hkept, hgone]
      have hclean : clean line = kept ++ cr := by rw [clean, hbody, hkept]
      have hblank : ∀ c ∈ gone, Text.isBlank c = true := by
        obtain ⟨t, ht, hblank⟩ := Text.eq_dropRight_append Text.isBlank (kept ++ gone)
        have hkept' : Text.dropRight Text.isBlank (kept ++ gone) = kept := hkept
        rw [hkept', List.append_cancel_left_eq] at ht
        exact ht ▸ hblank
      have hlast : kept.getLast?.any Text.isBlank = false :=
        hkept ▸ Text.any_getLast?_dropRight Text.isBlank (kept ++ gone)
      rw [hsome, hclean]
      exact .cut (body_iff.2 hbody) hgone hblank hlast (ih (i + 1))

variable {content text summary : String} {es : List Edit}

theorem attempt_of_nil (h : editsFrom 0 (Lines.ofText content) = []) :
    attempt content = .decline "No trailing whitespace found" := by
  simp [attempt, h]

theorem exists_fixed_iff : (∃ text summary es, attempt content = .fixed text summary es) ↔
    ∃ line ∈ Lines.ofText content, ∃ b cr, Body line b cr ∧ b.getLast?.any Text.isBlank = true := by
  have hedits : (∃ text summary es, attempt content = .fixed text summary es) ↔
      editsFrom 0 (Lines.ofText content) ≠ [] := by
    simp only [attempt, List.isEmpty_iff]
    split
    · rename_i h
      simp [h, Attempt.decline]
    · rename_i h
      exact iff_of_true ⟨_, _, _, rfl⟩ h
  rw [hedits, ne_eq, editsFrom_eq_nil_iff]
  constructor
  · intro h
    simp only [not_forall, Bool.not_eq_false] at h
    obtain ⟨line, hline, hlast⟩ := h
    exact ⟨line, hline, _, _, body_iff.2 rfl, hlast⟩
  · rintro ⟨line, hline, b, cr, hbody, hlast⟩ h
    have hnone := h line hline
    rw [body_iff.1 hbody, hlast] at hnone
    cases hnone

theorem ofText_of_attempt (h : attempt content = .fixed text summary es) :
    Lines.ofText text = (Lines.ofText content).map clean := by
  obtain ⟨htext, -, -⟩ := of_attempt h
  rw [htext]
  apply Lines.ofText_toText
  · exact mt List.map_eq_nil_iff.1 (Lines.ofText_ne_nil content)
  · simp only [List.mem_map, forall_exists_index, and_imp, forall_apply_eq_imp_iff₂]
    exact fun line hline => newline_not_mem_clean (Lines.newline_not_mem hline)

theorem editsFrom_map_clean (i : Nat) (ls : List Line) : editsFrom i (ls.map clean) = [] := by
  simp only [editsFrom_eq_nil_iff, List.mem_map, forall_exists_index, and_imp,
    forall_apply_eq_imp_iff₂, body_clean]
  exact fun line _ => Text.any_getLast?_dropRight Text.isBlank _

end

end Blanks

namespace Terminator

section
variable {mark line : List Char}

theorem exists_of_isOpen (h : isOpen mark line = true) : ∃ c ∈ line, Text.isBlank c = false := by
  have htrim : Text.trim line ≠ [] := by
    intro hnil
    simp [isOpen, hnil] at h
  rw [ne_eq, Text.trim_eq_nil_iff] at htrim
  simpa using htrim

theorem isOpen_append (h : isOpen mark line = true) (hlast : mark.getLast?.any Text.isBlank = false) :
    isOpen mark (line ++ mark) = false := by
  obtain ⟨c, hc, hblank⟩ := exists_of_isOpen h
  have hleft : Text.trimLeft (line ++ mark) = Text.trimLeft line ++ mark := by
    have hne : ¬ line.dropWhile Text.isBlank = [] := by
      rw [List.dropWhile_eq_nil_iff]
      exact fun hall => Bool.false_ne_true (hblank ▸ hall c hc)
    rw [Text.trimLeft, Text.dropLeft, List.dropWhile_append, if_neg (by simpa using hne)]
    rfl
  have htrim : Text.trim (line ++ mark) = Text.trimLeft line ++ mark := by
    rw [Text.trim, hleft]
    apply Text.dropRight_eq_self_iff.2
    rwa [List.getLast?_append, List.getLast?_eq_some_getLast (mark_ne_nil h), Option.some_or,
      ← List.getLast?_eq_some_getLast (mark_ne_nil h)]
  have hclosed : (mark :: closedEndings).any (·.isSuffixOf (Text.trimLeft line ++ mark)) = true := by
    rw [List.any_cons, List.isSuffixOf_iff_suffix.2 (List.suffix_append _ mark), Bool.true_or]
  simp only [isOpen, htrim, hclosed, Bool.not_true, Bool.and_false, Bool.false_and]

end

theorem declines_again {mark : String} {tree : FileTree} {d : Diagnostic} {context : Option Context}
    {content text summary : String} {es : List Edit} (hline : '\n' ∉ mark.toList)
    (hlast : mark.toList.getLast?.any Text.isBlank = false)
    (h : (terminator mark).attempt tree d content context = .ok (.fixed text summary es)) :
    (terminator mark).attempt tree d text context = .ok (.decline reason) := by
  obtain ⟨before, line, after, hls, hnumber, hopen, rfl, -⟩ := of_attempt (Except.ok.inj h)
  apply congrArg Except.ok
  have hgone : Lines.ofText content = before ++ [line] ++ after := by simpa using hls
  have hfree : '\n' ∉ line :=
    Lines.newline_not_mem (hls ▸ List.mem_append_right before List.mem_cons_self)
  have hlines : Lines.ofText (Lines.toText (before ++ (line ++ mark.toList) :: after)) =
      before ++ (line ++ mark.toList) :: after := Lines.ofText_put hgone (by simp [hfree, hline])
  rw [attempt, hlines, Edit.index?_append hnumber]
  simp only [getD_append, isOpen_append hopen hlast]
  rfl

end Terminator

/-- Trailing blanks are cut from all lines that have some, and after that there are none. A line that
got a terminator gets no second one if the terminator stands in one line and ends in no blank. -/
theorem repairs_once (tree : FileTree) (d : Diagnostic) (context : Option Context)
    (content : String) :
    ((∃ text summary es,
        trailingBlanks.attempt tree d content context = .ok (.fixed text summary es)) ↔
      ∃ line ∈ Lines.ofText content, ∃ b cr, Blanks.Body line b cr ∧
        b.getLast?.any Text.isBlank = true) ∧
    (∀ text summary es,
      trailingBlanks.attempt tree d content context = .ok (.fixed text summary es) →
        Blanks.Cleaned 0 (Lines.ofText content) (Lines.ofText text) es ∧
          Declines trailingBlanks tree d context text) ∧
    ∀ mark : String, '\n' ∉ mark.toList → mark.toList.getLast?.any Text.isBlank = false →
      ∀ text summary es,
        (terminator mark).attempt tree d content context = .ok (.fixed text summary es) →
          Declines (terminator mark) tree d context text := by
  have hattempt (content : String) :
      trailingBlanks.attempt tree d content context = .ok (Blanks.attempt content) := rfl
  refine ⟨?_, ?_, ?_⟩
  · simp only [hattempt, Except.ok.injEq, Blanks.exists_fixed_iff]
  · intro text summary es h
    have hfixed := Except.ok.inj h
    obtain ⟨-, rfl, -⟩ := Blanks.of_attempt hfixed
    have hlines := Blanks.ofText_of_attempt hfixed
    have hnil : Blanks.editsFrom 0 (Lines.ofText text) = [] := by
      rw [hlines]
      exact Blanks.editsFrom_map_clean 0 _
    refine ⟨?_, _, none, none, congrArg Except.ok (Blanks.attempt_of_nil hnil)⟩
    rw [hlines]
    exact Blanks.cleaned_map 0 _
  · intro mark hline hlast text summary es h
    exact ⟨_, none, none, Terminator.declines_again hline hlast h⟩

end Mend.Strategy
