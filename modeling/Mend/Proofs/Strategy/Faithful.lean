import Mend.Proofs.Pattern.Consumption
import Mend.Proofs.Strategy.Attempt
import Mend.Proofs.Strategy.LineRepair

namespace Mend.Strategy

section
variable {before gone after lines : List Line} {old new : Line} {content : String}

theorem toText_ne_of_size
    (h : Lines.size lines - 1 ≠ Lines.size (Lines.ofText content) - 1) :
    Lines.toText lines ≠ content := by
  intro htext
  apply Lines.toText_ne_of_size h
  rw [htext, Lines.toText_ofText]

theorem toText_ne_of_amend (hls : Lines.ofText content = before ++ old :: after)
    (h : new.length ≠ old.length) : Lines.toText (before ++ new :: after) ≠ content := by
  apply toText_ne_of_size
  rw [hls]
  simp only [Lines.size_append, Lines.size]
  omega

theorem toText_ne_of_remove (hls : Lines.ofText content = before ++ gone ++ after)
    (hne : gone ≠ []) (h : gone ≠ [[]]) : Lines.toText (before ++ after) ≠ content := by
  have hsize := Lines.two_le_size hne h
  apply toText_ne_of_size
  rw [hls]
  simp only [Lines.size_append]
  omega

theorem toText_ne_of_insert (hls : Lines.ofText content = before ++ after) :
    Lines.toText (before ++ new :: after) ≠ content := by
  have hpos : 0 < Lines.size (before ++ after) := by
    rw [← hls]
    exact Nat.lt_of_lt_of_le (Lines.length_split_pos '\n' _) (Lines.length_le_size _)
  apply toText_ne_of_size
  rw [hls]
  simp only [Lines.size_append, Lines.size] at hpos ⊢
  omega

end

variable {d : Diagnostic} {content text summary : String} {es : List Edit}

/-- The records redone give the text, and the text is a new one. -/
def Accounts (s : Strategy) (es : List Edit) (content text : String) : Prop :=
  ∃ lines, Faithful s es (Lines.ofText content) lines ∧ text = Lines.toText lines ∧ text ≠ content

theorem Terminator.mark_ne_nil {mark line : List Char} (h : isOpen mark line = true) :
    mark ≠ [] := by
  intro hmark
  subst hmark
  simp [isOpen] at h

theorem Terminator.accounts {mark : String}
    (h : Terminator.attempt mark d content = .fixed text summary es) :
    Accounts (terminator mark) es content text := by
  obtain ⟨before, line, after, hls, hline, hopen, htext, hes⟩ := of_attempt h
  have hmark : 0 < mark.toList.length := List.length_pos_iff.2 (mark_ne_nil hopen)
  refine ⟨before ++ (line ++ mark.toList) :: after, ?_, htext, ?_⟩
  · rw [hls, hes]
    apply Faithful.of_amend
    · simp [Edit.span?, hline]
    · simpa [redo?, Edit.span?, hline] using Edit.amend?_append rfl (Edit.put?_length _ _)
  · rw [htext]
    apply toText_ne_of_amend hls
    rw [List.length_append]
    omega

theorem Statement.commentOut_eq (line : Line) : commentOut line = Edit.commented line := by
  rw [Edit.commented, List.append_assoc]
  rfl

theorem Statement.commentOut_length (line : Line) : (commentOut line).length = line.length + 3 := by
  have hline : (line.takeWhile Text.isBlank).length + (line.dropWhile Text.isBlank).length =
      line.length := by
    rw [← List.length_append, List.takeWhile_append_dropWhile]
  simp only [commentOut, Text.trimLeft, Text.dropLeft, List.length_append, List.length_cons]
  omega

theorem Statement.exists_trimLeft_eq {line : Line} (h : Text.occurs callText line = true) :
    ∃ a b, Text.trimLeft line = a ++ callText ++ b := by
  obtain ⟨a, b, hline⟩ := (Text.occurs_iff _ _).1 h
  rw [hline, List.append_assoc, Text.trimLeft, Text.dropLeft, List.dropWhile_append]
  split
  · exact ⟨[], b, rfl⟩
  · exact ⟨_, b, (List.append_assoc _ _ _).symm⟩

theorem Statement.accounts_console
    (h : Statement.consoleAttempt d content = .fixed text summary es) :
    Accounts console es content text := by
  obtain ⟨before, line, after, hls, hline, -, htext, hes⟩ := of_consoleAttempt h
  refine ⟨before ++ commentOut line :: after, ?_, htext, ?_⟩
  · rw [hls, hes]
    apply Faithful.of_amend
    · simp [Edit.span?, hline]
    · rw [commentOut_eq]
      have hamend : Edit.amend? (before.length + 1) (fun l => some (Edit.commented l))
          (before ++ line :: after) = some (before ++ Edit.commented line :: after) :=
        Edit.amend?_append rfl rfl
      simpa [redo?, Edit.span?, hline] using hamend
  · rw [htext]
    apply toText_ne_of_amend hls
    rw [commentOut_length]
    omega

theorem accounts_of_deletion {s : Strategy} {e : Edit} {before after : List Line} {line : Line}
    (hls : Lines.ofText content = before ++ line :: after) (hline : line ≠ [])
    (hkind : e.kind = .delete)
    (hspan : e.span? = some ((before.length : Int) + 1, (before.length : Int) + 1)) :
    Accounts s [e] content (Lines.toText (before ++ after)) := by
  have hgone : Lines.ofText content = before ++ [line] ++ after := by simpa using hls
  refine ⟨before ++ after, ?_, rfl, ?_⟩
  · rw [hgone]
    apply Faithful.of_remove (List.cons_ne_nil line []) hspan
    simpa [redo?, hspan, hkind] using Edit.remove?_append rfl rfl (List.cons_ne_nil line [])
  · apply toText_ne_of_remove hgone (List.cons_ne_nil line [])
    simpa using hline

theorem Statement.accounts_debugger
    (h : Statement.debuggerAttempt d content = .fixed text summary es) :
    Accounts debugger es content text := by
  obtain ⟨before, line, after, hls, hline, hfound, rfl, rfl⟩ := of_debuggerAttempt h
  apply accounts_of_deletion hls (Pattern.ne_nil_of_found rfl hfound) rfl
  simp [Edit.span?, hline]

theorem Unused.ne_nil_of_declares {name : List Char} {line : Line}
    (h : declares name (Text.trim line) = true) : line ≠ [] := by
  have hneeds : ∀ p ∈ declarations name, p.needsText = true := List.all_eq_true.1 rfl
  obtain ⟨p, hp, hfound⟩ := List.any_eq_true.1 h
  intro hline
  apply Pattern.ne_nil_of_found (hneeds p hp) hfound
  rw [hline]
  rfl

theorem Unused.accounts_variable {window : Int}
    (h : Unused.variableAttempt window d content = .fixed text summary es) :
    Accounts (unusedVariable window) es content text := by
  obtain ⟨name, before, line, after, hls, -, hdeclares, rfl, rfl⟩ := of_variableAttempt h
  exact accounts_of_deletion hls (ne_nil_of_declares hdeclares) rfl rfl

theorem Unused.accounts_import (h : Unused.importAttempt d content = .fixed text summary es) :
    Accounts unusedImport es content text := by
  obtain ⟨name, before, line, after, hls, -, himports, rfl, rfl⟩ := of_importAttempt h
  have hfound : importLine.found line = true := (Bool.and_eq_true_iff.1 himports).1
  exact accounts_of_deletion hls (Pattern.ne_nil_of_found rfl hfound) rfl rfl

theorem Unreachable.accounts (h : Unreachable.attempt d content = .fixed text summary es) :
    Accounts unreachable es content text := by
  obtain ⟨before, gone, after, hls, -, hextent, hgone, htext, hes⟩ := of_attempt h
  refine ⟨before ++ after, ?_, htext, ?_⟩
  · rw [hls, hes]
    apply Faithful.of_remove hgone rfl
    simpa [redo?, Edit.span?] using Edit.remove?_append rfl rfl hgone
  · rw [htext]
    exact toText_ne_of_remove hls hgone (gone_ne_blank hextent)

theorem Brackets.redo?_insertion (before after : List Line) (new : Line) :
    brackets.redo? (insertion (before.length + 1) new) (before ++ after) =
      some (before ++ new :: after) := by
  simpa [redo?, insertion, Edit.span?] using Edit.insert?_append rfl

theorem Brackets.accounts (h : Brackets.attempt content = .fixed text summary es) :
    Accounts brackets es content text := by
  obtain ⟨before, line, after, hls, -, htext, hes⟩ | ⟨before, after, hls, -, -, -, htext, hes⟩ :=
    of_attempt h
  · refine ⟨before ++ openingLine :: line :: after, ?_, htext, ?_⟩
    · rw [hls, hes]
      exact Faithful.of_insert rfl (.inl (List.cons_ne_nil line after)) (redo?_insertion _ _ _)
    · rw [htext]
      exact toText_ne_of_insert hls
  · refine ⟨before ++ closingLine :: after, ?_, htext, ?_⟩
    · rw [hls, hes]
      exact Faithful.of_insert rfl (.inr ⟨rfl, rfl⟩) (redo?_insertion _ _ _)
    · rw [htext]
      exact toText_ne_of_insert hls

theorem Blanks.accounts (h : Blanks.attempt content = .fixed text summary es) :
    Accounts trailingBlanks es content text := by
  obtain ⟨htext, hes, hne⟩ := of_attempt h
  rw [editsFrom_eq] at hes
  rw [hes] at hne
  refine ⟨(Lines.ofText content).map clean, ?_, htext, ?_⟩
  · rw [hes]
    exact Faithful.of_lineEdits (fun _ _ => clean_eq_of_edit?_eq_none) (fun _ _ _ => edit?_span)
      (fun _ _ _ _ => redo?_edit) hne
  · rw [htext]
    conv => rhs; rw [← Lines.toText_ofText content]
    exact toText_map_ne_of_lineEdits exchanges_clean (fun _ _ _ => clean_ne_of_edit?_eq_some) hne

theorem Extension.accounts {extensions : List String} {tree : FileTree} {context : Option Context}
    (h : Extension.attempt extensions tree d content context = .ok (.fixed text summary es)) :
    Accounts (extension extensions) es content text := by
  obtain ⟨module, ext, pieces, -, -, -, -, -, htext, hes, hne⟩ := of_attempt h
  obtain ⟨n, m, hexchanges⟩ := exchanges_renameLine module pieces
  rw [editsFrom_eq] at hes
  rw [hes] at hne
  refine ⟨(Lines.ofText content).map (renameLine module pieces), ?_, htext, ?_⟩
  · rw [hes]
    refine Faithful.of_lineEdits (fun _ _ => renameLine_eq_of_edit?_eq_none) ?_
      (fun _ _ _ _ => redo?_edit) hne
    intro i l e he
    obtain ⟨-, -, hline, hend, -⟩ := of_edit?_eq_some he
    exact ⟨hline, hend⟩
  · rw [htext]
    conv => rhs; rw [← Lines.toText_ofText content]
    exact toText_map_ne_of_lineEdits hexchanges (fun _ _ _ he => (of_edit?_eq_some he).1) hne

theorem MissingName.attempt_ne_fixed : MissingName.attempt d content ≠ .fixed text summary es := by
  intro h
  unfold attempt at h
  split at h
  · cases h
  · dsimp only at h
    split at h
    · cases h
    · cases h

/-- Whatever a strategy is asked to repair, a repair is told by its records: they name separate
places of the text from the top down, the lines they do not name stay, and redone on the lines of
the text they give the repaired one, which is not the old one. -/
theorem attempt_accounts {s : Strategy} {tree : FileTree} {context : Option Context}
    (h : s.attempt tree d content context = .ok (.fixed text summary es)) :
    Accounts s es content text := by
  cases s with
  | terminator mark => exact Terminator.accounts (Except.ok.inj h)
  | brackets => exact Brackets.accounts (Except.ok.inj h)
  | unexpectedToken => cases h
  | trailingBlanks => exact Blanks.accounts (Except.ok.inj h)
  | console => exact Statement.accounts_console (Except.ok.inj h)
  | debugger => exact Statement.accounts_debugger (Except.ok.inj h)
  | unusedVariable window => exact Unused.accounts_variable (Except.ok.inj h)
  | unusedImport => exact Unused.accounts_import (Except.ok.inj h)
  | unreachable => exact Unreachable.accounts (Except.ok.inj h)
  | extension extensions => exact Extension.accounts h
  | missingName => exact absurd (Except.ok.inj h) MissingName.attempt_ne_fixed
  | decline reason => cases h
  | broken fault => cases h

theorem attempt_accounts_trailingBlanks :
    let d : Diagnostic := ⟨.known .style, some "Trailing spaces not allowed", "a.js", 1, .low, 2, ""⟩
    let es : List Edit := [
      { kind := .cleanup, line := some 1, column := some 1, text := some " ",
        description := some "Removed trailing whitespace" },
      { kind := .cleanup, line := some 2, column := some 1, text := some "\t",
        description := some "Removed trailing whitespace" }]
    trailingBlanks.attempt .empty d "a \nb\t\n" none =
        .ok (.fixed "a\nb\n" "Removed trailing whitespace from 2 lines" es) ∧
      Accounts trailingBlanks es "a \nb\t\n" "a\nb\n" := by
  intro d es
  have h : trailingBlanks.attempt .empty d "a \nb\t\n" none =
      .ok (.fixed "a\nb\n" "Removed trailing whitespace from 2 lines" es) := rfl
  exact ⟨h, attempt_accounts h⟩

end Mend.Strategy
