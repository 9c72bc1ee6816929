import Mend.Proofs.Edit.Replay
import Mend.Strategy.Basic

namespace Mend.Strategy

section
variable {before after : List Line} {line new : Line}

theorem getD_append : (before ++ line :: after).getD before.length [] = line := by
  simp [List.getD_eq_getElem?_getD]

theorem set_append :
    (before ++ line :: after).set before.length new = before ++ new :: after := by
  simp

theorem eraseIdx_append :
    (before ++ line :: after).eraseIdx before.length = before ++ after := by
  simp [List.eraseIdx_append]

end

theorem split_at {ls : List Line} {i : Nat} (h : i < ls.length) :
    ∃ before line after, ls = before ++ line :: after ∧ before.length = i := by
  refine ⟨ls.take i, ls[i], ls.drop (i + 1), ?_, ?_⟩
  · rw [← List.drop_eq_getElem_cons h, List.take_append_drop]
  · rw [List.length_take]
    omega

variable {d : Diagnostic} {content text summary reason : String} {es : List Edit}

/-- A repair at the reported line, where every other line number is declined. -/
theorem of_reported {n : Int} {ls : List Line} {answer : Nat → Attempt}
    (h : (match Lines.index? n ls with
      | none => Attempt.decline reason
      | some i => answer i) = .fixed text summary es) :
    ∃ before line after, ls = before ++ line :: after ∧ n = before.length + 1 ∧
      answer before.length = .fixed text summary es := by
  split at h
  · cases h
  · rename_i i hi
    obtain ⟨before, after, hls, hlen, hn⟩ := Edit.split_of_index? hi
    subst hlen
    exact ⟨before, _, after, hls, hn, h⟩

theorem Terminator.of_attempt {mark : String}
    (h : Terminator.attempt mark d content = .fixed text summary es) :
    ∃ before line after, Lines.ofText content = before ++ line :: after ∧
      d.line = before.length + 1 ∧ isOpen mark.toList line = true ∧
      text = Lines.toText (before ++ (line ++ mark.toList) :: after) ∧
      es = [{ kind := .insert, line := d.line, column := some line.length, text := mark }] := by
  unfold attempt at h
  obtain ⟨before, line, after, hls, hn, h⟩ := of_reported h
  rw [hls, getD_append] at h
  dsimp only at h
  rw [set_append] at h
  split at h
  · rename_i hopen
    cases h
    exact ⟨before, line, after, hls, hn, hopen, rfl, rfl⟩
  · cases h

theorem Statement.of_consoleAttempt
    (h : Statement.consoleAttempt d content = .fixed text summary es) :
    ∃ before line after, Lines.ofText content = before ++ line :: after ∧
      d.line = before.length + 1 ∧ Text.occurs callText line = true ∧
      text = Lines.toText (before ++ commentOut line :: after) ∧
      es = [{ kind := .modify, line := d.line,
              text := some (.ofList ('/' :: '/' :: ' ' :: Text.trim line)) }] := by
  unfold consoleAttempt at h
  obtain ⟨before, line, after, hls, hn, h⟩ := of_reported h
  rw [hls, getD_append] at h
  dsimp only at h
  rw [set_append] at h
  split at h
  · rename_i hcall
    cases h
    exact ⟨before, line, after, hls, hn, hcall, rfl, rfl⟩
  · cases h

theorem Statement.of_debuggerAttempt
    (h : Statement.debuggerAttempt d content = .fixed text summary es) :
    ∃ before line after, Lines.ofText content = before ++ line :: after ∧
      d.line = before.length + 1 ∧ debuggerPattern.found line = true ∧
      text = Lines.toText (before ++ after) ∧
      es = [{ kind := .delete, line := d.line, text := some (.ofList (Text.trim line)) }] := by
  unfold debuggerAttempt at h
  obtain ⟨before, line, after, hls, hn, h⟩ := of_reported h
  rw [hls, getD_append, eraseIdx_append] at h
  dsimp only at h
  split at h
  · rename_i hfound
    cases h
    exact ⟨before, line, after, hls, hn, hfound, rfl, rfl⟩
  · cases h

theorem Unreachable.extent?_le {depth : Int} {ls : List Line} {n : Nat}
    (h : extent? depth ls = some n) : n ≤ ls.length := by
  induction ls generalizing depth n with
  | nil => cases h
  | cons l ls ih =>
    simp only [extent?] at h
    rw [List.length_cons]
    split at h
    · cases h
      exact Nat.zero_le _
    · split at h
      · cases h
        omega
      · obtain ⟨m, hm, rfl⟩ := Option.map_eq_some_iff.1 h
        exact Nat.succ_le_succ (ih hm)

theorem Unreachable.of_attempt (h : Unreachable.attempt d content = .fixed text summary es) :
    ∃ before gone after, Lines.ofText content = before ++ gone ++ after ∧
      d.line = before.length + 1 ∧ extent? 0 (gone ++ after) = some gone.length ∧ gone ≠ [] ∧
      text = Lines.toText (before ++ after) ∧
      es = [{ kind := .delete, line := some (before.length + 1),
              endLine := some (before.length + gone.length),
              text := some "unreachable code block" }] := by
  unfold attempt at h
  obtain ⟨before, line, after, hls, hn, h⟩ := of_reported h
  rw [hls, List.drop_left, List.take_left] at h
  split at h
  · cases h
  · cases h
  · rename_i n hpos hext
    have hle := extent?_le hext
    have hlen : ((line :: after).take n).length = n := by
      rw [List.length_take]
      omega
    refine ⟨before, (line :: after).take n, (line :: after).drop n, ?_, hn, ?_, ?_, ?_, ?_⟩
    · rw [hls, List.append_assoc, List.take_append_drop]
    · rw [List.take_append_drop, hlen, hext]
    · intro hnil
      apply hpos
      rw [← hlen, hnil]
      rfl
    · cases h
      rw [List.drop_length_add_append]
    · cases h
      rw [hlen]

theorem Unreachable.gone_ne_blank {gone after : List Line}
    (h : extent? 0 (gone ++ after) = some gone.length) : gone ≠ [[]] := by
  intro hgone
  rw [hgone] at h
  cases h

theorem Unused.mem_candidates {window line : Int} {count i : Nat}
    (h : i ∈ candidates window line count) : i < count := by
  unfold candidates at h
  rcases List.mem_append.1 h with h | h
  · split at h
    · rw [List.mem_singleton] at h
      omega
    · cases h
  · exact List.mem_range.1 (List.mem_filter.1 h).1

theorem Unused.of_deletion (test : Line → Bool) {places : List Nat} {ls : List Line}
    {title : String} (hplaces : ∀ i ∈ places, i < ls.length)
    (h : (match places.find? fun i => test (ls.getD i []) with
      | some i => Attempt.fixed (Lines.toText (ls.eraseIdx i)) title [deletion i (ls.getD i [])]
      | none => .decline reason) = .fixed text summary es) :
    ∃ before line after, ls = before ++ line :: after ∧ test line = true ∧
      text = Lines.toText (before ++ after) ∧ es = [deletion before.length line] := by
  split at h
  · rename_i i hi
    obtain ⟨before, line, after, hls, hlen⟩ :=
      split_at (hplaces i (List.mem_of_find?_eq_some hi))
    have htest := List.find?_some hi
    subst hlen
    rw [hls, getD_append] at htest
    rw [hls, getD_append, eraseIdx_append] at h
    cases h
    exact ⟨before, line, after, hls, htest, rfl, rfl⟩
  · cases h

theorem Unused.of_variableAttempt {window : Int}
    (h : Unused.variableAttempt window d content = .fixed text summary es) :
    ∃ name before line after, Lines.ofText content = before ++ line :: after ∧
      nameIn? variableMessages d.text = some name ∧ declares name (Text.trim line) = true ∧
      text = Lines.toText (before ++ after) ∧ es = [deletion before.length line] := by
  unfold variableAttempt at h
  split at h
  · cases h
  · rename_i name hname
    obtain ⟨before, line, after, hls, htest, htext, hes⟩ :=
      of_deletion (fun l => declares name (Text.trim l)) (fun _ => mem_candidates) h
    exact ⟨name, before, line, after, hls, hname, htest, htext, hes⟩

theorem Unused.of_importAttempt (h : Unused.importAttempt d content = .fixed text summary es) :
    ∃ name before line after, Lines.ofText content = before ++ line :: after ∧
      nameIn? importMessages d.text = some name ∧ importsName name line = true ∧
      text = Lines.toText (before ++ after) ∧ es = [deletion before.length line] := by
  unfold importAttempt at h
  split at h
  · cases h
  · rename_i name hname
    obtain ⟨before, line, after, hls, htest, htext, hes⟩ :=
      of_deletion (importsName name) (fun _ => List.mem_range.1) h
    exact ⟨name, before, line, after, hls, hname, htest, htext, hes⟩

theorem Brackets.firstNegative?_lt {count : Int} {ls : List Line} {i : Nat}
    (h : firstNegative? count ls = some i) : i < ls.length := by
  induction ls generalizing count i with
  | nil => cases h
  | cons l ls ih =>
    simp only [firstNegative?] at h
    rw [List.length_cons]
    split at h
    · cases h
      omega
    · obtain ⟨j, hj, rfl⟩ := Option.map_eq_some_iff.1 h
      exact Nat.succ_lt_succ (ih hj)

theorem Brackets.close_eq (ls : List Line) :
    ∃ before after, ls = before ++ after ∧ (after = [] ∨ after = [[]]) ∧
      close ls = (before ++ closingLine :: after, before.length + 1) := by
  unfold close
  split
  · rename_i hlast
    obtain ⟨before, rfl⟩ := List.getLast?_eq_some_iff.1 hlast
    refine ⟨before, [[]], rfl, .inr rfl, ?_⟩
    rw [List.dropLast_concat, List.length_append, List.length_singleton]
  · exact ⟨ls, [], (List.append_nil ls).symm, .inl rfl, rfl⟩

theorem Brackets.of_attempt (h : Brackets.attempt content = .fixed text summary es) :
    (∃ before line after, Lines.ofText content = before ++ line :: after ∧
      firstNegative? 0 (Lines.ofText content) = some before.length ∧
      text = Lines.toText (before ++ openingLine :: line :: after) ∧
      es = [insertion (before.length + 1) openingLine]) ∨
    (∃ before after, Lines.ofText content = before ++ after ∧ (after = [] ∨ after = [[]]) ∧
      firstNegative? 0 (Lines.ofText content) = none ∧ 0 < total (Lines.ofText content) ∧
      text = Lines.toText (before ++ closingLine :: after) ∧
      es = [insertion (before.length + 1) closingLine]) := by
  unfold attempt at h
  dsimp only at h
  split at h
  · rename_i i hi
    left
    obtain ⟨before, line, after, hls, hlen⟩ := split_at (firstNegative?_lt hi)
    subst hlen
    refine ⟨before, line, after, hls, hi, ?_⟩
    rw [hls, List.take_left, List.drop_left] at h
    cases h
    exact ⟨rfl, rfl⟩
  · rename_i hnone
    right
    split at h
    · rename_i htotal
      obtain ⟨before, after, hls, hafter, hclose⟩ := close_eq (Lines.ofText content)
      rw [hclose] at h
      cases h
      exact ⟨before, after, hls, hafter, hnone, htotal, rfl, rfl⟩
    · cases h

theorem Blanks.of_attempt (h : Blanks.attempt content = .fixed text summary es) :
    text = Lines.toText ((Lines.ofText content).map clean) ∧
      es = editsFrom 0 (Lines.ofText content) ∧ es ≠ [] := by
  unfold attempt at h
  dsimp only at h
  split at h
  · cases h
  · rename_i hne
    cases h
    exact ⟨rfl, rfl, fun hnil => hne (by rw [hnil]; rfl)⟩

theorem Extension.attempt_of_resolve {extensions : List String} {tree : FileTree}
    {context : Option Context} {module : List Char} {ext : String}
    (hmodule : moduleMessage.name? d.text = some module) (hrelative : isRelative module = true)
    (hsource : sourceFile d context ≠ "")
    (hresolve : resolve tree (Path.ofString (sourceFile d context)).parent (.ofList module)
      extensions = .ok (some ext)) (content : String) :
    attempt extensions tree d content context =
      match Pattern.Piece.read s!"'{String.ofList module}{ext}'".toList with
      | .error e => .error (.replacement e s!"'{String.ofList module}{ext}'")
      | .ok pieces =>
        let edits := editsFrom module pieces
          s!"Changed '{String.ofList module}' to '{String.ofList module}{ext}'" 0
          (Lines.ofText content)
        if edits.isEmpty then .ok (.decline s!"Could not locate import of '{String.ofList module}'")
        else .ok (.fixed (Lines.toText ((Lines.ofText content).map (renameLine module pieces)))
          s!"Added {ext} extension to import" edits) := by
  unfold attempt
  simp only [hmodule, hrelative, hsource, hresolve, bind, Except.bind, Bool.not_true, decide_false,
    Bool.or_false, Bool.false_eq_true, if_false]
  cases Pattern.Piece.read s!"'{String.ofList module}{ext}'".toList with
  | error e => rfl
  | ok pieces => rfl

theorem Extension.of_attempt {extensions : List String} {tree : FileTree}
    {context : Option Context}
    (h : Extension.attempt extensions tree d content context = .ok (.fixed text summary es)) :
    ∃ module ext pieces, moduleMessage.name? d.text = some module ∧ isRelative module = true ∧
      sourceFile d context ≠ "" ∧
      resolve tree (Path.ofString (sourceFile d context)).parent (.ofList module) extensions =
        .ok (some ext) ∧
      Pattern.Piece.read s!"'{String.ofList module}{ext}'".toList = .ok pieces ∧
      text = Lines.toText ((Lines.ofText content).map (renameLine module pieces)) ∧
      es = editsFrom module pieces
        s!"Changed '{String.ofList module}' to '{String.ofList module}{ext}'" 0
        (Lines.ofText content) ∧ es ≠ [] := by
  unfold attempt at h
  split at h
  · cases h
  · rename_i module hmodule
    dsimp only at h
    split at h
    · cases h
    · rename_i hsource
      cases hr : resolve tree (Path.ofString (sourceFile d context)).parent (.ofList module)
          extensions with
      | error f =>
        rw [hr] at h
        cases h
      | ok found =>
        rw [hr] at h
        cases found with
        | none => cases h
        | some ext =>
          simp only [bind, Except.bind, pure, Except.pure] at h
          split at h
          · cases h
          · rename_i pieces hread
            split at h
            · cases h
            · rename_i hne
              cases h
              rw [Bool.or_eq_true, decide_eq_true_eq, not_or] at hsource
              refine ⟨module, ext, pieces, hmodule, ?_, hsource.2, hr, hread, rfl, rfl, ?_⟩
              · simpa using hsource.1
              · exact fun hnil => hne (by rw [hnil]; rfl)

end Mend.Strategy
