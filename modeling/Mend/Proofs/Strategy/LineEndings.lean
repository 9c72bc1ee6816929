import Mend.Proofs.Strategy.Mentions
import Mend.Proofs.Strategy.Removal
import Mend.Proofs.Text.LineEndings
import Mend.Proofs.Text.Trimming

namespace Mend.Strategy

open Text (Crlf Terminated scan crlf_iff_scan crlf_join_iff terminated_append)

section
variable {before gone after : List Line} {line new : Line}

theorem terminated_put (h : Terminated (before ++ line :: after)) :
    Terminated (before ++ new :: after) ↔ scan false new = some (!after.isEmpty) := by
  rw [terminated_append (List.cons_ne_nil _ _)] at h ⊢
  exact ⟨fun hnew => hnew.2.1, fun hnew => ⟨h.1, hnew, h.2.2⟩⟩

theorem terminated_cut (h : Terminated (before ++ gone ++ after)) (hgone : gone ≠ []) :
    Terminated (before ++ after) ↔ before = [] ∨ after ≠ [] := by
  have hafter := h.of_append
  have hne : gone ++ after ≠ [] := by simp [hgone]
  rw [List.append_assoc, terminated_append hne] at h
  constructor
  · intro hcut
    refine Decidable.or_iff_not_imp_right.2 fun hnil => ?_
    rw [Decidable.not_not.1 hnil, List.append_nil] at hcut
    exact hcut.eq_nil h.1
  · intro hcut
    by_cases hnil : after = []
    · rw [hcut.resolve_right (not_not_intro hnil), hnil]
      trivial
    · exact (terminated_append hnil).2 ⟨h.1, hafter⟩

end

section
variable {tree : FileTree} {d : Diagnostic} {context : Option Context}
  {content text summary : String} {es : List Edit}

theorem terminated_of_crlf (h : Crlf content.toList) : Terminated (Lines.ofText content) := by
  rwa [← crlf_join_iff, Lines.join_ofText]

theorem crlf_toText_iff (ls : List Line) : Crlf (Lines.toText ls).toList ↔ Terminated ls := by
  rw [Lines.toText, String.toList_ofList, crlf_join_iff]

theorem Removes.crlf_iff (h : Removes content text es) (hcontent : Crlf content.toList) :
    Crlf text.toList ↔ ∃ e first last, es = [e] ∧ e.span? = some (first, last) ∧
      (first = 1 ∨ last < (Lines.ofText content).length) := by
  obtain ⟨before, gone, after, e, hls, hgone, -, rfl, rfl, hspan⟩ := h
  have hlines := terminated_of_crlf hcontent
  rw [hls] at hlines
  rw [crlf_toText_iff, terminated_cut hlines hgone, hls]
  have hfirst : before = [] ↔ (before.length : Int) + 1 = 1 := by
    rw [← List.length_eq_zero_iff]
    omega
  have hlast : after ≠ [] ↔ (before.length : Int) + gone.length <
      (before ++ gone ++ after).length := by
    rw [← List.length_pos_iff]
    simp only [List.length_append]
    omega
  rw [hfirst, hlast]
  constructor
  · exact fun h => ⟨e, _, _, rfl, hspan, h⟩
  · rintro ⟨e', first, last, he, hspan', h⟩
    cases he
    rw [hspan] at hspan'
    cases hspan'
    exact h

theorem Brackets.not_crlf (h : Brackets.attempt content = .fixed text summary es)
    (hcontent : Crlf content.toList) : ¬ Crlf text.toList := by
  have hlines := terminated_of_crlf hcontent
  obtain ⟨before, line, after, hls, -, rfl, -⟩ | ⟨before, after, hls, hafter, -, -, rfl, -⟩ :=
    of_attempt h
  · rw [crlf_toText_iff]
    intro htext
    cases htext.of_append.1
  · rw [crlf_toText_iff]
    rw [hls] at hlines
    intro htext
    obtain rfl | rfl := hafter
    · rw [List.append_nil] at hlines hls
      have hbefore := ((terminated_append (List.cons_ne_nil _ _)).1 htext).1
      exact Lines.ofText_ne_nil content (hls.trans (hlines.eq_nil hbefore))
    · cases htext.of_append.1

theorem Terminator.crlf_iff {mark : String}
    (h : Terminator.attempt mark d content = .fixed text summary es)
    (hcontent : Crlf content.toList) :
    Crlf text.toList ↔
      if d.line = (Lines.ofText content).length then Crlf mark.toList
      else Crlf ('\r' :: (mark.toList ++ ['\n'])) := by
  obtain ⟨before, line, after, hls, hline, -, rfl, -⟩ := of_attempt h
  have hlines := terminated_of_crlf hcontent
  rw [hls] at hlines
  have hscan : scan false line = some (!after.isEmpty) := hlines.of_append.1
  rw [crlf_toText_iff, terminated_put hlines, Text.scan_append, hscan, Option.bind_some, hls, hline]
  cases after with
  | nil =>
    have hlast : (before.length : Int) + 1 = (before ++ [line]).length := by simp
    rw [if_pos hlast, crlf_iff_scan]
    rfl
  | cons m after =>
    have hlast : (before.length : Int) + 1 ≠ (before ++ line :: m :: after).length := by
      simp only [List.length_append, List.length_cons]
      omega
    rw [if_neg hlast, Text.crlf_around_iff]
    rfl

theorem scan_of_not_blank {c : Char} {cs : List Char} {opened b : Bool}
    (hc : Text.isBlank c = false) (h : scan opened (c :: cs) = some b) : opened = false := by
  have hne : c ≠ '\n' := by
    rintro rfl
    cases hc
  cases opened with
  | false => rfl
  | true => simp [scan, hne] at h

theorem Statement.scan_commentOut {line : Line} {b : Bool}
    (hcall : Text.occurs callText line = true) (h : scan false line = some b) :
    scan false (commentOut line) = some b := by
  have hline : line.takeWhile Text.isBlank ++ Text.trimLeft line = line :=
    List.takeWhile_append_dropWhile
  rw [← hline, Text.scan_append] at h
  obtain ⟨opened, hindent, h⟩ := Option.bind_eq_some_iff.1 h
  have hopened : opened = false := by
    cases hleft : Text.trimLeft line with
    | nil =>
      obtain ⟨s, t, hcall⟩ := exists_trimLeft_eq hcall
      have hne : callText ≠ [] := by decide
      rw [hleft, eq_comm, List.append_eq_nil_iff, List.append_eq_nil_iff] at hcall
      exact absurd hcall.1.2 hne
    | cons c cs =>
      have hfirst := List.head?_dropWhile_not Text.isBlank line
      rw [← Text.dropLeft, ← Text.trimLeft, hleft] at hfirst
      rw [hleft] at h
      exact scan_of_not_blank hfirst h
  rw [commentOut, Text.scan_append, hindent, hopened]
  rw [hopened] at h
  exact h

theorem Blanks.scan_clean {line : Line} {b : Bool} (h : scan false line = some b) :
    scan false (clean line) = some b := by
  obtain ⟨kept, gone, cr, hline, hbody, hkept⟩ := parts line
  have hlast := Text.eq_of_scan h
  rw [hline, List.append_assoc, Text.scan_append] at h
  obtain ⟨opened, hscan, -⟩ := Option.bind_eq_some_iff.1 h
  -- a carriage return is a blank, so none is left at the end of what is kept
  have hopened : opened = false := by
    rw [Text.eq_of_scan hscan, beq_eq_false_iff_ne]
    intro hcr
    have hblank : Text.isBlank '\r' = false := Text.getLast?_dropRight (hkept ▸ hcr)
    cases hblank
  rw [clean, hbody, hkept, Text.scan_append, hscan, hopened, Option.bind_some, hlast]
  have hcr : cr = (body line).2 := by rw [hbody]
  rw [hcr, body]
  split
  · rename_i hend
    rw [hend]
    rfl
  · rename_i hend
    rw [beq_eq_false_iff_ne.2 hend]
    rfl

theorem Blanks.crlf (h : Blanks.attempt content = .fixed text summary es)
    (hcontent : Crlf content.toList) : Crlf text.toList := by
  obtain ⟨rfl, -, -⟩ := of_attempt h
  have hlines := terminated_of_crlf hcontent
  rw [crlf_toText_iff]
  generalize Lines.ofText content = ls at hlines
  induction ls with
  | nil => trivial
  | cons l ls ih =>
    have hempty : (ls.map clean).isEmpty = ls.isEmpty := by cases ls <;> rfl
    rw [List.map_cons, Terminated, hempty]
    exact ⟨scan_clean hlines.1, ih hlines.2⟩

theorem Statement.crlf_console (h : Statement.consoleAttempt d content = .fixed text summary es)
    (hcontent : Crlf content.toList) : Crlf text.toList := by
  obtain ⟨before, line, after, hls, -, hcall, rfl, -⟩ := of_consoleAttempt h
  have hlines := terminated_of_crlf hcontent
  rw [hls] at hlines
  rw [crlf_toText_iff, terminated_put hlines]
  exact scan_commentOut hcall hlines.of_append.1

end

namespace Extension

open Pattern (Piece Spells)

section
variable {module cs m n : List Char} {pieces : List Piece} {opened b : Bool}

theorem scan_fill_congr (hm : ∀ opened, scan opened m = scan opened n) (opened : Bool) :
    scan opened (Piece.fill pieces m) = scan opened (Piece.fill pieces n) := by
  induction pieces generalizing opened with
  | nil => rfl
  | cons p pieces ih =>
    have hp : scan opened (Piece.fill [p] m) = scan opened (Piece.fill [p] n) := by
      cases p with
      | text cs => rfl
      | match_ => simpa [Piece.fill] using hm opened
    rw [Piece.fill_cons, Piece.fill_cons p pieces n, Text.scan_append, Text.scan_append, hp]
    congr 1
    funext opened
    exact ih opened

theorem not_quote_return : isQuote '\r' = false := rfl

theorem not_quote_newline : isQuote '\n' = false := rfl

theorem ne_of_isQuote {q c : Char} (hq : isQuote q = true) (hc : isQuote c = false) : c ≠ q := by
  rintro rfl
  rw [hc] at hq
  cases hq

theorem scan_quoted (hlf : '\n' ∉ module) (hcr : '\r' ∉ module) {q r : Char}
    (hq : isQuote q = true) (hr : isQuote r = true) (opened : Bool) :
    scan opened (q :: (module ++ [r])) = if opened then none else some false := by
  apply Text.scan_of_not_mem (List.cons_ne_nil _ _)
  · simp [hcr, ne_of_isQuote hq not_quote_return, ne_of_isQuote hr not_quote_return]
  · simp [hlf, ne_of_isQuote hq not_quote_newline, ne_of_isQuote hr not_quote_newline]

theorem return_not_mem_of_scan (hlf : '\n' ∉ module) {q r : Char} (hr : isQuote r = true)
    (h : scan opened (q :: (module ++ [r])) = some b) : '\r' ∉ module := by
  intro hcr
  obtain ⟨init, tail, rfl⟩ := List.append_of_mem hcr
  have hsplit : q :: (init ++ '\r' :: tail ++ [r]) = q :: init ++ '\r' :: (tail ++ [r]) := by simp
  rw [hsplit, Text.scan_append] at h
  obtain ⟨before, -, h⟩ := Option.bind_eq_some_iff.1 h
  cases before with
  | true => simp [scan] at h
  | false =>
    have hrest : '\n' ∉ tail ++ [r] := by
      rw [List.mem_append, List.mem_singleton, not_or]
      refine ⟨fun hmem => hlf ?_, ne_of_isQuote hr not_quote_newline⟩
      exact List.mem_append_right init (List.mem_cons_of_mem _ hmem)
    have hnil := Text.eq_nil_of_scan h hrest
    simp at hnil

theorem head?_renameAll (hstarts : ∀ m, ∃ rest, Piece.fill pieces m = '\'' :: rest) (fuel : Nat)
    (cs : List Char) : (renameAll module pieces fuel cs).head? = cs.head? ∨
      (renameAll module pieces fuel cs).head? = some '\'' := by
  cases fuel with
  | zero => exact .inl rfl
  | succ fuel =>
    cases cs with
    | nil => exact .inl rfl
    | cons c cs =>
      rw [renameAll]
      split
      · rename_i m rest hm
        obtain ⟨new, hnew⟩ := hstarts m
        exact .inr (by rw [hnew]; rfl)
      · exact .inl rfl

/-- Behind a replacement there is no newline if there is none behind the mention. -/
theorem eq_false_of_scan_renameAll (hstarts : ∀ m, ∃ rest, Piece.fill pieces m = '\'' :: rest)
    {fuel : Nat} (h : scan false cs = some b)
    (hnew : scan opened (renameAll module pieces fuel cs) = some b) : opened = false := by
  have hhead : (renameAll module pieces fuel cs).head? = cs.head? ∨ _ :=
    head?_renameAll hstarts fuel cs
  cases opened with
  | false => rfl
  | true =>
    cases hren : renameAll module pieces fuel cs with
    | nil =>
      rw [hren] at hnew hhead
      obtain hhead | hhead := hhead
      · rw [List.head?_eq_none_iff.1 hhead.symm] at h
        rw [scan] at h hnew
        exact absurd (h.trans hnew.symm) (by decide)
      · cases hhead
    | cons d ds =>
      rw [hren] at hnew hhead
      have hd : d = '\n' := Decidable.byContradiction fun hd => by simp [scan, hd] at hnew
      rw [hd] at hhead
      obtain hhead | hhead := hhead
      · obtain ⟨tail, rfl⟩ := List.head?_eq_some_iff.1 hhead.symm
        cases h
      · cases hhead

theorem scan_renameAll (hmodule : '\n' ∉ module)
    (hstarts : ∀ m, ∃ rest, Piece.fill pieces m = '\'' :: rest) {fuel : Nat}
    (h : scan opened cs = some b) (hne : renameAll module pieces fuel cs ≠ cs) :
    scan opened (renameAll module pieces fuel cs) = some b ↔
      Crlf (Piece.fill pieces ('\'' :: (module ++ ['\'']))) := by
  induction fuel generalizing cs opened with
  | zero => exact absurd rfl hne
  | succ fuel ih =>
    cases cs with
    | nil => exact absurd rfl hne
    | cons c cs =>
      cases hm : mention? module (c :: cs) with
      | none =>
        simp only [renameAll, hm] at hne ⊢
        rw [← List.singleton_append, Text.scan_append] at h ⊢
        obtain ⟨next, hnext, h⟩ := Option.bind_eq_some_iff.1 h
        rw [hnext, Option.bind_some]
        exact ih h fun heq => hne (by rw [heq])
      | some found =>
        obtain ⟨m, rest⟩ := found
        obtain ⟨q, r, hq, hr, rfl, hcs⟩ := mention?_eq_some_iff.1 hm
        have hsplit : c :: cs = q :: (module ++ [r]) ++ rest := by simp [hcs]
        rw [hsplit, Text.scan_append] at h
        obtain ⟨next, hmention, h⟩ := Option.bind_eq_some_iff.1 h
        have hcr := return_not_mem_of_scan hmodule hr hmention
        have hquoted := scan_quoted hmodule hcr hq hr
        rw [hquoted opened] at hmention
        cases opened with
        | true => cases hmention
        | false =>
          cases hmention
          -- whichever quotes are recalled, there is no line ending in them
          have hfill : scan false (Piece.fill pieces (q :: (module ++ [r]))) =
              scan false (Piece.fill pieces ('\'' :: (module ++ ['\'']))) := by
            apply scan_fill_congr
            intro opened
            rw [hquoted, scan_quoted hmodule hcr rfl rfl]
          simp only [renameAll, hm]
          rw [Text.scan_append, hfill, crlf_iff_scan]
          constructor
          · intro hnew
            obtain ⟨next, hreplacement, hnew⟩ := Option.bind_eq_some_iff.1 hnew
            rw [hreplacement, eq_false_of_scan_renameAll hstarts h hnew]
          · intro hreplacement
            rw [hreplacement, Option.bind_some]
            by_cases hrest : renameAll module pieces fuel rest = rest
            · rw [hrest]
              exact h
            · rw [ih h hrest, crlf_iff_scan]
              exact hreplacement

theorem terminated_map_renameLine (hmodule : '\n' ∉ module)
    (hstarts : ∀ m, ∃ rest, Piece.fill pieces m = '\'' :: rest) {ls : List Line}
    (h : Terminated ls) (hne : ∃ l ∈ ls, renameLine module pieces l ≠ l) :
    Terminated (ls.map (renameLine module pieces)) ↔
      Crlf (Piece.fill pieces ('\'' :: (module ++ ['\'']))) := by
  induction ls with
  | nil => exact absurd hne (by simp)
  | cons l ls ih =>
    have hempty : (ls.map (renameLine module pieces)).isEmpty = ls.isEmpty := by
      cases ls <;> rfl
    have hl : renameLine module pieces l ≠ l →
        (scan false (renameLine module pieces l) = some (!ls.isEmpty) ↔
          Crlf (Piece.fill pieces ('\'' :: (module ++ ['\''])))) :=
      scan_renameAll hmodule hstarts h.1
    rw [List.map_cons, Terminated, hempty]
    by_cases hrest : ∃ k ∈ ls, renameLine module pieces k ≠ k
    · rw [ih h.2 hrest]
      refine and_iff_right_of_imp fun hnew => ?_
      by_cases heq : renameLine module pieces l = l
      · rw [heq]
        exact h.1
      · exact (hl heq).2 hnew
    · have hsame : ls.map (renameLine module pieces) = ls := by
        conv => rhs; rw [← List.map_id ls]
        exact List.map_congr_left fun k hk => Decidable.byContradiction fun h => hrest ⟨k, hk, h⟩
      have hchanged : renameLine module pieces l ≠ l := by
        obtain ⟨k, hk, hne⟩ := hne
        obtain rfl | hk := List.mem_cons.1 hk
        · exact hne
        · exact absurd ⟨k, hk, hne⟩ hrest
      rw [hsame, hl hchanged]
      exact and_iff_left h.2

end

end Extension

section
variable {tree : FileTree} {d : Diagnostic} {context : Option Context}
  {content text summary : String} {es : List Edit}

theorem Extension.crlf_iff {extensions : List String}
    (h : Extension.attempt extensions tree d content context = .ok (.fixed text summary es))
    (hcontent : Crlf content.toList) :
    Crlf text.toList ↔ ∀ module ext pieces, moduleMessage.name? d.text = some module →
      resolve tree (Path.ofString (sourceFile d context)).parent (.ofList module) extensions =
        .ok (some ext) →
      Pattern.Piece.read s!"'{String.ofList module}{ext}'".toList = .ok pieces →
      Crlf (Pattern.Piece.fill pieces ('\'' :: (module ++ ['\'']))) := by
  obtain ⟨module, ext, pieces, hmodule, -, -, hresolve, hread, rfl, hes, hne⟩ := of_attempt h
  have hstarts (m : List Char) : ∃ rest, Pattern.Piece.fill pieces m = '\'' :: rest := by
    have hspells : Pattern.Spells pieces ('\'' :: (module ++ (ext.toList ++ ['\'']))) := by
      simpa [toString] using Pattern.Piece.spells_of_read hread
    obtain ⟨qs, rfl, -⟩ := hspells.of_cons (by decide)
    exact ⟨_, Pattern.Piece.fill_cons _ qs m⟩
  have hchanged : ∃ l ∈ Lines.ofText content, renameLine module pieces l ≠ l := by
    rw [hes, ne_eq, editsFrom_eq_nil_iff] at hne
    simpa using hne
  rw [crlf_toText_iff, terminated_map_renameLine (Capture.of_name? hmodule).1 hstarts
    (terminated_of_crlf hcontent) hchanged]
  constructor
  · intro hnew module' ext' pieces' hmodule' hresolve' hread'
    rw [hmodule] at hmodule'
    cases hmodule'
    rw [hresolve] at hresolve'
    cases hresolve'
    rw [hread] at hread'
    cases hread'
    exact hnew
  · exact fun hall => hall module ext pieces hmodule hresolve hread

/-- What keeps the line endings of a text with two characters for each: a terminator that fits
between them or is put on the last line, lines deleted with some left behind them or none before
them, and a replacement without a lone character of a line ending. Braces are put in on lines that
do not end like the others. -/
def KeepsEndings (tree : FileTree) (d : Diagnostic) (context : Option Context) (content : String)
    (es : List Edit) : Strategy → Prop
  | terminator mark =>
    if d.line = (Lines.ofText content).length then Crlf mark.toList
    else Crlf ('\r' :: (mark.toList ++ ['\n']))
  | brackets => False
  | debugger | unusedVariable _ | unusedImport | unreachable =>
    ∃ e first last, es = [e] ∧ e.span? = some (first, last) ∧
      (first = 1 ∨ last < (Lines.ofText content).length)
  | extension extensions =>
    ∀ module ext pieces, Extension.moduleMessage.name? d.text = some module →
      Extension.resolve tree (Path.ofString (Extension.sourceFile d context)).parent
        (.ofList module) extensions = .ok (some ext) →
      Pattern.Piece.read s!"'{String.ofList module}{ext}'".toList = .ok pieces →
      Crlf (Pattern.Piece.fill pieces ('\'' :: (module ++ ['\''])))
  | _ => True

/-- A repair of a text with line endings of two characters leads to another one just when it keeps
them. -/
theorem crlf_iff_keepsEndings {s : Strategy}
    (h : s.attempt tree d content context = .ok (.fixed text summary es))
    (hcontent : Crlf content.toList) :
    Crlf text.toList ↔ KeepsEndings tree d context content es s := by
  cases s with
  | terminator mark => exact Terminator.crlf_iff (Except.ok.inj h) hcontent
  | brackets => exact iff_of_false (Brackets.not_crlf (Except.ok.inj h) hcontent) id
  | unexpectedToken => cases h
  | trailingBlanks => exact iff_of_true (Blanks.crlf (Except.ok.inj h) hcontent) trivial
  | console => exact iff_of_true (Statement.crlf_console (Except.ok.inj h) hcontent) trivial
  | debugger => exact (removes_of_attempt rfl h).crlf_iff hcontent
  | unusedVariable window => exact (removes_of_attempt rfl h).crlf_iff hcontent
  | unusedImport => exact (removes_of_attempt rfl h).crlf_iff hcontent
  | unreachable => exact (removes_of_attempt rfl h).crlf_iff hcontent
  | extension extensions => exact Extension.crlf_iff h hcontent
  | missingName => exact absurd (Except.ok.inj h) MissingName.attempt_ne_fixed
  | decline reason => cases h
  | broken fault => cases h

end

theorem crlf_iff_keepsEndings_terminator :
    let d : Diagnostic := ⟨.known .grammar, some "Missing semicolon", "a.js", 1, .low, 0, ""⟩
    let es : List Edit := [{ kind := .insert, line := some 1, column := some 2, text := some ";" }]
    (terminator ";").attempt .empty d "a\r\nb" none =
        .ok (.fixed "a\r;\nb" "Added missing semicolon" es) ∧
      Crlf "a\r\nb".toList ∧ ¬ Crlf "a\r;\nb".toList := by
  intro d es
  have h : (terminator ";").attempt .empty d "a\r\nb" none =
      .ok (.fixed "a\r;\nb" "Added missing semicolon" es) := rfl
  have hcontent : Crlf "a\r\nb".toList := crlf_iff_scan.2 rfl
  refine ⟨h, hcontent, fun htext => ?_⟩
  have hkeeps := (crlf_iff_keepsEndings h hcontent).1 htext
  rw [KeepsEndings, if_neg (by decide), crlf_iff_scan] at hkeeps
  cases hkeeps

end Mend.Strategy
