import Mend.Catalog.Builtin
import Mend.Proofs.Strategy.Balance
import Mend.Proofs.Strategy.Mentions
import Mend.Proofs.Strategy.Once
import Mend.Proofs.Strategy.Removal

/-! Which of the built-in repairs come to an end. Lines and blanks that are taken away get fewer, a
terminator is put once, and a brace for each one that is missing. A commented call is still a call,
and a replacement may recall what it replaces: these are repaired for ever. -/

namespace Mend.Strategy

def isBuiltIn : Strategy → Bool
  | terminator mark => mark == ";"
  | extension extensions => extensions == [".js"]
  | broken _ => false
  | _ => true

theorem isBuiltIn_of_mem {t : Template} (h : t ∈ Catalog.builtin.list) :
    t.strategy.isBuiltIn = true := by
  have hall : Catalog.builtin.list.all (·.strategy.isBuiltIn) = true := rfl
  exact List.all_eq_true.1 hall t h

/-- Repairs after which there is again something to repair: of console calls, and of a module that
is recalled by what stands for it. -/
def Restless : Strategy → Diagnostic → Prop
  | console, _ => True
  | extension extensions, d =>
    ∃ module, ∃ ext ∈ extensions, ∃ pieces,
      Extension.moduleMessage.name? d.text = some module ∧
        Pattern.Piece.read s!"'{String.ofList module}{ext}'".toList = .ok pieces ∧
        .match_ ∈ pieces
  | _, _ => False

section
variable {s : Strategy} {tree : FileTree} {d : Diagnostic} {context : Option Context}
  {content text summary reason : String} {es : List Edit}

theorem declines_or_fixed {a : Attempt} (h : s.attempt tree d content context = .ok a) :
    Declines s tree d context content ∨
      ∃ text summary es, s.attempt tree d content context = .ok (.fixed text summary es) := by
  cases a with
  | fixed text summary es => exact .inr ⟨text, summary, es, h⟩
  | declined reason suggestion summary => exact .inl ⟨reason, suggestion, summary, h⟩

theorem settles_of_lt (measure : String → Nat)
    (hanswer : ∀ content, ∃ a, s.attempt tree d content context = .ok a)
    (hlt : ∀ content text summary es,
      s.attempt tree d content context = .ok (.fixed text summary es) →
        measure text < measure content)
    (content : String) : Settles s tree d context content := by
  apply settles_of_measure (fun _ => True) measure _ trivial
  intro content _
  obtain ⟨a, ha⟩ := hanswer content
  apply (declines_or_fixed ha).imp_right
  rintro ⟨text, summary, es, h⟩
  exact ⟨text, summary, es, h, trivial, hlt content text summary es h⟩

theorem Blanks.length_lt (h : Blanks.attempt content = .fixed text summary es) :
    text.toList.length < content.toList.length := by
  obtain ⟨htext, hes, hne⟩ := of_attempt h
  obtain ⟨k, hsize, hk⟩ := exchanges_clean.size_map (Lines.ofText content)
  have hpos : 0 < k := by
    apply Nat.pos_of_ne_zero
    intro hzero
    rw [hes, editsFrom_eq] at hne
    apply toText_map_ne_of_lineEdits exchanges_clean (fun _ _ _ => clean_ne_of_edit?_eq_some) hne
    rw [hk hzero]
  have hlines : 0 < Lines.size ((Lines.ofText content).map clean) := by
    apply Nat.lt_of_lt_of_le _ (Lines.length_le_size _)
    rw [List.length_map]
    exact Lines.length_split_pos '\n' _
  rw [htext, ← Lines.join_ofText content, Lines.toText, String.toList_ofList, Lines.length_join,
    Lines.length_join]
  omega

theorem settles_trailingBlanks (tree : FileTree) (d : Diagnostic) (context : Option Context)
    (content : String) : Settles trailingBlanks tree d context content := by
  apply settles_of_lt fun content => content.toList.length
  · exact fun content => ⟨_, rfl⟩
  · exact fun content text summary es h => Blanks.length_lt (Except.ok.inj h)

theorem settles_of_deletes (hs : s.deletes = true) (tree : FileTree) (d : Diagnostic)
    (context : Option Context) (content : String) : Settles s tree d context content := by
  apply settles_of_lt fun content => content.toList.length
  · intro content
    cases s with
    | debugger => exact ⟨_, rfl⟩
    | unusedVariable window => exact ⟨_, rfl⟩
    | unusedImport => exact ⟨_, rfl⟩
    | unreachable => exact ⟨_, rfl⟩
    | _ => cases hs
  · exact fun content text summary es h => (removes_of_attempt hs h).length_lt

theorem settles_terminator (tree : FileTree) (d : Diagnostic) (context : Option Context)
    (content : String) : Settles (terminator ";") tree d context content := by
  obtain hdeclines | ⟨text, summary, es, h⟩ := declines_or_fixed (s := terminator ";") rfl
  · exact .of_declines hdeclines
  · have hagain := Terminator.declines_again (by decide) (by decide) h
    exact .of_fixed h (.of_declines ⟨Terminator.reason, none, none, hagain⟩)

theorem settles_brackets (tree : FileTree) (d : Diagnostic) (context : Option Context)
    (content : String) : Settles brackets tree d context content := by
  obtain ⟨es, last, hinserts, -, -, hdepth, htotal⟩ := Brackets.all_rounds tree d context rfl rfl
  exact ⟨_, last, hinserts.1, Brackets.declines_iff.2 ⟨hdepth, htotal⟩⟩

theorem Statement.occurs_commentOut {line : Line} (h : Text.occurs callText line = true) :
    Text.occurs callText (commentOut line) = true := by
  obtain ⟨a, b, hleft⟩ := exists_trimLeft_eq h
  rw [Text.occurs_iff, commentOut, hleft]
  exact ⟨line.takeWhile Text.isBlank ++ '/' :: '/' :: ' ' :: a, b, by simp⟩

theorem Statement.newline_not_mem_commentOut {line : Line} (h : '\n' ∉ line) :
    '\n' ∉ commentOut line := by
  have hline : line.takeWhile Text.isBlank ++ Text.trimLeft line = line :=
    List.takeWhile_append_dropWhile
  rw [← hline, List.mem_append, not_or] at h
  simp [commentOut, h]

theorem Statement.consoleAttempt_eq {before after : List Line} {line : Line}
    (hls : Lines.ofText content = before ++ line :: after) (hline : d.line = before.length + 1)
    (hcall : Text.occurs callText line = true) :
    ∃ summary es, consoleAttempt d content =
      .fixed (Lines.toText (before ++ commentOut line :: after)) summary es := by
  rw [consoleAttempt, hls, Edit.index?_append hline]
  simp only [getD_append, hcall, set_append]
  exact ⟨_, _, rfl⟩

theorem not_settles_console (h : console.attempt tree d content context =
    .ok (.fixed text summary es)) : ¬ Settles console tree d context content := by
  -- a call stays on the reported line
  apply not_settles_of_invariant fun content => ∃ before line after,
    Lines.ofText content = before ++ line :: after ∧ d.line = before.length + 1 ∧
      Text.occurs Statement.callText line = true
  · rintro content ⟨before, line, after, hls, hline, hcall⟩
    obtain ⟨summary, es, hattempt⟩ := Statement.consoleAttempt_eq hls hline hcall
    have hgone : Lines.ofText content = before ++ [line] ++ after := by simpa using hls
    have hfree := Lines.newline_not_mem (hls ▸ List.mem_append_right before List.mem_cons_self)
    refine ⟨_, summary, es, congrArg Except.ok hattempt, before, Statement.commentOut line, after,
      ?_, hline, Statement.occurs_commentOut hcall⟩
    exact Lines.ofText_put hgone (Statement.newline_not_mem_commentOut hfree)
  · obtain ⟨before, line, after, hls, hline, hcall, -, -⟩ :=
      Statement.of_consoleAttempt (Except.ok.inj h)
    exact ⟨before, line, after, hls, hline, hcall⟩

theorem Extension.attempt_eq {extensions : List String} {module : List Char} {ext : String}
    {pieces : List Pattern.Piece} (hmodule : moduleMessage.name? d.text = some module)
    (hrelative : isRelative module = true) (hsource : sourceFile d context ≠ "")
    (hresolve : resolve tree (Path.ofString (sourceFile d context)).parent (.ofList module)
      extensions = .ok (some ext))
    (hread : Pattern.Piece.read s!"'{String.ofList module}{ext}'".toList = .ok pieces)
    (content : String) :
    ((∀ l ∈ Lines.ofText content, renameLine module pieces l = l) ∧
        ∃ reason, attempt extensions tree d content context = .ok (.decline reason)) ∨
      ((∃ l ∈ Lines.ofText content, renameLine module pieces l ≠ l) ∧
        ∃ summary es, attempt extensions tree d content context =
          .ok (.fixed (Lines.toText ((Lines.ofText content).map (renameLine module pieces)))
            summary es)) := by
  rw [attempt_of_resolve hmodule hrelative hsource hresolve, hread]
  dsimp only
  by_cases hall : ∀ l ∈ Lines.ofText content, renameLine module pieces l = l
  · refine .inl ⟨hall, ?_⟩
    rw [editsFrom_eq_nil_iff.2 hall]
    exact ⟨_, rfl⟩
  · refine .inr ⟨by simpa using hall, ?_⟩
    rw [if_neg (by rwa [List.isEmpty_iff, editsFrom_eq_nil_iff])]
    exact ⟨_, _, rfl⟩

theorem Extension.not_quote_of_mem {cs module : List Char}
    (hmodule : moduleMessage.name? cs = some module) (hrelative : isRelative module = true) :
    '\n' ∉ module ∧ ∀ c ∈ module, isQuote c = false := by
  obtain ⟨hline, hfree⟩ := Capture.of_name? hmodule
  refine ⟨hline, ?_⟩
  cases module with
  | nil => cases hrelative
  | cons c rest =>
    have hdot : c = '.' := by
      obtain h | h := Bool.or_eq_true_iff.1 hrelative
      · exact (List.cons_prefix_cons.1 (List.isPrefixOf_iff_prefix.1 h)).1.symm
      · exact (List.cons_prefix_cons.1 (List.isPrefixOf_iff_prefix.1 h)).1.symm
    refine List.forall_mem_cons.2 ⟨hdot ▸ rfl, fun c hc => ?_⟩
    have hnone := hfree c hc
    simpa [CharSet.has, isQuote] using hnone

theorem Extension.mem_of_resolve {base : Path} {module ext : String} {extensions : List String}
    (h : resolve tree base module extensions = .ok (some ext)) : ext ∈ extensions := by
  induction extensions with
  | nil => cases h
  | cons e rest ih =>
    unfold resolve at h
    dsimp only at h
    split at h
    · cases h
      exact List.mem_cons_self
    · cases h
    · exact List.mem_cons_of_mem e (ih h)

theorem settles_extension_iff (h : (extension [".js"]).attempt tree d content context =
      .ok (.fixed text summary es)) :
    Settles (extension [".js"]) tree d context content ↔ ¬ Restless (extension [".js"]) d := by
  obtain ⟨module, ext, pieces, hmodule, hrelative, hsource, hresolve, hread, -, -, -⟩ :=
    Extension.of_attempt h
  obtain ⟨hline, hquotes⟩ := Extension.not_quote_of_mem hmodule hrelative
  obtain rfl : ext = ".js" := List.mem_singleton.1 (Extension.mem_of_resolve hresolve)
  have hanswer := Extension.attempt_eq hmodule hrelative hsource hresolve hread
  have hspells : Pattern.Spells pieces ('\'' :: (module ++ ".js'".toList)) := by
    simpa [toString] using Pattern.Piece.spells_of_read hread
  by_cases hrecall : .match_ ∈ pieces
  · refine iff_of_false ?_ (not_not_intro ⟨module, ".js", List.mem_cons_self, pieces, hmodule, hread,
      hrecall⟩)
    have hlonger := Extension.exists_fill_eq_cons hspells hrecall
    -- a mention stays in the text
    apply not_settles_of_invariant fun content => 0 < Extension.mentions module content.toList
    · intro content hpos
      rw [← Lines.join_ofText content] at hpos
      obtain ⟨⟨l, hl, hne⟩, hpos⟩ := Extension.mentions_map_renameLine_pos hline hlonger hpos
      obtain ⟨hall, -⟩ | ⟨-, summary, es, hattempt⟩ := hanswer content
      · exact absurd (hall l hl) hne
      · exact ⟨_, summary, es, hattempt, by rwa [Lines.toText, String.toList_ofList]⟩
    · obtain ⟨-, reason, hattempt⟩ | ⟨hne, -⟩ := hanswer content
      · cases hattempt.symm.trans h
      · rw [← Lines.join_ofText content]
        exact Extension.mentions_join_pos hline hne
  · refine iff_of_true ?_ ?_
    · have hfinal := Extension.final_of_spells hquotes hspells hrecall
      apply settles_of_lt fun content => Extension.mentions module content.toList
      · intro content
        obtain ⟨-, reason, hattempt⟩ | ⟨-, summary, es, hattempt⟩ := hanswer content
        · exact ⟨_, hattempt⟩
        · exact ⟨_, hattempt⟩
      · intro content text summary es h
        obtain ⟨-, reason, hattempt⟩ | ⟨hne, summary, es, hattempt⟩ := hanswer content
        · cases hattempt.symm.trans h
        · cases hattempt.symm.trans h
          rw [← Lines.join_ofText content, Lines.toText, String.toList_ofList]
          exact (Extension.mentions_map_renameLine hline hquotes hfinal _).2 hne
    · rintro ⟨module', ext, hext, pieces', hmodule', hread', hrecall'⟩
      rw [List.mem_singleton.1 hext] at hread'
      rw [hmodule] at hmodule'
      cases hmodule'
      rw [hread] at hread'
      cases hread'
      exact hrecall hrecall'

theorem settles_of_fixed_iff (hs : s.isBuiltIn = true)
    (h : s.attempt tree d content context = .ok (.fixed text summary es)) :
    Settles s tree d context content ↔ ¬ Restless s d := by
  cases s with
  | terminator mark =>
    cases eq_of_beq hs
    exact iff_of_true (settles_terminator tree d context content) id
  | brackets => exact iff_of_true (settles_brackets tree d context content) id
  | unexpectedToken => cases h
  | trailingBlanks => exact iff_of_true (settles_trailingBlanks tree d context content) id
  | console => exact iff_of_false (not_settles_console h) (not_not_intro trivial)
  | debugger => exact iff_of_true (settles_of_deletes rfl tree d context content) id
  | unusedVariable window => exact iff_of_true (settles_of_deletes rfl tree d context content) id
  | unusedImport => exact iff_of_true (settles_of_deletes rfl tree d context content) id
  | unreachable => exact iff_of_true (settles_of_deletes rfl tree d context content) id
  | extension extensions =>
    cases eq_of_beq hs
    exact settles_extension_iff h
  | missingName => exact absurd (Except.ok.inj h) MissingName.attempt_ne_fixed
  | decline reason => cases h
  | broken fault => cases hs

/-- A built-in repair of a text comes to an end when the first attempt is answered, and does not
begin one of those that go on for ever. -/
theorem settles_iff {t : Template} (ht : t ∈ Catalog.builtin.list) (tree : FileTree)
    (d : Diagnostic) (context : Option Context) (content : String) :
    Settles t.strategy tree d context content ↔
      (∃ a, t.strategy.attempt tree d content context = .ok a) ∧
        (Restless t.strategy d → Declines t.strategy tree d context content) := by
  have hbuiltin := isBuiltIn_of_mem ht
  constructor
  · intro h
    obtain ⟨a, ha⟩ := h.exists_answer
    refine ⟨⟨a, ha⟩, fun hrestless => ?_⟩
    obtain hdeclines | ⟨text, summary, es, hfixed⟩ := declines_or_fixed ha
    · exact hdeclines
    · exact absurd hrestless ((settles_of_fixed_iff hbuiltin hfixed).1 h)
  · rintro ⟨⟨a, ha⟩, hdeclines⟩
    obtain hdeclined | ⟨text, summary, es, hfixed⟩ := declines_or_fixed ha
    · exact .of_declines hdeclined
    · exact (settles_of_fixed_iff hbuiltin hfixed).2 fun hrestless =>
        not_declines hfixed (hdeclines hrestless)

end

theorem settles_iff_console :
    let d : Diagnostic :=
      ⟨.known .style, some "Unexpected console statement", "a.js", 1, .low, 1, ""⟩
    ∃ t ∈ Catalog.builtin.list, t.strategy = console ∧
      ¬ Settles t.strategy .empty d none "// console.log(1)" ∧
      Settles t.strategy .empty d none "print(1)" := by
  intro d
  have hconsole : Catalog.builtin.list[16]?.map (·.strategy) = some console := rfl
  obtain ⟨t, ht, hstrategy⟩ := Option.map_eq_some_iff.1 hconsole
  have hmem : t ∈ Catalog.builtin.list := List.mem_of_getElem? ht
  have hfixed : console.attempt .empty d "// console.log(1)" none =
      .ok (.fixed "// // console.log(1)" "Commented out console statement"
        [{ kind := .modify, line := some 1, text := some "// // console.log(1)" }]) := rfl
  have hdeclined : console.attempt .empty d "print(1)" none =
      .ok (.decline "Could not locate console statement") := rfl
  refine ⟨t, hmem, hstrategy, fun h => ?_, ?_⟩
  · have hdeclines := ((settles_iff hmem .empty d none _).1 h).2
    rw [hstrategy] at hdeclines
    exact not_declines hfixed (hdeclines trivial)
  · rw [settles_iff hmem .empty d none, hstrategy]
    exact ⟨⟨_, hdeclined⟩, fun _ => ⟨_, _, _, hdeclined⟩⟩

end Mend.Strategy
