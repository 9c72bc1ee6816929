import Mend.Proofs.Strategy.QuotedName
import Mend.Proofs.Strategy.Removal

namespace Mend

namespace Strategy.Unused

open Pattern

inductive Leads : List Char → Prop
  | keyword {before gap : List Char} (hbefore : before.getLast?.any Text.isWord = false)
    (hgap : gap ≠ []) (hblank : ∀ c ∈ gap, Text.isBlank c = true) :
    Leads (before ++ ("import".toList ++ gap))
  | comma {gap : List Char} (before : List Char) (hblank : ∀ c ∈ gap, Text.isBlank c = true) :
    Leads (before ++ ',' :: gap)
  | brace {gap : List Char} (before : List Char) (hblank : ∀ c ∈ gap, Text.isBlank c = true) :
    Leads (before ++ '\x7b' :: gap)

/-- The line has the name as a complete identifier at one of these places. -/
def NamesWhole (name : List Char) (line : Line) : Prop :=
  ∃ before after, line = before ++ (name ++ after) ∧ Leads before ∧
    before.getLast?.any Text.isIdent = false ∧ after.head?.any Text.isIdent = false

/-- The line has the name at one of these places, and a word begins or ends behind it. -/
def NamesToEdge (name : List Char) (line : Line) : Prop :=
  ∃ before after, line = before ++ (name ++ after) ∧ Leads before ∧
    name.getLast?.any Text.isWord ≠ after.head?.any Text.isWord

/-- The line has the name at one of these places, and the name ends in or is followed by a dollar
sign. -/
def NamesAtDollar (name : List Char) (line : Line) : Prop :=
  ∃ before after, line = before ++ (name ++ after) ∧ Leads before ∧
    (name.getLast? = some '$' ∨ after.head? = some '$')

section
variable {name a w b before : List Char} {c : Char} {line : Line}

theorem Leads.getLast?_any_isIdent (h : Leads before) :
    before.getLast?.any Text.isIdent = false := by
  have hmark {c : Char} {gap : List Char} (hc : Text.isIdent c = false)
      (hblank : ∀ c ∈ gap, Text.isBlank c = true) (before : List Char) :
      (before ++ c :: gap).getLast?.any Text.isIdent = false := by
    have hall : ∀ d ∈ c :: gap, Text.isIdent d = false := by
      rw [List.forall_mem_cons]
      exact ⟨hc, fun d hd => Text.isIdent_eq_false_of_isBlank (hblank d hd)⟩
    rw [List.getLast?_append, List.getLast?_eq_some_getLast (List.cons_ne_nil c gap)]
    exact hall _ (List.getLast_mem _)
  cases h with
  | @keyword before gap _ hgap hblank =>
    cases gap with
    | nil => exact absurd rfl hgap
    | cons c gap =>
      rw [List.forall_mem_cons] at hblank
      rw [← List.append_assoc]
      exact hmark (Text.isIdent_eq_false_of_isBlank hblank.1) hblank.2 _
  | comma before hblank => exact hmark rfl hblank before
  | brace before hblank => exact hmark rfl hblank before

/-- The end of the name is the end of an identifier, except at a dollar sign. -/
theorem namesToEdge_iff_namesWhole (hname : IsIdentifier name) (h : ¬ NamesAtDollar name line) :
    NamesToEdge name line ↔ NamesWhole name line := by
  have hedge {after : List Char} (hlast : name.getLast? ≠ some '$')
      (hhead : after.head? ≠ some '$') :
      name.getLast?.any Text.isWord ≠ after.head?.any Text.isWord ↔
        after.head?.any Text.isIdent = false := by
    obtain ⟨init, c, rfl⟩ : ∃ init c, name = init ++ [c] :=
      ⟨_, _, (List.dropLast_concat_getLast hname.1).symm⟩
    have hc : Text.isWord c = true := by
      have hident := hname.2 c List.mem_concat_self
      rw [List.getLast?_concat, ne_eq, Option.some.injEq] at hlast
      simpa [Text.isIdent, hlast] using hident
    rw [List.getLast?_concat, Option.any_some, hc]
    cases after with
    | nil => simp
    | cons d after =>
      have hd : d ≠ '$' := by simpa using hhead
      simp [Text.isIdent, hd]
  constructor
  · rintro ⟨before, after, hline, hleads, hends⟩
    have hno : ¬ (name.getLast? = some '$' ∨ after.head? = some '$') :=
      fun hdollar => h ⟨before, after, hline, hleads, hdollar⟩
    rw [not_or] at hno
    exact ⟨before, after, hline, hleads, hleads.getLast?_any_isIdent, (hedge hno.1 hno.2).1 hends⟩
  · rintro ⟨before, after, hline, hleads, -, hends⟩
    have hno : ¬ (name.getLast? = some '$' ∨ after.head? = some '$') :=
      fun hdollar => h ⟨before, after, hline, hleads, hdollar⟩
    rw [not_or] at hno
    exact ⟨before, after, hline, hleads, (hedge hno.1 hno.2).2 hends⟩

theorem takes_ended (hname : name ≠ []) : (all [.exactly name, .boundary]).Takes a w b ↔
    w = name ∧ name.getLast?.any Text.isWord ≠ b.head?.any Text.isWord := by
  have hlast : (a ++ name).getLast? = name.getLast? := by
    rw [List.getLast?_append, List.getLast?_eq_some_getLast hname]
    rfl
  have hedge : (Cursor.between (a ++ name) b).atBoundary = true ↔
      name.getLast?.any Text.isWord ≠ b.head?.any Text.isWord := by
    rw [Cursor.atBoundary, bne_iff_ne, Cursor.wordBefore, Cursor.wordAfter, Cursor.between, hlast]
  rw [takes_all_exactly, ← hedge]
  constructor
  · rintro ⟨v, rfl, hv⟩
    obtain ⟨rfl, hboundary⟩ := takes_boundary.1 hv
    exact ⟨List.append_nil name, hboundary⟩
  · rintro ⟨rfl, hboundary⟩
    exact ⟨[], (List.append_nil w).symm, takes_boundary.2 ⟨rfl, hboundary⟩⟩

theorem takes_marked (hname : name ≠ []) :
    (all [.one (.only c), .blanks, .exactly name, .boundary]).Takes a w b ↔
      ∃ gap, w = c :: (gap ++ name) ∧ (∀ c ∈ gap, Text.isBlank c = true) ∧
        name.getLast?.any Text.isWord ≠ b.head?.any Text.isWord := by
  rw [takes_all_only]
  constructor
  · rintro ⟨v, rfl, h⟩
    obtain ⟨gap, u, rfl, hblank, hrest⟩ := takes_all_blanks.1 h
    obtain ⟨rfl, hends⟩ := (takes_ended hname).1 hrest
    exact ⟨gap, rfl, hblank, hends⟩
  · rintro ⟨gap, rfl, hblank, hends⟩
    exact ⟨_, rfl, takes_all_blanks.2 ⟨gap, name, rfl, hblank, (takes_ended hname).2 ⟨rfl, hends⟩⟩⟩

theorem takes_imported (hname : name ≠ []) :
    (all [.boundary, .word "import", .someBlanks, .exactly name, .boundary]).Takes a w b ↔
      ∃ gap, w = "import".toList ++ (gap ++ name) ∧ a.getLast?.any Text.isWord = false ∧
        (gap ≠ [] ∧ ∀ c ∈ gap, Text.isBlank c = true) ∧
        name.getLast?.any Text.isWord ≠ b.head?.any Text.isWord := by
  have hedge {a rest : List Char} :
      (Cursor.between a ("import".toList ++ rest)).atBoundary = true ↔
        a.getLast?.any Text.isWord = false := Cursor.atBoundary_between_cons (c := 'i') rfl
  rw [takes_all_boundary, Pattern.word, takes_all_exactly]
  constructor
  · rintro ⟨hboundary, v, rfl, h⟩
    obtain ⟨gap, u, rfl, hgap, hrest⟩ := takes_all_someBlanks.1 h
    obtain ⟨rfl, hends⟩ := (takes_ended hname).1 hrest
    rw [List.append_assoc, hedge] at hboundary
    exact ⟨gap, rfl, hboundary, hgap, hends⟩
  · rintro ⟨gap, rfl, hbefore, hgap, hends⟩
    rw [List.append_assoc, hedge]
    exact ⟨hbefore, _, rfl,
      takes_all_someBlanks.2 ⟨gap, name, rfl, hgap, (takes_ended hname).2 ⟨rfl, hends⟩⟩⟩

theorem importsName_iff (hname : name ≠ []) : importsName name line = true ↔
    importLine.found line = true ∧ NamesToEdge name line := by
  rw [importsName, Bool.and_eq_true, and_congr_right_iff]
  intro _
  simp only [mentions, List.any_cons, List.any_nil, Bool.or_eq_true, Bool.or_false,
    found_iff_takes, takes_marked hname, takes_imported hname]
  constructor
  · rintro (⟨a, _, b, rfl, gap, rfl, hbefore, ⟨hgap, hblank⟩, hends⟩ |
      ⟨a, _, b, rfl, gap, rfl, hblank, hends⟩ | ⟨a, _, b, rfl, gap, rfl, hblank, hends⟩)
    · exact ⟨_, b, by simp, .keyword hbefore hgap hblank, hends⟩
    · exact ⟨_, b, by simp, .comma a hblank, hends⟩
    · exact ⟨_, b, by simp, .brace a hblank, hends⟩
  · rintro ⟨_, b, rfl, hleads, hends⟩
    cases hleads with
    | @keyword a gap hbefore hgap hblank =>
      exact .inl ⟨a, _, b, by simp, gap, rfl, hbefore, ⟨hgap, hblank⟩, hends⟩
    | @comma gap a hblank => exact .inr (.inl ⟨a, _, b, by simp, gap, rfl, hblank, hends⟩)
    | @brace gap a hblank => exact .inr (.inr ⟨a, _, b, by simp, gap, rfl, hblank, hends⟩)

theorem nameIn?_importMessages (hname : IsIdentifier name) :
    nameIn? importMessages ('\'' :: (name ++ "' is imported but never used".toList)) =
      some name := by
  have hfirst : Capture.firstName? importMessages
      ('\'' :: (name ++ "' is imported but never used".toList)) = some name := by
    simpa using firstName?_importMessages hname [] rfl (fun _ _ => List.not_mem_nil) []
  obtain ⟨c, cs, hcs⟩ := List.exists_cons_of_ne_nil hname.1
  rw [nameIn?, hfirst]
  dsimp only
  rw [Text.stripChars_eq_self hname.not_quote, hcs]

end

section
variable {P Q : Line → Prop} {content : String} {i j : Nat} {a : Attempt}

def IsFirst (P : Line → Prop) (content : String) (i : Nat) : Prop :=
  LineAt P content i ∧ ∀ j < i, ¬ LineAt P content j

inductive DeletesFirst (P : Line → Prop) (content : String) : Attempt → Prop
  | deletes {i : Nat} {a : Attempt} (hfirst : IsFirst P content i) (h : Deletes content i a) :
    DeletesFirst P content a
  | declines (hnone : ∀ i, ¬ LineAt P content i) (reason : String) :
    DeletesFirst P content (.decline reason)

theorem IsFirst.eq (hi : IsFirst P content i) (hj : IsFirst P content j) : i = j := by
  rcases Nat.lt_trichotomy i j with h | h | h
  · exact absurd hi.1 (hj.2 i h)
  · exact h
  · exact absurd hj.1 (hi.2 j h)

theorem exists_isFirst (h : LineAt P content i) : ∃ j, IsFirst P content j := by
  induction i using Nat.strongRecOn with
  | ind i ih =>
    by_cases hearlier : ∃ j < i, LineAt P content j
    · obtain ⟨j, hj, hline⟩ := hearlier
      exact ih j hj hline
    · exact ⟨i, h, fun j hj hline => hearlier ⟨j, hj, hline⟩⟩

theorem Deletes.place_eq (hi : Deletes content i a) (hj : Deletes content j a) : i = j := by
  have hrecord {i : Nat} (h : Deletes content i a) :
      ∃ text summary line, a = .fixed text summary [deletion i line] := by
    cases h with
    | intro summary _ => exact ⟨_, summary, _, rfl⟩
  obtain ⟨text, summary, line, rfl⟩ := hrecord hi
  obtain ⟨text', summary', line', h⟩ := hrecord hj
  injection h with _ _ hes
  have hline : (i : Int) = j := by simpa [deletion] using congrArg (List.map Edit.line) hes
  exact Int.ofNat.inj hline

/-- Deleting the first line with one property is deleting the first line with another when the two
begin at the same line. -/
theorem DeletesFirst.iff_isFirst (h : DeletesFirst P content a) :
    DeletesFirst Q content a ↔ ∀ i, IsFirst P content i ↔ IsFirst Q content i := by
  cases h with
  | @deletes i a hfirst hdeletes =>
    constructor
    · intro h
      cases h with
      | @deletes j a hfirst' hdeletes' =>
        obtain rfl := hdeletes.place_eq hdeletes'
        intro k
        constructor
        · intro hk
          exact hfirst.eq hk ▸ hfirst'
        · intro hk
          exact hfirst'.eq hk ▸ hfirst
      | declines _ _ => cases hdeletes
    · intro h
      exact .deletes ((h i).1 hfirst) hdeletes
  | declines hnone reason =>
    constructor
    · intro h
      cases h with
      | deletes _ hdeletes => cases hdeletes
      | declines hnone' _ =>
        intro i
        exact iff_of_false (fun hi => hnone i hi.1) (fun hi => hnone' i hi.1)
    · intro h
      refine .declines (fun i hi => ?_) reason
      obtain ⟨j, hj⟩ := exists_isFirst hi
      exact hnone j ((h j).2 hj).1

theorem DeletesFirst.congr (h : DeletesFirst P content a)
    (hlines : ∀ line ∈ Lines.ofText content, P line ↔ Q line) : DeletesFirst Q content a := by
  have hat (i : Nat) : LineAt P content i ↔ LineAt Q content i := by
    constructor
    · rintro ⟨line, hline, hP⟩
      exact ⟨line, hline, (hlines line (List.mem_of_getElem? hline)).1 hP⟩
    · rintro ⟨line, hline, hQ⟩
      exact ⟨line, hline, (hlines line (List.mem_of_getElem? hline)).2 hQ⟩
  rw [h.iff_isFirst]
  intro i
  simp only [IsFirst, hat]

end

/-- The first import line is deleted that has the name behind `import`, a comma or an opening brace
with the edge of a word behind it. This is the first import line that has the name as a complete
identifier there if the two agree on the first line, and so at least if none of these names ends in
or is followed by a dollar sign. -/
theorem importAttempt_deletes {name : List Char} (hname : IsIdentifier name) {d : Diagnostic}
    (hmessage : d.text = '\'' :: (name ++ "' is imported but never used".toList))
    (tree : FileTree) (content : String) (context : Option Context) :
    let toEdge (line : Line) := importLine.found line = true ∧ NamesToEdge name line
    let whole (line : Line) := importLine.found line = true ∧ NamesWhole name line
    ∃ a, unusedImport.attempt tree d content context = .ok a ∧ DeletesFirst toEdge content a ∧
      (DeletesFirst whole content a ↔ ∀ i, IsFirst toEdge content i ↔ IsFirst whole content i) ∧
      ((∀ line ∈ Lines.ofText content, importLine.found line = true → ¬ NamesAtDollar name line) →
        DeletesFirst whole content a) := by
  intro toEdge whole
  obtain ⟨a, hattempt⟩ : ∃ a, importAttempt d content = a := ⟨_, rfl⟩
  have htest (line : Line) : importsName name line = true ↔ toEdge line := importsName_iff hname.1
  have hdeletes : DeletesFirst toEdge content a := by
    rw [importAttempt, hmessage, nameIn?_importMessages hname] at hattempt
    obtain ⟨i, hi, hdeletes⟩ | ⟨hnone, rfl⟩ :=
      deletes_or_decline (importsName name) (fun _ => List.mem_range.1) hattempt
    · obtain ⟨htrue, hmem, hearlier⟩ := List.find?_range_eq_some.1 hi
      refine .deletes ⟨lineAt_iff.2 ⟨List.mem_range.1 hmem, (htest _).1 htrue⟩, ?_⟩ hdeletes
      intro j hj hline
      have hnot := hearlier j hj
      rw [(htest _).2 (lineAt_iff.1 hline).2] at hnot
      cases hnot
    · refine .declines (fun i hline => ?_) _
      obtain ⟨hi, hnamed⟩ := lineAt_iff.1 hline
      exact List.find?_eq_none.1 hnone i (List.mem_range.2 hi) ((htest _).2 hnamed)
  refine ⟨a, congrArg Except.ok hattempt, hdeletes, hdeletes.iff_isFirst, ?_⟩
  intro hplain
  apply hdeletes.congr
  intro line hline
  apply and_congr_right
  intro hfound
  exact namesToEdge_iff_namesWhole hname (hplain line hline hfound)

theorem importAttempt_deletes_second :
    let d : Diagnostic :=
      ⟨.known .unused, some "'b' is imported but never used", "a.js", 1, .low, 1, ""⟩
    let content := "import ab from 'm'\nimport c, { b } from 'n'\nb.c()"
    let a := Attempt.fixed "import ab from 'm'\nb.c()" "Removed unused import 'b'"
      [deletion 1 "import c, { b } from 'n'".toList]
    IsIdentifier ['b'] ∧ d.text = '\'' :: (['b'] ++ "' is imported but never used".toList) ∧
      unusedImport.attempt .empty d content none = .ok a ∧
      DeletesFirst (fun line => importLine.found line = true ∧ NamesWhole ['b'] line) content
        a := by
  intro d content a
  have hname : IsIdentifier ['b'] :=
    ⟨List.cons_ne_nil _ _, List.forall_mem_singleton.2 (by decide)⟩
  have hmessage : d.text = '\'' :: (['b'] ++ "' is imported but never used".toList) := by decide
  have hattempt : unusedImport.attempt .empty d content none = .ok a := by
    have himport : importAttempt d content = a := by decide +kernel
    exact congrArg Except.ok himport
  obtain ⟨a', ha', -, -, hwhole⟩ := importAttempt_deletes hname hmessage .empty content none
  obtain rfl : a = a' := Except.ok.inj (hattempt.symm.trans ha')
  refine ⟨hname, hmessage, hattempt, hwhole fun line hline _ hdollar => ?_⟩
  have hnone : ∀ line ∈ Lines.ofText content, '$' ∉ line := by decide +kernel
  obtain ⟨before, after, rfl, -, hlast | hhead⟩ := hdollar
  · cases hlast
  · exact hnone _ hline (by simp [List.mem_of_head? hhead])

end Strategy.Unused

end Mend
