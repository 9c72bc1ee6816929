import Mathlib.Data.List.Basic
import Mend.Proofs.Pattern.Takes
import Mend.Proofs.Strategy.QuotedName
import Mend.Proofs.Strategy.Removal

namespace Mend.Strategy.Unused

open Pattern

def bindingWords : List (List Char) := ["const".toList, "let".toList, "var".toList]

/-- The words that introduce a name, and the mark that has to stand behind the name. -/
inductive Introduces : List Char → Char → Prop
  | value {word : List Char} (h : word ∈ bindingWords) : Introduces word '='
  | bare {word : List Char} (h : word ∈ bindingWords) : Introduces word ';'
  | function : Introduces "function".toList '('

/-- A line in which a name is introduced. The word may stand behind anything that is not a part of a
word. -/
inductive Declaration (name : List Char) : Line → Prop
  | intro {before word gap gap' : List Char} {mark : Char} (after : List Char)
    (hbefore : before.getLast?.any Text.isWord = false) (hword : Introduces word mark)
    (hgap : gap ≠ []) (hblank : ∀ c ∈ gap, Text.isBlank c = true)
    (hblank' : ∀ c ∈ gap', Text.isBlank c = true) :
    Declaration name (before ++ (word ++ (gap ++ (name ++ (gap' ++ mark :: after)))))

section
variable {name a w b : List Char} {line : Line} {p : Pattern} {mark : Char}

theorem takes_bindingOf : (bindingOf name).Takes a w b ↔ ∃ word ∈ bindingWords, ∃ gap,
    w = word ++ (gap ++ name) ∧ a.getLast?.any Text.isWord = false ∧ gap ≠ [] ∧
      ∀ c ∈ gap, Text.isBlank c = true := by
  have hkeyword {a w b : List Char} :
      (any [.word "const", .word "let", .word "var"]).Takes a w b ↔ w ∈ bindingWords := by
    rw [takes_any (List.cons_ne_nil _ _)]
    simp [word, takes_exactly, bindingWords]
  -- every one of the words begins with a letter
  have hedge {word rest : List Char} (hword : word ∈ bindingWords) :
      (Cursor.between a (word ++ rest)).atBoundary = true ↔ a.getLast?.any Text.isWord = false := by
    simp only [bindingWords, List.mem_cons, List.not_mem_nil, or_false] at hword
    rcases hword with rfl | rfl | rfl
    · exact Cursor.atBoundary_between_cons (c := 'c') rfl
    · exact Cursor.atBoundary_between_cons (c := 'l') rfl
    · exact Cursor.atBoundary_between_cons (c := 'v') rfl
  rw [bindingOf, takes_all_boundary, takes_all_cons]
  simp only [hkeyword, takes_all_someBlanks, takes_all_exactly, takes_all_nil, exists_eq_right,
    List.append_nil]
  constructor
  · rintro ⟨hboundary, word, _, rfl, hword, gap, _, rfl, ⟨hgap, hblank⟩, rfl⟩
    rw [List.append_assoc, hedge hword] at hboundary
    exact ⟨word, hword, gap, rfl, hboundary, hgap, hblank⟩
  · rintro ⟨word, hword, gap, rfl, hbefore, hgap, hblank⟩
    refine ⟨?_, word, _, rfl, hword, gap, _, rfl, ⟨hgap, hblank⟩, rfl⟩
    rwa [List.append_assoc, hedge hword]

theorem found_binding_iff : (all [bindingOf name, blanks, .one (.only mark)]).found line = true ↔
    ∃ before word gap gap' after,
      line = before ++ (word ++ (gap ++ (name ++ (gap' ++ mark :: after)))) ∧
      before.getLast?.any Text.isWord = false ∧ word ∈ bindingWords ∧ gap ≠ [] ∧
      (∀ c ∈ gap, Text.isBlank c = true) ∧ ∀ c ∈ gap', Text.isBlank c = true := by
  rw [found_iff_takes]
  simp only [takes_all_cons (p := bindingOf name), takes_bindingOf, takes_all_blanks,
    takes_all_only, takes_all_nil, exists_eq_right]
  constructor
  · rintro ⟨a, _, b, rfl, _, _, rfl, ⟨word, hword, gap, rfl, hbefore, hgap, hblank⟩, gap', _, rfl,
      hblank', rfl⟩
    exact ⟨a, word, gap, gap', b, by simp, hbefore, hword, hgap, hblank, hblank'⟩
  · rintro ⟨a, word, gap, gap', b, rfl, hbefore, hword, hgap, hblank, hblank'⟩
    exact ⟨a, _, b, by simp, _, _, rfl, ⟨word, hword, gap, rfl, hbefore, hgap, hblank⟩, gap', _,
      rfl, hblank', rfl⟩

theorem takes_functionOf : (functionOf name).Takes a w b ↔ ∃ gap gap',
    w = "function".toList ++ (gap ++ (name ++ (gap' ++ ['(']))) ∧
      (gap ≠ [] ∧ ∀ c ∈ gap, Text.isBlank c = true) ∧ ∀ c ∈ gap', Text.isBlank c = true := by
  simp only [functionOf, Pattern.word, takes_all_exactly, takes_all_someBlanks, takes_all_blanks,
    takes_all_only, takes_all_nil, exists_eq_right]
  constructor
  · rintro ⟨_, rfl, gap, _, rfl, hgap, _, rfl, gap', _, rfl, hgap', rfl⟩
    exact ⟨gap, gap', rfl, hgap, hgap'⟩
  · rintro ⟨gap, gap', rfl, hgap, hgap'⟩
    exact ⟨_, rfl, gap, _, rfl, hgap, _, rfl, gap', _, rfl, hgap', rfl⟩

theorem found_async (h : (all [.boundary, .word "async", someBlanks, functionOf name]).found line =
    true) : (all [.boundary, functionOf name]).found line = true := by
  obtain ⟨a, w, b, rfl, htakes⟩ := found_iff_takes.1 h
  obtain ⟨v, rfl, hrest⟩ := takes_all_exactly.1 (takes_all_boundary.1 htakes).2
  obtain ⟨gap, u, rfl, ⟨hgap, hblank⟩, hfunction⟩ := takes_all_someBlanks.1 hrest
  replace hfunction : (functionOf name).Takes (a ++ "async".toList ++ gap) u b := hfunction
  have hboundary : (Cursor.between (a ++ "async".toList ++ gap) (u ++ b)).atBoundary = true := by
    obtain ⟨gap', gap'', rfl, -⟩ := takes_functionOf.1 hfunction
    exact (Cursor.atBoundary_between_cons (c := 'f') rfl).2
      (Text.any_isWord_getLast?_append hgap hblank)
  exact found_iff_takes.2 ⟨a ++ "async".toList ++ gap, u, b, by simp,
    takes_all_boundary.2 ⟨hboundary, hfunction⟩⟩

theorem found_function_iff : (all [.boundary, functionOf name]).found line = true ↔
    ∃ before gap gap' after,
      line = before ++ ("function".toList ++ (gap ++ (name ++ (gap' ++ '(' :: after)))) ∧
      before.getLast?.any Text.isWord = false ∧ gap ≠ [] ∧
      (∀ c ∈ gap, Text.isBlank c = true) ∧ ∀ c ∈ gap', Text.isBlank c = true := by
  have hall {a w b : List Char} : (all [.boundary, functionOf name]).Takes a w b ↔
      (Cursor.between a (w ++ b)).atBoundary = true ∧ (functionOf name).Takes a w b :=
    takes_all_boundary
  have hedge {a rest : List Char} :
      (Cursor.between a ("function".toList ++ rest)).atBoundary = true ↔
        a.getLast?.any Text.isWord = false := Cursor.atBoundary_between_cons (c := 'f') rfl
  simp only [found_iff_takes, hall, takes_functionOf]
  constructor
  · rintro ⟨a, _, b, rfl, hboundary, gap, gap', rfl, ⟨hgap, hblank⟩, hblank'⟩
    rw [List.append_assoc, hedge] at hboundary
    exact ⟨a, gap, gap', b, by simp, hboundary, hgap, hblank, hblank'⟩
  · rintro ⟨a, gap, gap', b, rfl, hbefore, hgap, hblank, hblank'⟩
    refine ⟨a, _, b, by simp, ?_, gap, gap', rfl, ⟨hgap, hblank⟩, hblank'⟩
    rwa [List.append_assoc, hedge]

theorem declares_iff : declares name line = true ↔ Declaration name line := by
  have hcases : declares name line = true ↔
      (all [bindingOf name, blanks, .one (.only '=')]).found line = true ∨
      (all [bindingOf name, blanks, .one (.only ';')]).found line = true ∨
      (all [.boundary, functionOf name]).found line = true := by
    have hasync : (all [.boundary, .word "async", someBlanks, functionOf name]).found line = true →
        (all [.boundary, functionOf name]).found line = true := found_async
    simp only [declares, declarations, List.any_cons, List.any_nil, Bool.or_eq_true, Bool.or_false]
    constructor
    · rintro (h | h | h | h)
      · exact .inl h
      · exact .inr (.inl h)
      · exact .inr (.inr h)
      · exact .inr (.inr (hasync h))
    · rintro (h | h | h)
      · exact .inl h
      · exact .inr (.inl h)
      · exact .inr (.inr (.inl h))
  rw [hcases, found_binding_iff, found_binding_iff, found_function_iff]
  constructor
  · rintro (⟨before, word, gap, gap', after, rfl, hbefore, hword, hgap, hblank, hblank'⟩ |
      ⟨before, word, gap, gap', after, rfl, hbefore, hword, hgap, hblank, hblank'⟩ |
      ⟨before, gap, gap', after, rfl, hbefore, hgap, hblank, hblank'⟩)
    · exact .intro after hbefore (.value hword) hgap hblank hblank'
    · exact .intro after hbefore (.bare hword) hgap hblank hblank'
    · exact .intro after hbefore .function hgap hblank hblank'
  · rintro ⟨after, hbefore, hword, hgap, hblank, hblank'⟩
    cases hword with
    | value hword =>
      exact .inl ⟨_, _, _, _, after, rfl, hbefore, hword, hgap, hblank, hblank'⟩
    | bare hword =>
      exact .inr (.inl ⟨_, _, _, _, after, rfl, hbefore, hword, hgap, hblank, hblank'⟩)
    | function =>
      exact .inr (.inr ⟨_, _, _, after, rfl, hbefore, hgap, hblank, hblank'⟩)

end

def lastName (cs : List Char) : List Char :=
  ((cs.reverse.dropWhile fun c => !Text.isIdent c).takeWhile Text.isIdent).reverse

section
variable {name other word before gap after : List Char} {line : Line} {mark : Char}

theorem lastName_append (hname : IsIdentifier name)
    (hbefore : before.getLast?.any Text.isIdent = false)
    (hafter : ∀ c ∈ after, Text.isIdent c = false) :
    lastName (before ++ (name ++ after)) = name := by
  have hdrop : (name.reverse ++ before.reverse).dropWhile (fun c => !Text.isIdent c) =
      name.reverse ++ before.reverse := by
    obtain ⟨init, c, rfl⟩ := (List.eq_nil_or_concat' name).resolve_left hname.1
    rw [List.reverse_concat, List.cons_append]
    exact List.dropWhile_cons_of_neg (by simp [hname.2 c List.mem_concat_self])
  have htake : before.reverse.takeWhile Text.isIdent = [] := by
    rcases List.eq_nil_or_concat' before with rfl | ⟨init, c, rfl⟩
    · rfl
    · rw [List.getLast?_concat, Option.any_some] at hbefore
      rw [List.reverse_concat]
      exact List.takeWhile_cons_of_neg (by simp [hbefore])
  rw [lastName, List.reverse_append, List.reverse_append, List.append_assoc,
    List.dropWhile_append_of_pos (by simpa using hafter), hdrop,
    List.takeWhile_append_of_pos (by simpa using hname.2), htake, List.append_nil,
    List.reverse_reverse]

theorem Introduces.not_isIdent (h : Introduces word mark) : Text.isIdent mark = false := by
  cases h <;> decide

theorem Introduces.not_isBlank (h : Introduces word mark) : Text.isBlank mark = false := by
  cases h <;> decide

theorem Declaration.eq_lastName (hname : IsIdentifier name)
    (hplain : ∀ c ∈ before, Text.isIdent c = true ∨ Text.isBlank c = true)
    (h : Declaration name (before ++ [mark])) : name = lastName (before ++ [mark]) := by
  generalize hline : before ++ [mark] = line at h
  cases h with
  | @intro lead word gap gap' mark' after _ hword hgap hblank hblank' =>
    -- the mark behind the name is no such character, so it is the one that ends the line
    obtain rfl : after = [] := by
      by_contra hafter
      obtain ⟨init, c, rfl⟩ := (List.eq_nil_or_concat' after).resolve_left hafter
      have hconcat : before ++ [mark] =
          (lead ++ (word ++ (gap ++ (name ++ (gap' ++ mark' :: init))))) ++ [c] := by
        rw [hline]
        simp
      have hmem : mark' ∈ before := by
        rw [(List.append_inj' hconcat rfl).1]
        simp
      rcases hplain mark' hmem with hc | hc
      · rw [hword.not_isIdent] at hc
        cases hc
      · rw [hword.not_isBlank] at hc
        cases hc
    have hbefore : (lead ++ (word ++ gap)).getLast?.any Text.isIdent = false := by
      obtain ⟨init, c, rfl⟩ := (List.eq_nil_or_concat' gap).resolve_left hgap
      rw [← List.append_assoc, ← List.append_assoc, List.getLast?_concat]
      exact Text.isIdent_eq_false_of_isBlank (hblank c List.mem_concat_self)
    have hbehind : ∀ c ∈ gap' ++ [mark'], Text.isIdent c = false := by
      intro c hc
      rcases List.mem_append.1 hc with hc | hc
      · exact Text.isIdent_eq_false_of_isBlank (hblank' c hc)
      · rw [List.mem_singleton.1 hc]
        exact hword.not_isIdent
    simpa using (lastName_append hname hbefore hbehind).symm

theorem Declaration.eq_of_ends (hname : IsIdentifier name) (hother : IsIdentifier other)
    (hlead : ∀ c ∈ before, Text.isIdent c = true ∨ Text.isBlank c = true)
    (hedge : before.getLast?.any Text.isIdent = false)
    (hgap : ∀ c ∈ gap, Text.isBlank c = true) (hmark : Text.isIdent mark = false)
    (h : Declaration name (before ++ (other ++ (gap ++ [mark])))) : name = other := by
  have hline : before ++ (other ++ (gap ++ [mark])) = (before ++ (other ++ gap)) ++ [mark] := by
    simp
  have hplain : ∀ c ∈ before ++ (other ++ gap), Text.isIdent c = true ∨ Text.isBlank c = true := by
    intro c hc
    rcases List.mem_append.1 hc with hc | hc
    · exact hlead c hc
    · exact (List.mem_append.1 hc).imp (hother.2 c) (hgap c)
  have hbehind : ∀ c ∈ gap ++ [mark], Text.isIdent c = false := by
    intro c hc
    rcases List.mem_append.1 hc with hc | hc
    · exact Text.isIdent_eq_false_of_isBlank (hgap c hc)
    · rw [List.mem_singleton.1 hc]
      exact hmark
  rw [hline] at h
  rw [Declaration.eq_lastName hname hplain h, ← hline, lastName_append hother hedge hbehind]

/-- The lines that only introduce a name. -/
inductive Introduction (name : List Char) : Line → Prop
  | value : Introduction name ("const ".toList ++ (name ++ " =".toList))
  | bare : Introduction name ("let ".toList ++ (name ++ ";".toList))
  | function : Introduction name ("function ".toList ++ (name ++ "(".toList))

theorem Introduction.eq_of_declaration (hname : IsIdentifier name) (hother : IsIdentifier other)
    (h : Introduction other line) (hdeclaration : Declaration name line) : name = other := by
  have hplain {lead : List Char} (h : lead.all fun c => Text.isIdent c || Text.isBlank c) :
      ∀ c ∈ lead, Text.isIdent c = true ∨ Text.isBlank c = true := by
    intro c hc
    simpa using List.all_eq_true.1 h c hc
  have hnone : ∀ c ∈ ([] : List Char), Text.isBlank c = true := List.forall_mem_nil _
  have hblank : ∀ c ∈ [' '], Text.isBlank c = true := List.forall_mem_singleton.2 (by decide)
  cases h with
  | value =>
    exact Declaration.eq_of_ends hname hother (hplain (by decide)) (by decide) hblank
      (by decide : Text.isIdent '=' = false) hdeclaration
  | bare =>
    exact Declaration.eq_of_ends hname hother (hplain (by decide)) (by decide) hnone
      (by decide : Text.isIdent ';' = false) hdeclaration
  | function =>
    exact Declaration.eq_of_ends hname hother (hplain (by decide)) (by decide) hnone
      (by decide : Text.isIdent '(' = false) hdeclaration

end

/-- One of the patterns is found in a line exactly when the line declares the name; the one for
asynchronous functions adds nothing to the one for functions, and no identifier is declared where
another one is introduced. -/
theorem exists_found_iff_declaration (name : List Char) (line : Line) :
    ((∃ p ∈ declarations name, p.found line = true) ↔ Declaration name line) ∧
      (∀ value bare function async, declarations name = [value, bare, function, async] →
        async.found line = true → function.found line = true) ∧
      ∀ other, IsIdentifier name → IsIdentifier other → name ≠ other →
        Introduction other line → ∀ p ∈ declarations name, p.found line = false := by
  have hfound : (∃ p ∈ declarations name, p.found line = true) ↔ Declaration name line := by
    rw [← declares_iff, declares, List.any_eq_true]
  refine ⟨hfound, ?_, ?_⟩
  · rintro _ _ _ _ ⟨rfl⟩ h
    exact found_async h
  · intro other hname hother hne hline p hp
    rw [Bool.eq_false_iff]
    intro h
    exact hne (hline.eq_of_declaration hname hother (hfound.1 ⟨p, hp, h⟩))

theorem exists_found_iff_declaration_async :
    let line := "/* ƒ */ async function $x (a) \x7b".toList
    let introduced := "const $x1 =".toList
    Declaration "$x".toList line ∧ (∃ p ∈ declarations "$x".toList, p.found line = true) ∧
      IsIdentifier "$x".toList ∧ IsIdentifier "$x1".toList ∧
      Introduction "$x1".toList introduced ∧
      ∀ p ∈ declarations "$x".toList, p.found introduced = false := by
  intro line introduced
  have hasync : (all [.boundary, .word "async", someBlanks, functionOf "$x".toList]).found line =
      true := by decide +kernel
  have hident {name : List Char} (h : name ≠ [] ∧ name.all Text.isIdent = true) :
      IsIdentifier name := ⟨h.1, List.all_eq_true.1 h.2⟩
  have hname : IsIdentifier "$x".toList := hident (by decide)
  have hother : IsIdentifier "$x1".toList := hident (by decide)
  obtain ⟨hiff, hfunction, -⟩ := exists_found_iff_declaration "$x".toList line
  have hfound : ∃ p ∈ declarations "$x".toList, p.found line = true :=
    ⟨_, List.mem_of_getElem? (i := 2) rfl, hfunction _ _ _ _ rfl hasync⟩
  exact ⟨hiff.1 hfound, hfound, hname, hother, .value,
    (exists_found_iff_declaration "$x".toList introduced).2.2 _ hname hother (by decide) .value⟩

def Near (window line : Int) (i : Nat) : Prop :=
  (i : Int) = line - 1 ∨ (line - 1 - window ≤ i ∧ (i : Int) < line - 1 + window)

def DeclaredAt (name : List Char) (content : String) (i : Nat) : Prop :=
  ∃ line, (Lines.ofText content)[i]? = some line ∧ Declaration name (Text.trim line)

section
variable {window line : Int} {count i : Nat} {test : Nat → Bool}

theorem mem_candidates_iff : i ∈ candidates window line count ↔ i < count ∧ Near window line i := by
  rw [candidates, List.mem_append, List.mem_filter, List.mem_range]
  simp only [Bool.and_eq_true, decide_eq_true_eq, bne_iff_ne, Near]
  constructor
  · rintro (h | h)
    · split at h
      · rw [List.mem_singleton] at h
        omega
      · cases h
    · omega
  · rintro ⟨hcount, hnear⟩
    by_cases hhere : (i : Int) = line - 1
    · left
      rw [if_pos (by omega), List.mem_singleton]
      omega
    · right
      omega

theorem first_candidate (h : (candidates window line count).find? test = some i) :
    (i : Int) = line - 1 ∨
      ∀ j, j ∈ candidates window line count → test j = true → (j : Int) ≠ line - 1 ∧ i ≤ j := by
  rw [candidates, List.find?_append] at h
  cases hhere : List.find? test (if 0 ≤ line - 1 ∧ line - 1 < count then [(line - 1).toNat] else [])
    with
  | some k =>
    rw [hhere] at h
    cases h
    left
    have hmem := List.mem_of_find?_eq_some hhere
    split at hmem
    · rw [List.mem_singleton] at hmem
      omega
    · cases hmem
  | none =>
    rw [hhere, Option.none_or] at h
    right
    intro j hj htest
    rw [candidates, List.mem_append] at hj
    have hnear := hj.resolve_left fun hj => by simpa [htest] using List.find?_eq_none.1 hhere j hj
    refine ⟨?_, le_of_find?_eq_some (List.pairwise_lt_range.filter _) h hnear htest⟩
    simpa using (Bool.and_eq_true_iff.1 (List.mem_filter.1 hnear).2).2

end

section
variable {window : Int} {name : List Char} {content : String} {i : Nat}

theorem declaredAt_iff : DeclaredAt name content i ↔ i < (Lines.ofText content).length ∧
    declares name (Text.trim ((Lines.ofText content).getD i [])) = true := by
  rw [declares_iff]
  exact lineAt_iff (P := fun line => Declaration name (Text.trim line))

/-- A variable or function is deleted when a line near the reported one declares it: the reported
line if it does so, and else the topmost of those lines. One line goes, and no line elsewhere. -/
theorem variableAttempt_deletes {d : Diagnostic}
    (hname : nameIn? variableMessages d.text = some name) (window : Int) (tree : FileTree)
    (content : String) (context : Option Context) :
    let target (i : Nat) := Near window d.line i ∧ DeclaredAt name content i
    ∃ a, (unusedVariable window).attempt tree d content context = .ok a ∧
      ((∃ text summary es, a = .fixed text summary es) ↔ ∃ i, target i) ∧
      ∀ text summary es, a = .fixed text summary es → ∃ i, target i ∧ Deletes content i a ∧
        ((i : Int) = d.line - 1 ∨ ∀ j, target j → (j : Int) ≠ d.line - 1 ∧ i ≤ j) := by
  intro target
  have htarget (i : Nat) : target i ↔
      i ∈ candidates window d.line (Lines.ofText content).length ∧
        declares name (Text.trim ((Lines.ofText content).getD i [])) = true := by
    rw [mem_candidates_iff, and_comm (a := i < _), and_assoc, ← declaredAt_iff]
  obtain ⟨a, hattempt⟩ : ∃ a, variableAttempt window d content = a := ⟨_, rfl⟩
  refine ⟨a, congrArg Except.ok hattempt, ?_⟩
  rw [variableAttempt, hname] at hattempt
  obtain ⟨i, hi, hdeletes⟩ | ⟨hnone, hdecline⟩ :=
    deletes_or_decline (fun line => declares name (Text.trim line))
      (fun _ h => (mem_candidates_iff.1 h).1) hattempt
  · have hdeclares := List.find?_some hi
    have hi' : target i := (htarget i).2 ⟨List.mem_of_find?_eq_some hi, hdeclares⟩
    refine ⟨iff_of_true hdeletes.exists_fixed ⟨i, hi'⟩, fun _ _ _ _ => ⟨i, hi', hdeletes, ?_⟩⟩
    apply (first_candidate hi).imp_right
    intro hfirst j hj
    exact hfirst j ((htarget j).1 hj).1 ((htarget j).1 hj).2
  · have hno : ¬ ∃ i, target i := by
      rintro ⟨i, hi⟩
      obtain ⟨hmem, hdeclares⟩ := (htarget i).1 hi
      exact List.find?_eq_none.1 hnone i hmem hdeclares
    rw [hdecline]
    refine ⟨iff_of_false ?_ hno, ?_⟩
    · rintro ⟨text, summary, es, h⟩
      cases h
    · intro text summary es h
      cases h

theorem variableAttempt_deletes_above :
    let d : Diagnostic :=
      ⟨.known .unused, some "'x' is defined but never used", "a.js", 5, .low, 1, ""⟩
    let content := "let x = 0;\nvar x = 1;\nlet xs;\nasync function x() \x7b\x7d"
    let a := Attempt.fixed "let x = 0;\nlet xs;\nasync function x() \x7b\x7d"
      "Removed unused variable 'x'" [deletion 1 "var x = 1;".toList]
    nameIn? variableMessages d.text = some ['x'] ∧
      (unusedVariable 3).attempt .empty d content none = .ok a ∧
      ∃ i, (Near 3 5 i ∧ DeclaredAt ['x'] content i) ∧ Deletes content i a := by
  intro d content a
  have hname : nameIn? variableMessages d.text = some ['x'] := by decide
  have hattempt : (unusedVariable 3).attempt .empty d content none = .ok a := by
    have hvariable : variableAttempt 3 d content = a := by decide +kernel
    exact congrArg Except.ok hvariable
  obtain ⟨a', ha', -, hdeletes⟩ := variableAttempt_deletes hname 3 .empty content none
  obtain rfl : a = a' := Except.ok.inj (hattempt.symm.trans ha')
  obtain ⟨i, htarget, h, -⟩ := hdeletes _ _ _ rfl
  exact ⟨hname, hattempt, i, htarget, h⟩

end

end Mend.Strategy.Unused
