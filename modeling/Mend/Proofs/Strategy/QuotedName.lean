import Mend.Proofs.Pattern.Takes
import Mend.Proofs.Text.Trimming
import Mend.Strategy.Unused

namespace Mend

namespace Text

def isIdent (c : Char) : Bool := isWord c || c == '$'

theorem isIdent_eq_false_of_isBlank {c : Char} (h : isBlank c = true) : isIdent c = false := by
  have hdollar : c ≠ '$' := by
    rintro rfl
    exact absurd h (by decide)
  rw [isIdent, isWord_eq_false_of_isBlank h, beq_false_of_ne hdollar]
  rfl

end Text

theorem Capture.upTo_append {closing : Pattern} {cs rest done : List Char} (hne : cs ≠ [])
    (hline : '\n' ∉ cs)
    (hopen : ∀ c x d y, cs = x ++ c :: d :: y →
      closing.startsAt ⟨some c, d :: (y ++ rest)⟩ = false)
    (hclose : ∀ c, closing.startsAt ⟨some c, rest⟩ = true) :
    upTo closing done (cs ++ rest) = some (done.reverse ++ cs) := by
  induction cs generalizing done with
  | nil => exact absurd rfl hne
  | cons c cs ih =>
    rw [List.mem_cons, not_or] at hline
    rw [List.cons_append, upTo, if_neg (Ne.symm hline.1)]
    cases cs with
    | nil => rw [List.nil_append, if_pos (hclose c), List.reverse_cons]
    | cons d cs =>
      have hc := hopen c [] d cs rfl
      rw [List.cons_append, if_neg (by rw [hc]; exact Bool.false_ne_true), ← List.cons_append,
        ih (List.cons_ne_nil d cs) hline.2, List.reverse_cons, List.append_assoc]
      · rfl
      · intro c' x d' y h
        exact hopen c' (c :: x) d' y (by rw [h]; rfl)

theorem Cursor.findSome?_places_append {α : Type} {f : Cursor → Option α} {a b : List Char}
    (h : ∀ x c y prev, a = x ++ c :: y → f ⟨prev, c :: (y ++ b)⟩ = none) (prev : Option Char) :
    ∃ prev', (places prev (a ++ b)).findSome? f = (places prev' b).findSome? f := by
  induction a generalizing prev with
  | nil => exact ⟨prev, rfl⟩
  | cons c a ih =>
    have hrest : ∀ x d y prev, a = x ++ d :: y → f ⟨prev, d :: (y ++ b)⟩ = none :=
      fun x d y prev ha => h (c :: x) d y prev (by rw [ha]; rfl)
    obtain ⟨prev', hplaces⟩ := ih hrest (some c)
    refine ⟨prev', ?_⟩
    rw [List.cons_append, places, List.findSome?_cons, h [] c a prev rfl]
    exact hplaces

theorem Capture.upTo_eq_none {closing : Pattern} {line rest done : List Char}
    (h : ∀ x c y, line = x ++ c :: y → closing.startsAt ⟨some c, y ++ '\n' :: rest⟩ = false) :
    upTo closing done (line ++ '\n' :: rest) = none := by
  induction line generalizing done with
  | nil => rfl
  | cons c line ih =>
    have hrest : ∀ x d y, line = x ++ d :: y →
        closing.startsAt ⟨some d, y ++ '\n' :: rest⟩ = false :=
      fun x d y hline => h (c :: x) d y (by rw [hline]; rfl)
    rw [List.cons_append, upTo, h [] c line rfl, if_neg Bool.false_ne_true, ih hrest, ite_self]

namespace Pattern

section
variable {p : Pattern} {s : String} {a b c x y z : List Char}

def Carries (p : Pattern) (s : String) : Prop :=
  ∀ a w b, p.Takes a w b → '\n' ∉ w ∧ (phrase s).found w = true

theorem found_phrase_of_part (h : (phrase s).found (x ++ (y ++ z)) = false) :
    (phrase s).found y = false := by
  rw [Bool.eq_false_iff] at h ⊢
  intro hy
  obtain ⟨a, w, b, rfl, hw⟩ := found_iff_takes.1 hy
  exact h (found_iff_takes.2 ⟨x ++ a, w, b ++ z, by simp, takes_phrase.2 (takes_phrase.1 hw)⟩)

theorem Carries.startsAt_eq_false (hp : p.Carries s) (h : (phrase s).found y = false) (c : Char)
    (rest : List Char) : p.startsAt ⟨some c, y ++ '\n' :: rest⟩ = false := by
  rw [Bool.eq_false_iff, ne_eq, startsAt_iff]
  rintro ⟨j, hspans⟩
  have hplace : (⟨some c, y ++ '\n' :: rest⟩ : Cursor) = .between [c] (y ++ '\n' :: rest) := rfl
  obtain ⟨w, rest', hrest, rfl⟩ := hspans.exists_takes hplace
  rw [hplace, hrest] at hspans
  obtain ⟨hline, hfound⟩ := hp _ _ _ hspans
  rcases List.append_eq_append_iff.1 hrest with ⟨mid, rfl, hmid⟩ | ⟨mid, rfl, -⟩
  · cases mid with
    | nil =>
      rw [List.append_nil, h] at hfound
      cases hfound
    | cons d mid =>
      obtain ⟨rfl, -⟩ := List.cons.inj hmid
      exact hline (by simp)
  · rw [found_phrase_of_part (x := []) h] at hfound
    cases hfound

theorem carries_quoted {set : CharSet} {text : String} (hset : set.has '\n' = false)
    (hline : '\n' ∉ text.toList.map Text.foldChar) (hends : s.toList <:+ text.toList) :
    Carries (.seq (.one set) (.phrase text)) s := by
  intro a w b h
  obtain ⟨u, v, rfl, hu, hv⟩ := takes_seq.1 h
  obtain ⟨q, rfl, hq⟩ := takes_one.1 hu
  have hfold := takes_phrase.1 hv
  constructor
  · rw [List.mem_append, List.mem_singleton]
    rintro (rfl | hmem)
    · rw [hset] at hq
      cases hq
    · apply hline
      rw [← hfold]
      exact List.mem_map_of_mem (f := Text.foldChar) hmem
  · obtain ⟨lead, hlead⟩ := hends
    rw [← hlead, List.map_append] at hfold
    obtain ⟨v₁, v₂, rfl, -, hv₂⟩ := List.map_eq_append_iff.1 hfold
    exact found_iff_takes.2 ⟨q :: v₁, v₂, [], by simp, takes_phrase.2 hv₂⟩

theorem startsAt_one_seq {set : CharSet} {q : Pattern} {d : Char} (hd : set.has d = false)
    (prev : Option Char) (cs : List Char) :
    (seq (.one set) q).startsAt ⟨prev, d :: cs⟩ = false := by
  simp only [startsAt, ends, hd]
  rfl

end

end Pattern

namespace Strategy.Unused

open Pattern

def IsIdentifier (name : List Char) : Prop := name ≠ [] ∧ ∀ c ∈ name, Text.isIdent c = true

section
variable {name : List Char}

theorem IsIdentifier.not_blank (h : IsIdentifier name) : ∀ c ∈ name, Text.isBlank c = false := by
  intro c hc
  rw [Bool.eq_false_iff]
  intro hblank
  have hident := h.2 c hc
  rw [Text.isIdent_eq_false_of_isBlank hblank] at hident
  cases hident

theorem IsIdentifier.not_quote (h : IsIdentifier name) : ∀ c ∈ name, quotes.contains c = false := by
  intro c hc
  rw [Bool.eq_false_iff]
  intro hquote
  have hnone : quotes.all (fun c => !Text.isIdent c) = true := by decide
  have hident := List.all_eq_true.1 hnone c (List.contains_iff_mem.1 hquote)
  rw [h.2 c hc] at hident
  cases hident

end

def lastLine (cs : List Char) : List Char := (cs.reverse.takeWhile (· != '\n')).reverse

theorem mem_of_not_mem_lastLine {x y : List Char} {c : Char} (hc : c ≠ '\n')
    (h : c ∉ lastLine (x ++ c :: y)) : '\n' ∈ y := by
  by_contra hy
  apply h
  have hall : ∀ d ∈ (c :: y).reverse, (d != '\n') = true := by
    intro d hd
    rw [bne_iff_ne]
    rintro rfl
    rcases List.mem_cons.1 (List.mem_reverse.1 hd) with rfl | hd
    · exact hc rfl
    · exact hy hd
  rw [lastLine, List.reverse_append, List.takeWhile_append_of_pos hall, List.mem_reverse,
    List.mem_append, List.mem_reverse]
  exact .inl List.mem_cons_self

section
variable {set : CharSet} {text : String} {q : Char} {name before : List Char}

theorem at?_quotedBefore (close : Pattern) (prev : Option Char) (cs : List Char) :
    (quotedBefore (.one set) close text).at? ⟨prev, q :: cs⟩ =
      if set.has q then Capture.upTo (.seq close (.phrase text)) [] cs else none := by
  rw [Capture.at?]
  simp only [quotedBefore, ends]
  split
  · exact List.findSome?_singleton
  · rfl

/-- A quote that is not on the last line has the end of its own line behind it, and no name is
closed before that. -/
theorem at?_quotedBefore_eq_none {x y rest : List Char} {c : Char}
    (hcarries : Carries (.seq (.one set) (.phrase text)) "never used")
    (hnewline : set.has '\n' = false)
    (hphrase : (phrase "never used").found (x ++ c :: y) = false)
    (hbefore : ∀ d ∈ lastLine (x ++ c :: y), set.has d = false) (prev : Option Char) :
    (quotedBefore (.one set) (.one set) text).at? ⟨prev, c :: (y ++ rest)⟩ = none := by
  rw [at?_quotedBefore]
  split
  · rename_i hc
    have hne : c ≠ '\n' := by
      rintro rfl
      rw [hnewline] at hc
      cases hc
    have hlast : c ∉ lastLine (x ++ c :: y) := by
      intro hmem
      rw [hbefore c hmem] at hc
      cases hc
    obtain ⟨line, below, rfl⟩ := List.append_of_mem (mem_of_not_mem_lastLine hne hlast)
    rw [List.append_assoc, List.cons_append]
    apply Capture.upTo_eq_none
    rintro u d v rfl
    apply hcarries.startsAt_eq_false
    apply found_phrase_of_part (x := x ++ c :: (u ++ [d])) (z := '\n' :: below)
    simpa using hphrase
  · rfl

theorem upTo_quoted (hset : ∀ c, set.has c = true → c ∈ quotes) (hq : set.has q = true)
    (hname : IsIdentifier name) (after : List Char) :
    Capture.upTo (.seq (.one set) (.phrase text)) [] (name ++ (q :: text.toList ++ after)) =
      some name := by
  apply Capture.upTo_append hname.1
  · intro hmem
    exact absurd (hname.not_blank _ hmem) (by decide)
  · intro c x d y h
    apply startsAt_one_seq
    rw [Bool.eq_false_iff]
    intro hd
    have hident := hname.not_quote d (by rw [h]; simp)
    rw [List.contains_iff_mem.2 (hset d hd)] at hident
    cases hident
  · intro c
    have htakes : Takes (.seq (.one set) (.phrase text)) [c] (q :: text.toList) after :=
      takes_seq.2 ⟨[q], text.toList, rfl, takes_one.2 ⟨q, rfl, hq⟩, takes_phrase.2 rfl⟩
    exact (startsAt_iff _ _).2 ⟨_, htakes⟩

theorem name?_quotedBefore (hset : ∀ c, set.has c = true → c ∈ quotes) (hq : set.has q = true)
    (hline : '\n' ∉ text.toList.map Text.foldChar)
    (hends : "never used".toList <:+ text.toList) (hname : IsIdentifier name)
    (hphrase : (phrase "never used").found before = false)
    (hbefore : ∀ c ∈ lastLine before, set.has c = false) (after : List Char) :
    (quotedBefore (.one set) (.one set) text).name?
      (before ++ q :: (name ++ (q :: text.toList ++ after))) = some name := by
  have hnewline : set.has '\n' = false := by
    rw [Bool.eq_false_iff]
    exact fun h => absurd (hset _ h) (by decide)
  have hcarries : Carries (.seq (.one set) (.phrase text)) "never used" :=
    carries_quoted hnewline hline hends
  have hearlier : ∀ x c y prev, before = x ++ c :: y →
      (quotedBefore (.one set) (.one set) text).at?
        ⟨prev, c :: (y ++ q :: (name ++ (q :: text.toList ++ after)))⟩ = none := by
    rintro x c y prev rfl
    exact at?_quotedBefore_eq_none hcarries hnewline hphrase hbefore prev
  obtain ⟨prev, hplaces⟩ := Cursor.findSome?_places_append hearlier none
  rw [Capture.name?, hplaces, Cursor.places, List.findSome?_cons, at?_quotedBefore, if_pos hq,
    upTo_quoted hset hq hname]

theorem firstName?_eq_of_name? {c : Capture} {cs : List Capture} {message : List Char}
    (hname : IsIdentifier name) (h : c.name? message = some name) :
    Capture.firstName? (c :: cs) message = some name := by
  rw [Capture.firstName?, List.findSome?_cons, h, Option.map_some,
    Text.trim_eq_self hname.not_blank]

theorem firstName?_variableMessages (hname : IsIdentifier name) (before : List Char)
    (hphrase : (phrase "never used").found before = false) (hbefore : '\'' ∉ lastLine before)
    (after : List Char) : Capture.firstName? variableMessages
      (before ++ '\'' :: (name ++ ("' is defined but never used".toList ++ after))) =
        some name := by
  apply firstName?_eq_of_name? hname
  have hset : ∀ c, (CharSet.only '\'').has c = true → c ∈ quotes := by
    intro c hc
    rw [eq_of_beq hc]
    decide
  have hnone : ∀ c ∈ lastLine before, (CharSet.only '\'').has c = false := by
    intro c hc
    exact beq_false_of_ne fun h => hbefore (h ▸ hc)
  exact name?_quotedBefore hset rfl (by decide +kernel) (by decide) hname hphrase hnone after

theorem firstName?_importMessages (hname : IsIdentifier name) (before : List Char)
    (hphrase : (phrase "never used").found before = false)
    (hbefore : ∀ c ∈ quotes, c ∉ lastLine before) (after : List Char) :
    Capture.firstName? importMessages
      (before ++ '\'' :: (name ++ ("' is imported but never used".toList ++ after))) =
        some name := by
  apply firstName?_eq_of_name? hname
  have hset : ∀ c, (CharSet.among quotes).has c = true → c ∈ quotes :=
    fun c hc => List.contains_iff_mem.1 hc
  have hnone : ∀ c ∈ lastLine before, (CharSet.among quotes).has c = false := by
    intro c hc
    rw [Bool.eq_false_iff]
    exact fun h => hbefore c (hset c h) hc
  exact name?_quotedBefore hset rfl (by decide +kernel) (by decide) hname hphrase hnone after

end

/-- A quoted name is picked out of a message, whatever stands behind the phrase, if the phrase does
not come up before it and its line has no quote before it. -/
theorem firstName?_of_quoted {name before : List Char} (hname : IsIdentifier name)
    (hphrase : (phrase "never used").found before = false) :
    ('\'' ∉ lastLine before → ∀ after, Capture.firstName? variableMessages
      (before ++ '\'' :: (name ++ ("' is defined but never used".toList ++ after))) = some name) ∧
    ((∀ c ∈ quotes, c ∉ lastLine before) → ∀ after, Capture.firstName? importMessages
      (before ++ '\'' :: (name ++ ("' is imported but never used".toList ++ after))) =
        some name) :=
  ⟨firstName?_variableMessages hname before hphrase,
    firstName?_importMessages hname before hphrase⟩

theorem firstName?_of_quoted_second_line :
    let before := "it's \"odd\"\nUnused: ".toList
    let defined := "' is defined but never used".toList
    let imported := "' is imported but never used".toList
    let after := " 'y'".toList
    IsIdentifier "$x1".toList ∧ (phrase "never used").found before = false ∧
      '\'' ∉ lastLine before ∧ (∀ c ∈ quotes, c ∉ lastLine before) ∧
      Capture.firstName? variableMessages
        (before ++ '\'' :: ("$x1".toList ++ (defined ++ after))) = some "$x1".toList ∧
      Capture.firstName? importMessages
        (before ++ '\'' :: ("$x1".toList ++ (imported ++ after))) = some "$x1".toList := by
  intro before defined imported after
  have hname : IsIdentifier "$x1".toList :=
    ⟨by decide, List.all_eq_true.1 (by decide : "$x1".toList.all Text.isIdent = true)⟩
  have hphrase : (phrase "never used").found before = false := by decide +kernel
  have hquote : '\'' ∉ lastLine before := by decide
  have hall : quotes.all (fun c => !(lastLine before).contains c) = true := by decide
  have hquotes : ∀ c ∈ quotes, c ∉ lastLine before := by
    intro c hc
    simpa using List.all_eq_true.1 hall c hc
  obtain ⟨hvariable, himport⟩ := firstName?_of_quoted hname hphrase
  exact ⟨hname, hphrase, hquote, hquotes, hvariable hquote _, himport hquotes _⟩

/-- A quote earlier on the line begins a name, and an earlier phrase counts in capitals too. -/
theorem firstName?_of_quoted_fails :
    let message (before phrase : String) := (before ++ "'x'" ++ phrase).toList
    let defined := " is defined but never used"
    let imported := " is imported but never used"
    IsIdentifier ['x'] ∧ ¬ "never used".toList <:+: "it's ".toList ∧
      ¬ "never used".toList <:+: "'y' is defined but NEVER USED; ".toList ∧
      ¬ "never used".toList <:+: "'y' is imported but NEVER USED; ".toList ∧
      Capture.firstName? variableMessages (message "it's " defined) = some "s 'x".toList ∧
      Capture.firstName? importMessages (message "it's " imported) = some "s 'x".toList ∧
      Capture.firstName? variableMessages
        (message "'y' is defined but NEVER USED; " defined) = some ['y'] ∧
      Capture.firstName? importMessages
        (message "'y' is imported but NEVER USED; " imported) = some ['y'] := by
  have hname : IsIdentifier ['x'] :=
    ⟨List.cons_ne_nil _ _, List.forall_mem_singleton.2 (by decide)⟩
  refine ⟨hname, ?_, ?_, ?_, ?_, ?_, ?_, ?_⟩ <;> decide +kernel

end Strategy.Unused

end Mend
