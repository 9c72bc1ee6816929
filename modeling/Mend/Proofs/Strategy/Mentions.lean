import Mathlib.Algebra.GroupWithZero.Nat
import Mend.Proofs.Pattern.Replacement
import Mend.Proofs.Strategy.LineRepair

/-! Mentions of a module, counted. Every replacement takes a mention away and makes no new one, as
long as it does not recall what it replaces; otherwise the mention is still there, in a longer
text. -/

namespace Mend

theorem Capture.of_upTo {p : CharSet} {done cs name : List Char}
    (h : upTo (.one p) done cs = some name) :
    ∃ c rest tail, name = done.reverse ++ c :: rest ∧ cs = c :: (rest ++ tail) ∧ c ≠ '\n' ∧
      '\n' ∉ rest ∧ ∀ d ∈ rest, p.has d = false := by
  induction cs generalizing done with
  | nil => cases h
  | cons c cs ih =>
    rw [upTo] at h
    split at h
    · cases h
    · rename_i hc
      split at h
      · cases h
        exact ⟨c, [], cs, by simp, rfl, hc, List.not_mem_nil, fun _ h => nomatch h⟩
      · rename_i hclosing
        obtain ⟨d, rest, tail, hname, rfl, hd, hrest, hfree⟩ := ih h
        have hhas : p.has d = false := by
          simpa [Pattern.startsAt, Pattern.ends] using hclosing
        refine ⟨c, d :: rest, tail, ?_, rfl, hc, ?_, List.forall_mem_cons.2 ⟨hhas, hfree⟩⟩
        · simp [hname]
        · simp [hrest, Ne.symm hd]

theorem Capture.of_name? {opening : Pattern} {p : CharSet} {cs name : List Char}
    (h : name? ⟨opening, .one p⟩ cs = some name) :
    '\n' ∉ name ∧ ∀ d ∈ name.tail, p.has d = false := by
  obtain ⟨k, -, hk⟩ := List.exists_of_findSome?_eq_some h
  obtain ⟨j, -, hj⟩ := List.exists_of_findSome?_eq_some hk
  obtain ⟨c, rest, tail, rfl, -, hc, hrest, hfree⟩ := of_upTo hj
  refine ⟨?_, hfree⟩
  simp [hrest, Ne.symm hc]

namespace Strategy.Extension

open Pattern (Piece Spells IsPlain)

/-- The mentions of a module, also where they share a quote. -/
def mentions (module : List Char) : List Char → Nat
  | [] => 0
  | c :: cs => (if (mention? module (c :: cs)).isSome then 1 else 0) + mentions module cs

section
variable {module cs : List Char} {pieces : List Piece}

theorem mention?_isSome_iff : (mention? module cs).isSome = true ↔
    ∃ q r rest, isQuote q = true ∧ isQuote r = true ∧ cs = q :: (module ++ r :: rest) := by
  rw [Option.isSome_iff_exists]
  constructor
  · rintro ⟨⟨m, rest⟩, h⟩
    obtain ⟨q, r, hq, hr, -, hcs⟩ := mention?_eq_some_iff.1 h
    exact ⟨q, r, rest, hq, hr, hcs⟩
  · rintro ⟨q, r, rest, hq, hr, hcs⟩
    exact ⟨(q :: (module ++ [r]), rest), mention?_eq_some_iff.2 ⟨q, r, hq, hr, rfl, hcs⟩⟩

theorem le_mentions_append (module as bs : List Char) :
    mentions module bs ≤ mentions module (as ++ bs) := by
  induction as with
  | nil => exact Nat.le_refl _
  | cons a as ih => exact Nat.le_trans ih (Nat.le_add_left _ _)

theorem mentions_pos_iff : 0 < mentions module cs ↔
    ∃ before q r after, isQuote q = true ∧ isQuote r = true ∧
      cs = before ++ q :: (module ++ r :: after) := by
  constructor
  · intro h
    induction cs with
    | nil => exact absurd h (Nat.lt_irrefl 0)
    | cons c cs ih =>
      rw [mentions] at h
      split at h
      · rename_i hsome
        obtain ⟨q, r, rest, hq, hr, hcs⟩ := mention?_isSome_iff.1 hsome
        exact ⟨[], q, r, rest, hq, hr, hcs⟩
      · rw [Nat.zero_add] at h
        obtain ⟨before, q, r, after, hq, hr, rfl⟩ := ih h
        exact ⟨c :: before, q, r, after, hq, hr, rfl⟩
  · rintro ⟨before, q, r, after, hq, hr, rfl⟩
    apply Nat.lt_of_lt_of_le _ (le_mentions_append module before _)
    have hsome : (mention? module (q :: (module ++ r :: after))).isSome = true :=
      mention?_isSome_iff.2 ⟨q, r, after, hq, hr, rfl⟩
    rw [mentions, if_pos hsome]
    omega

theorem append_sep_cases {s r : Char} {as bs rest : List Char} (hs : s ∉ module)
    (h : as ++ s :: bs = module ++ r :: rest) :
    (module = as ∧ r = s) ∨ ∃ more, as = module ++ r :: more := by
  obtain ⟨more, hmodule, hmore⟩ | ⟨more, has, hmore⟩ := List.append_eq_append_iff.1 h
  · cases more with
    | nil => exact .inl ⟨by rw [hmodule, List.append_nil], (List.cons.inj hmore).1.symm⟩
    | cons t more =>
      rw [hmodule, (List.cons.inj hmore).1] at hs
      exact absurd (List.mem_append_right as List.mem_cons_self) hs
  · cases more with
    | nil => exact .inl ⟨by rw [has, List.append_nil], (List.cons.inj hmore).1⟩
    | cons t more => exact .inr ⟨more, by rw [has, (List.cons.inj hmore).1]⟩

theorem mention?_append_sep {c s : Char} (hs : s ∉ module) (as bs : List Char) :
    (mention? module (c :: (as ++ s :: bs))).isSome =
      (mention? module (c :: (as ++ [s]))).isSome := by
  rw [Bool.eq_iff_iff, mention?_isSome_iff, mention?_isSome_iff]
  constructor
  · rintro ⟨q, r, rest, hq, hr, hcs⟩
    obtain ⟨rfl, htail⟩ := List.cons.inj hcs
    obtain ⟨rfl, rfl⟩ | ⟨more, rfl⟩ := append_sep_cases hs htail
    · exact ⟨c, r, [], hq, hr, rfl⟩
    · exact ⟨c, r, more ++ [s], hq, hr, by simp⟩
  · rintro ⟨q, r, rest, hq, hr, hcs⟩
    obtain ⟨rfl, htail⟩ := List.cons.inj hcs
    refine ⟨c, r, rest ++ bs, hq, hr, ?_⟩
    rw [List.append_cons, htail, List.append_assoc]
    rfl

theorem mention?_singleton (c : Char) : mention? module [c] = none := by
  cases h : mention? module [c] with
  | none => rfl
  | some r =>
    obtain ⟨q, r, -, -, -, hcs⟩ := mention?_eq_some_iff.1 h
    simp at hcs

theorem mentions_append_sep {s : Char} (hs : s ∉ module) (as bs : List Char) :
    mentions module (as ++ s :: bs) = mentions module (as ++ [s]) + mentions module (s :: bs) := by
  induction as with
  | nil => simp [mentions, mention?_singleton]
  | cons a as ih =>
    rw [List.cons_append, List.cons_append, mentions, mentions, mention?_append_sep hs, ih,
      Nat.add_assoc]

theorem mention?_of_not_quote {c : Char} (hc : isQuote c = false) (cs : List Char) :
    mention? module (c :: cs) = none := by
  simp [mention?, hc]

theorem mentions_append_newline (hmodule : '\n' ∉ module) (as : List Char) :
    mentions module (as ++ ['\n']) = mentions module as := by
  induction as with
  | nil => simp [mentions, mention?_singleton]
  | cons a as ih =>
    have hsome : (mention? module (a :: (as ++ ['\n']))).isSome =
        (mention? module (a :: as)).isSome := by
      rw [Bool.eq_iff_iff, mention?_isSome_iff, mention?_isSome_iff]
      constructor
      · rintro ⟨q, r, rest, hq, hr, hcs⟩
        obtain ⟨rfl, htail⟩ := List.cons.inj hcs
        obtain ⟨-, rfl⟩ | ⟨more, rfl⟩ := append_sep_cases hmodule htail
        · cases hr
        · exact ⟨a, r, more, hq, hr, rfl⟩
      · rintro ⟨q, r, rest, hq, hr, hcs⟩
        obtain ⟨rfl, rfl⟩ := List.cons.inj hcs
        exact ⟨a, r, rest ++ ['\n'], hq, hr, by simp⟩
    rw [List.cons_append, mentions, mentions, hsome, ih]

theorem mentions_join (hmodule : '\n' ∉ module) (ls : List Line) :
    mentions module (Lines.join '\n' ls) = (ls.map (mentions module)).sum := by
  induction ls with
  | nil => rfl
  | cons l ls ih =>
    cases ls with
    | nil => simp [Lines.join]
    | cons m ls =>
      have hjoin : Lines.join '\n' (l :: m :: ls) = l ++ '\n' :: Lines.join '\n' (m :: ls) := rfl
      rw [hjoin, mentions_append_sep hmodule, mentions_append_newline hmodule, mentions,
        mention?_of_not_quote rfl, ih]
      simp

theorem renameAll_eq_self (h : mentions module cs = 0) (fuel : Nat) :
    renameAll module pieces fuel cs = cs := by
  induction fuel generalizing cs with
  | zero => rfl
  | succ fuel ih =>
    cases cs with
    | nil => rfl
    | cons c cs =>
      rw [mentions] at h
      split at h
      · omega
      · rename_i hnone
        rw [Option.not_isSome_iff_eq_none] at hnone
        simp only [renameAll, hnone]
        rw [ih (by omega)]

theorem mentions_join_pos (hmodule : '\n' ∉ module) {ls : List Line}
    (h : ∃ l ∈ ls, renameLine module pieces l ≠ l) : 0 < mentions module (Lines.join '\n' ls) := by
  obtain ⟨l, hl, hne⟩ := h
  obtain ⟨before, after, rfl⟩ := List.append_of_mem hl
  have hpos : 0 < mentions module l := Nat.pos_of_ne_zero fun h => hne (renameAll_eq_self h l.length)
  rw [mentions_join hmodule, List.map_append, List.map_cons, List.sum_append, List.sum_cons]
  omega

/-- What stands before a quote in the new text stands before a quote in the old one. -/
theorem of_renameAll_eq (hpieces : ∀ m, ∃ q rest, isQuote q = true ∧ Piece.fill pieces m = q :: rest)
    {fuel : Nat} {p rest : List Char} {q : Char} (hp : ∀ c ∈ p, isQuote c = false)
    (hq : isQuote q = true) (h : renameAll module pieces fuel cs = p ++ q :: rest) :
    ∃ r tail, isQuote r = true ∧ cs = p ++ r :: tail := by
  induction fuel generalizing cs p with
  | zero => exact ⟨q, rest, hq, h⟩
  | succ fuel ih =>
    cases cs with
    | nil => simp [renameAll] at h
    | cons c cs =>
      simp only [renameAll] at h
      split at h
      · rename_i m after hm
        obtain ⟨r, tail, hr, hfill⟩ := hpieces m
        cases p with
        | nil =>
          obtain ⟨q', _, hq', -, -, hcs⟩ := mention?_eq_some_iff.1 hm
          exact ⟨q', _, hq', hcs⟩
        | cons d p =>
          rw [hfill] at h
          obtain ⟨rfl, -⟩ := List.cons.inj h
          exact absurd hr (Bool.eq_false_iff.1 (hp _ List.mem_cons_self))
      · cases p with
        | nil =>
          obtain ⟨rfl, -⟩ := List.cons.inj h
          exact ⟨_, cs, hq, rfl⟩
        | cons d p =>
          obtain ⟨rfl, htail⟩ := List.cons.inj h
          obtain ⟨r, tail, hr, hcs⟩ := ih (fun c hc => hp c (List.mem_cons_of_mem _ hc)) htail
          exact ⟨r, tail, hr, by rw [hcs]; rfl⟩

theorem mention?_of_renameAll (hmodule : ∀ c ∈ module, isQuote c = false)
    (hpieces : ∀ m, ∃ q rest, isQuote q = true ∧ Piece.fill pieces m = q :: rest) {fuel : Nat}
    {p q : Char} (h : (mention? module (q :: renameAll module pieces fuel cs)).isSome = true)
    (hp : isQuote q = true → isQuote p = true) : (mention? module (p :: cs)).isSome = true := by
  obtain ⟨q', r, rest, hq, hr, hcs⟩ := mention?_isSome_iff.1 h
  obtain ⟨rfl, htail⟩ := List.cons.inj hcs
  obtain ⟨r', rest', hr', rfl⟩ := of_renameAll_eq hpieces hmodule hr htail
  exact mention?_isSome_iff.2 ⟨p, r', rest', hp hq, hr', rfl⟩

structure Final (module new : List Char) : Prop where
  starts : ∃ q rest, isQuote q = true ∧ new = q :: rest
  ends : ∃ init q, isQuote q = true ∧ new = init ++ [q]
  free : mentions module new = 0

theorem mentions_renameAll (hmodule : ∀ c ∈ module, isQuote c = false)
    (hfinal : ∀ m, Final module (Piece.fill pieces m)) (fuel : Nat) (cs : List Char) :
    mentions module (renameAll module pieces fuel cs) ≤ mentions module cs ∧
      (renameAll module pieces fuel cs ≠ cs →
        mentions module (renameAll module pieces fuel cs) < mentions module cs) := by
  have hback {p q : Char} {fuel : Nat} {cs : List Char} (hp : isQuote q = true → isQuote p = true)
      (h : (mention? module (q :: renameAll module pieces fuel cs)).isSome = true) :=
    mention?_of_renameAll hmodule (fun m => (hfinal m).starts) h hp
  induction fuel generalizing cs with
  | zero => exact ⟨Nat.le_refl _, fun h => absurd rfl h⟩
  | succ fuel ih =>
    cases cs with
    | nil => exact ⟨Nat.le_refl _, fun h => absurd rfl h⟩
    | cons c cs =>
      cases hm : mention? module (c :: cs) with
      | none =>
        obtain ⟨hle, hlt⟩ := ih cs
        have hnone : (mention? module (c :: renameAll module pieces fuel cs)).isSome = false := by
          rw [Bool.eq_false_iff]
          intro h
          have hsome := hback id h
          rw [hm] at hsome
          cases hsome
        simp only [renameAll, hm, mentions, hnone, Option.isSome_none]
        refine ⟨Nat.add_le_add_left hle _, fun hne => Nat.add_lt_add_left (hlt ?_) _⟩
        exact fun heq => hne (by rw [heq])
      | some found =>
        obtain ⟨m, rest⟩ := found
        obtain ⟨q, r, hq, hr, -, hcs⟩ := mention?_eq_some_iff.1 hm
        obtain ⟨init, q', hq', hfill⟩ := (hfinal m).ends
        have hfree := (hfinal m).free
        -- the last quote may open the next mention, so it is counted with what is behind it
        have hnew : mentions module (renameAll module pieces (fuel + 1) (c :: cs)) =
            mentions module (q' :: renameAll module pieces fuel rest) := by
          rw [hfill] at hfree
          have hq'module : q' ∉ module := fun h => Bool.eq_false_iff.1 (hmodule q' h) hq'
          simp only [renameAll, hm]
          rw [hfill, List.append_assoc, List.singleton_append, mentions_append_sep hq'module,
            hfree, Nat.zero_add]
        have hshared : mentions module (q' :: renameAll module pieces fuel rest) ≤
            mentions module (r :: rest) := by
          have hle := (ih rest).1
          rw [mentions, mentions]
          split
          · rename_i h
            rw [if_pos (hback (fun _ => hr) h)]
            omega
          · omega
        have hold : mentions module (r :: rest) < mentions module (c :: cs) := by
          have hsome : (mention? module (c :: cs)).isSome = true := by rw [hm]; rfl
          have hle := le_mentions_append module module (r :: rest)
          rw [mentions.eq_2 module c cs, if_pos hsome, (List.cons.inj hcs).2]
          omega
        rw [hnew]
        exact ⟨by omega, fun _ => by omega⟩

theorem mentions_map_renameLine (hline : '\n' ∉ module)
    (hmodule : ∀ c ∈ module, isQuote c = false)
    (hfinal : ∀ m, Final module (Piece.fill pieces m)) (ls : List Line) :
    mentions module (Lines.join '\n' (ls.map (renameLine module pieces))) ≤
        mentions module (Lines.join '\n' ls) ∧
      ((∃ l ∈ ls, renameLine module pieces l ≠ l) →
        mentions module (Lines.join '\n' (ls.map (renameLine module pieces))) <
          mentions module (Lines.join '\n' ls)) := by
  simp only [mentions_join hline]
  induction ls with
  | nil => exact ⟨Nat.le_refl _, fun ⟨l, hl, _⟩ => absurd hl List.not_mem_nil⟩
  | cons l ls ih =>
    obtain ⟨hle, hlt⟩ := ih
    obtain ⟨hle', hlt'⟩ := mentions_renameAll hmodule hfinal l.length l
    simp only [List.map_cons, List.sum_cons]
    refine ⟨Nat.add_le_add hle' hle, ?_⟩
    rintro ⟨k, hk, hne⟩
    rcases List.mem_cons.1 hk with rfl | hk
    · exact Nat.add_lt_add_of_lt_of_le (hlt' hne) hle
    · exact Nat.add_lt_add_of_le_of_lt hle' (hlt ⟨k, hk, hne⟩)

theorem count_add_count_add_count_le {a b c : Char} (hab : a ≠ b) (hac : a ≠ c) (hbc : b ≠ c)
    (l : List Char) : l.count a + l.count b + l.count c ≤ l.length := by
  induction l with
  | nil => exact Nat.le_refl 0
  | cons d l ih =>
    simp only [List.count_cons, List.length_cons, beq_iff_eq]
    grind

/-- A replacement that mentions the module without the extension is as it is spelled, since the
mention and the characters of the extension leave no room for an escape. -/
theorem fill_eq_of_mentions_pos (h : Spells pieces ('\'' :: (module ++ ".js'".toList)))
    (hrecall : .match_ ∉ pieces) {m : List Char}
    (hpos : 0 < mentions module (Piece.fill pieces m)) :
    Piece.fill pieces m = '\'' :: (module ++ ".js'".toList) := by
  obtain ⟨before, q, r, after, hq, hr, hfill⟩ := mentions_pos_iff.1 hpos
  -- the characters of the extension are outside of the mention
  have hlost {c : Char} (hc : IsPlain c) (hquote : isQuote c = false) :
      ".js'".toList.count c ≤ (before ++ after).count c := by
    have hle := h.count_le hrecall hc m
    have hne {x : Char} (hx : isQuote x = true) : x ≠ c := by
      rintro rfl
      rw [hquote] at hx
      cases hx
    rw [hfill] at hle
    simp only [List.count_append, List.count_cons_of_ne (hne hq), List.count_cons_of_ne (hne hr),
      List.count_cons_of_ne (hne (x := '\'') rfl)] at hle ⊢
    omega
  have hdot := hlost (c := '.') ⟨by decide, by decide, by decide⟩ rfl
  have hj := hlost (c := 'j') ⟨by decide, by decide, by decide⟩ rfl
  have hs := hlost (c := 's') ⟨by decide, by decide, by decide⟩ rfl
  have hall := count_add_count_add_count_le (a := '.') (b := 'j') (c := 's') (by decide) (by decide)
    (by decide) (before ++ after)
  have hlen : (Piece.fill pieces m).length = (before ++ after).length + module.length + 2 := by
    rw [hfill]
    simp only [List.length_append, List.length_cons]
    omega
  refine (h.shorter hrecall m).resolve_right fun hshort => ?_
  have hsize : ('\'' :: (module ++ ".js'".toList)).length = module.length + 5 := by simp
  have hone : ".js'".toList.count '.' = 1 ∧ ".js'".toList.count 'j' = 1 ∧
    ".js'".toList.count 's' = 1 := by decide
  omega

/-- The module with the extension is another one: behind it stands a dot, and then only one quote
is left. -/
theorem mentions_extended (hmodule : ∀ c ∈ module, isQuote c = false) :
    mentions module ('\'' :: (module ++ ".js'".toList)) = 0 := by
  refine Nat.eq_zero_of_not_pos fun hpos => ?_
  obtain ⟨before, q, r, after, hq, hr, hsource⟩ := mentions_pos_iff.1 hpos
  cases before with
  | nil =>
    have htail := List.append_cancel_left (List.cons.inj hsource).2
    rw [← (List.cons.inj htail).1] at hr
    cases hr
  | cons b before =>
    have htail : module ++ ".js'".toList = before ++ q :: (module ++ r :: after) :=
      (List.cons.inj hsource).2
    have hquotes := congrArg (List.countP isQuote) htail
    have hnone : module.countP isQuote = 0 := by
      rw [List.countP_eq_zero]
      exact fun c hc => Bool.eq_false_iff.1 (hmodule c hc)
    have hone : ".js'".toList.countP isQuote = 1 := by decide
    simp only [List.countP_append, List.countP_cons, hq, hr, hnone, hone, if_true] at hquotes
    omega

theorem mentions_fill_eq_zero (hmodule : ∀ c ∈ module, isQuote c = false)
    (h : Spells pieces ('\'' :: (module ++ ".js'".toList))) (hrecall : .match_ ∉ pieces)
    (m : List Char) : mentions module (Piece.fill pieces m) = 0 := by
  refine Nat.eq_zero_of_not_pos fun hpos => ?_
  rw [fill_eq_of_mentions_pos h hrecall hpos, mentions_extended hmodule] at hpos
  exact Nat.lt_irrefl 0 hpos

theorem final_of_spells (hmodule : ∀ c ∈ module, isQuote c = false)
    (h : Spells pieces ('\'' :: (module ++ ".js'".toList))) (hrecall : .match_ ∉ pieces)
    (m : List Char) : Final module (Piece.fill pieces m) := by
  have hquote : IsPlain '\'' := ⟨by decide, by decide, by decide⟩
  refine ⟨?_, ?_, mentions_fill_eq_zero hmodule h hrecall m⟩
  · obtain ⟨qs, rfl, -⟩ := h.of_cons hquote.ne_backslash
    exact ⟨'\'', Piece.fill qs m, rfl, Piece.fill_cons _ _ _⟩
  · have hlast : ('\'' :: (module ++ ".js'".toList)).getLast? = some '\'' := by
      simp [List.getLast?_cons, List.getLast?_append]
    obtain ⟨init, hinit⟩ := List.getLast?_eq_some_iff.1 (h.getLast?_eq hlast hquote (by decide) m)
    exact ⟨init, '\'', rfl, hinit⟩

theorem exists_fill_eq_cons (h : Spells pieces ('\'' :: cs)) (hrecall : .match_ ∈ pieces)
    (m : List Char) : ∃ before after, Piece.fill pieces m = '\'' :: (before ++ m ++ after) := by
  obtain ⟨qs, rfl, -⟩ := h.of_cons (by decide)
  have hqs : .match_ ∈ qs := by simpa using hrecall
  obtain ⟨before, after, hfill⟩ := Piece.exists_fill_eq hqs m
  exact ⟨before, after, by rw [Piece.fill_cons, hfill]; rfl⟩

theorem mentions_renameAll_pos
    (hlonger : ∀ m, ∃ before after, Piece.fill pieces m = '\'' :: (before ++ m ++ after))
    {fuel : Nat} (hfuel : cs.length ≤ fuel) :
    cs.length ≤ (renameAll module pieces fuel cs).length ∧
      (0 < mentions module cs → cs.length < (renameAll module pieces fuel cs).length ∧
        0 < mentions module (renameAll module pieces fuel cs)) := by
  induction fuel generalizing cs with
  | zero =>
    rw [List.eq_nil_of_length_eq_zero (Nat.le_zero.1 hfuel)]
    exact ⟨Nat.le_refl _, fun h => absurd h (Nat.lt_irrefl 0)⟩
  | succ fuel ih =>
    cases cs with
    | nil => exact ⟨Nat.le_refl _, fun h => absurd h (Nat.lt_irrefl 0)⟩
    | cons c cs =>
      rw [List.length_cons] at hfuel
      cases hm : mention? module (c :: cs) with
      | none =>
        obtain ⟨hle, hlt⟩ := ih (Nat.le_of_succ_le_succ hfuel)
        simp only [renameAll, hm, List.length_cons]
        refine ⟨Nat.succ_le_succ hle, fun hpos => ?_⟩
        simp only [mentions, hm, Option.isSome_none] at hpos
        obtain ⟨hlen, hmentions⟩ := hlt (by simpa using hpos)
        exact ⟨Nat.succ_lt_succ hlen, Nat.lt_of_lt_of_le hmentions (Nat.le_add_left _ _)⟩
      | some found =>
        obtain ⟨m, rest⟩ := found
        obtain ⟨q, r, hq, hr, rfl, hcs⟩ := mention?_eq_some_iff.1 hm
        obtain ⟨before, after, hfill⟩ := hlonger (q :: (module ++ [r]))
        have hlen := congrArg List.length hcs
        simp only [List.length_cons, List.length_append] at hlen
        have hle := (ih (show rest.length ≤ fuel by omega)).1
        simp only [renameAll, hm, hfill]
        have hlt : (c :: cs).length < ('\'' :: (before ++ q :: (module ++ [r]) ++ after) ++
            renameAll module pieces fuel rest).length := by
          simp only [List.length_cons, List.length_append, List.length_nil]
          omega
        refine ⟨Nat.le_of_lt hlt, fun _ => ⟨hlt, mentions_pos_iff.2 ?_⟩⟩
        refine ⟨'\'' :: before, q, r, after ++ renameAll module pieces fuel rest, hq, hr, ?_⟩
        simp

theorem mentions_map_renameLine_pos (hline : '\n' ∉ module)
    (hlonger : ∀ m, ∃ before after, Piece.fill pieces m = '\'' :: (before ++ m ++ after))
    {ls : List Line} (h : 0 < mentions module (Lines.join '\n' ls)) :
    (∃ l ∈ ls, renameLine module pieces l ≠ l) ∧
      0 < mentions module (Lines.join '\n' (ls.map (renameLine module pieces))) := by
  rw [mentions_join hline] at h ⊢
  induction ls with
  | nil => exact absurd h (Nat.lt_irrefl 0)
  | cons l ls ih =>
    simp only [List.map_cons, List.sum_cons] at h ⊢
    by_cases hl : 0 < mentions module l
    · obtain ⟨hlen, hpos⟩ := (mentions_renameAll_pos hlonger (Nat.le_refl l.length)).2 hl
      refine ⟨⟨l, List.mem_cons_self, fun heq => ?_⟩, Nat.lt_of_lt_of_le hpos (Nat.le_add_right _ _)⟩
      rw [renameLine] at heq
      rw [heq] at hlen
      exact Nat.lt_irrefl _ hlen
    · obtain ⟨⟨k, hk, hne⟩, hpos⟩ := ih (by omega)
      exact ⟨⟨k, List.mem_cons_of_mem l hk, hne⟩, Nat.lt_of_lt_of_le hpos (Nat.le_add_left _ _)⟩

end

end Strategy.Extension

end Mend
