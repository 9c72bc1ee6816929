import Mend.Pattern.Reader
import Mend.Proofs.Pattern.Literal
import Mend.Proofs.Pattern.Phrasing

namespace Mend.Pattern

def isMark (c : Char) : Bool := "\\.^$*+?\x7b[()|".toList.contains c

/-- Characters that stand for one character behind a backslash: all but letters and digits, and the
letters of control characters. -/
def isEscapable (c : Char) : Bool := !c.isAlphanum || "afnrtv".toList.contains c

def afterBounds (cs : List Char) : List Char :=
  match cs.dropWhile Char.isDigit with
  | ',' :: rest => rest.dropWhile Char.isDigit
  | rest => rest

/-- Behind an opening brace: the bounds of a repetition and a closing brace. A brace that does not
open bounds stands for itself. -/
def isBounds (cs : List Char) : Bool :=
  cs.head? != some '}' && (afterBounds cs).head? == some '}'

/-- A source of characters that stand for themselves, some of them behind a backslash, of gaps and
of bars between alternatives. -/
def spellsPhrasing : List Char → Bool
  | [] => true
  | '.' :: '*' :: cs => spellsPhrasing cs
  | '\\' :: c :: cs => isEscapable c && spellsPhrasing cs
  | '|' :: cs => spellsPhrasing cs
  | '{' :: cs => !isBounds cs && spellsPhrasing cs
  | c :: cs => !isMark c && spellsPhrasing cs

namespace Source

structure AtText (s : Source) (cs : List Char) : Prop where
  left : ∃ n, s.left = (tokens n cs).1
  dangling : s.dangling = false

section
variable {s : Source} {c : Char} {cs : List Char}

theorem tokens_cons (n : Nat) (hc : c ≠ '\\') (cs : List Char) :
    tokens n (c :: cs) = (⟨[c], n⟩ :: (tokens (n + 1) cs).1, (tokens (n + 1) cs).2) := by
  rw [tokens]
  · simp [hc]
  · simp [hc]

theorem tokens_escaped (n : Nat) (c : Char) (cs : List Char) :
    tokens n ('\\' :: c :: cs) =
      (⟨['\\', c], n⟩ :: (tokens (n + 2) cs).1, (tokens (n + 2) cs).2) := by
  rw [tokens]

theorem AtText.peek?_nil (h : AtText s []) : s.peek? = none := by
  obtain ⟨n, hleft⟩ := h.left
  rw [peek?, hleft]
  rfl

theorem AtText.head?_of_peek? (h : AtText s cs) (hc : s.peek? = some [c]) :
    cs.head? = some c := by
  obtain ⟨n, hleft⟩ := h.left
  rw [peek?, hleft] at hc
  cases cs with
  | nil => cases hc
  | cons d cs =>
    by_cases hd : d = '\\'
    · subst hd
      cases cs with
      | nil => cases hc
      | cons e cs =>
        rw [tokens_escaped] at hc
        cases hc
    · rw [tokens_cons n hd] at hc
      cases hc
      rfl

theorem AtText.accept_of_ne (h : AtText s cs) (hc : cs.head? ≠ some c) :
    s.accept c = .ok (false, s) := by
  have hnext : s.nextIs c = false := by
    rw [nextIs, beq_eq_false_iff_ne]
    exact fun hpeek => hc (h.head?_of_peek? hpeek)
  rw [accept, if_neg (by rw [hnext]; exact Bool.false_ne_true)]

theorem AtText.skip_of_left {t : Token} {n : Nat} (h : AtText s cs) {ds : List Char}
    (hleft : s.left = t :: (tokens n ds).1) : ∃ u, s.skip = .ok u ∧ AtText u ds := by
  refine ⟨{ s with left := (tokens n ds).1 }, ?_, ⟨n, rfl⟩, h.dangling⟩
  rw [skip, check, hleft, h.dangling, Bool.and_false, if_neg Bool.false_ne_true]
  rfl

theorem AtText.cons (h : AtText s (c :: cs)) (hc : c ≠ '\\') :
    s.peek? = some [c] ∧ ∃ u, s.skip = .ok u ∧ AtText u cs := by
  obtain ⟨n, hleft⟩ := h.left
  rw [tokens_cons n hc] at hleft
  refine ⟨?_, h.skip_of_left hleft⟩
  rw [peek?, hleft]
  rfl

theorem AtText.accept (h : AtText s (c :: cs)) (hc : c ≠ '\\') :
    ∃ u, s.accept c = .ok (true, u) ∧ AtText u cs := by
  obtain ⟨hpeek, u, hskip, hu⟩ := h.cons hc
  refine ⟨u, ?_, hu⟩
  rw [Source.accept, nextIs, hpeek, if_pos (beq_self_eq_true _), hskip]
  rfl

theorem AtText.takeIn {p : Char → Bool} (hp : p '\\' = false) (h : AtText s cs) (n : Nat) :
    ∃ ds u rest, s.takeIn p n = .ok (ds, u) ∧ AtText u rest ∧
      (rest = cs.dropWhile p ∨ rest.head?.any p = true) := by
  induction n generalizing s cs with
  | zero =>
    refine ⟨[], s, cs, rfl, h, ?_⟩
    cases cs with
    | nil => exact .inl rfl
    | cons c cs =>
      by_cases hc : p c = true
      · exact .inr hc
      · exact .inl (List.dropWhile_cons_of_neg hc).symm
  | succ n ih =>
    cases cs with
    | nil =>
      refine ⟨[], s, [], ?_, h, .inl rfl⟩
      rw [Source.takeIn, h.peek?_nil]
    | cons c cs =>
      by_cases hc : p c = true
      · have hslash : c ≠ '\\' := by
          rintro rfl
          rw [hp] at hc
          cases hc
        obtain ⟨hpeek, u, hskip, hu⟩ := h.cons hslash
        obtain ⟨ds, v, rest, htake, hv, hrest⟩ := ih hu
        refine ⟨c :: ds, v, rest, ?_, hv, ?_⟩
        · rw [Source.takeIn, hpeek]
          dsimp only
          rw [if_pos hc, hskip]
          change (u.takeIn p n >>= _) = _
          rw [htake]
          rfl
        · rwa [List.dropWhile_cons_of_pos hc]
      · refine ⟨[], s, c :: cs, ?_, h, .inl (List.dropWhile_cons_of_neg hc).symm⟩
        rw [Source.takeIn]
        split
        · rename_i d hpeek
          obtain rfl : c = d := Option.some.inj (h.head?_of_peek? hpeek)
          rw [if_neg hc]
        · rfl

theorem AtText.escaped (h : AtText s ('\\' :: c :: cs)) :
    s.peek? = some ['\\', c] ∧ ∃ u, s.skip = .ok u ∧ AtText u cs := by
  obtain ⟨n, hleft⟩ := h.left
  rw [tokens_escaped] at hleft
  refine ⟨?_, h.skip_of_left hleft⟩
  rw [peek?, hleft]
  rfl

end

end Source

open Source (AtText)

def defaultModes : Modes := ({} : Groups).modes

@[simp] theorem folding_defaultModes : defaultModes.folding = .full := rfl

@[simp] theorem verbose_defaultModes : defaultModes.verbose = false := rfl

namespace Item

inductive IsPhrasing : Item → Prop
  | one {c : CharSet} (hc : c.IsLetters) : IsPhrasing (.plain (.one c))
  | other : IsPhrasing .other

section
variable {i : Item} {is : List Item} {c : CharSet} {members : List Member}

theorem IsPhrasing.expression (hi : i.IsPhrasing) {e : Expression} (he : i.expression? = some e) :
    e.IsPhrasing := by
  cases hi with
  | one hc =>
    cases he
    exact .one hc
  | other => cases he

theorem IsPhrasing.lead (hi : i.IsPhrasing) (hc : i.lead? = some c) : c.IsLetters := by
  cases hi with
  | one hletters =>
    cases hc
    exact hletters
  | other => cases hc

theorem code_of_mem_members? (h : ∀ i ∈ is, i.IsPhrasing) (hmembers : members? is = some members)
    {m : Member} (hm : m ∈ members) : ∃ n, m = .code n := by
  unfold members? at hmembers
  split at hmembers
  · cases h _ List.mem_cons_self with
    | one hc =>
      cases hc with
      | letter c =>
        cases hmembers
        exact ⟨_, List.mem_singleton.1 hm⟩
      | listed hcodes =>
        cases hmembers
        exact hcodes m hm
  · cases hmembers

theorem exists_of_mem_mapM {branches : List (List Item)} {lists : List (List Member)}
    (h : branches.mapM members? = some lists) (hmem : members ∈ lists) :
    ∃ is ∈ branches, members? is = some members := by
  induction branches generalizing lists with
  | nil =>
    cases h
    cases hmem
  | cons is branches ih =>
    rw [List.mapM_cons] at h
    obtain ⟨first, hfirst, h⟩ := Option.bind_eq_some_iff.1 h
    obtain ⟨rest, hrest, h⟩ := Option.bind_eq_some_iff.1 h
    cases h
    rcases List.mem_cons.1 hmem with rfl | hmem
    · exact ⟨is, List.mem_cons_self, hfirst⟩
    · obtain ⟨js, hjs, hmembers⟩ := ih hrest hmem
      exact ⟨js, List.mem_cons_of_mem _ hjs, hmembers⟩

theorem isLetters_of_union? {branches : List (List Item)}
    (h : ∀ is ∈ branches, ∀ i ∈ is, i.IsPhrasing) (hc : union? .full branches = some c) :
    c.IsLetters := by
  obtain ⟨lists, hlists, rfl⟩ := Option.map_eq_some_iff.1 hc
  refine .listed fun m hm => ?_
  obtain ⟨members, hmem, hm⟩ := List.mem_flatten.1 (List.mem_eraseDups.1 hm)
  obtain ⟨is, his, hmembers⟩ := exists_of_mem_mapM hlists hmem
  exact code_of_mem_members? (h is his) hmembers hm

end

end Item

theorem isPhrasing_all {es : List Expression} (h : ∀ e ∈ es, e.IsPhrasing) :
    (Expression.all es).IsPhrasing := by
  fun_induction Expression.all es with
  | case1 => exact .empty
  | case2 e => exact h e List.mem_cons_self
  | case3 e es _ ih =>
    rw [List.forall_mem_cons] at h
    exact .seq h.1 (ih h.2)

theorem isPhrasing_any {es : List Expression} (h : ∀ e ∈ es, e.IsPhrasing) :
    (Expression.any es).IsPhrasing := by
  fun_induction Expression.any es with
  | case1 => exact .empty
  | case2 e => exact h e List.mem_cons_self
  | case3 e es _ ih =>
    rw [List.forall_mem_cons] at h
    exact .alt h.1 (ih h.2)

structure Part.IsPhrasing (p : Part) : Prop where
  expression : p.expression.IsPhrasing
  items : ∀ i ∈ p.items, i.IsPhrasing
  flaw : p.flaw = none

namespace Part

section
variable {p q : Part} {ps : List Part}

theorem isPhrasing_empty : IsPhrasing .empty := ⟨.empty, List.forall_mem_nil _, rfl⟩

theorem isPhrasing_ofNumber (c : Char) : IsPhrasing (.ofNumber .full c.toNat) := by
  have hvalid : c.toNat.isValidChar := c.valid
  rw [ofNumber, dif_pos hvalid]
  exact ⟨.one (.letter _), List.forall_mem_singleton.2 (.one (.letter _)), rfl⟩

theorem IsPhrasing.sequence (h : ∀ p ∈ ps, p.IsPhrasing) : IsPhrasing (.sequence ps) := by
  induction ps with
  | nil => exact isPhrasing_empty
  | cons p ps ih =>
    rw [List.forall_mem_cons] at h
    obtain ⟨hp, hitems, hflaw⟩ := h.1
    cases ps with
    | nil => exact ⟨hp, hitems, hflaw⟩
    | cons q ps =>
      obtain ⟨hrest, hitems', hflaw'⟩ := ih h.2
      rw [Part.sequence]
      · exact ⟨.seq hp hrest, List.forall_mem_append.2 ⟨hitems, hitems'⟩,
          by simp only [hflaw, hflaw', orElse]⟩
      · exact List.cons_ne_nil q ps

theorem IsPhrasing.sequence_reverse (h : ∀ p ∈ ps, p.IsPhrasing) :
    IsPhrasing (.sequence ps.reverse) :=
  IsPhrasing.sequence fun p hp => h p (List.mem_reverse.1 hp)

theorem IsPhrasing.choice (h : ∀ p ∈ ps, p.IsPhrasing) : IsPhrasing (.choice .full ps) := by
  unfold Part.choice
  split
  · exact isPhrasing_empty
  · exact h _ List.mem_cons_self
  · rename_i p ps _
    have hp := h p List.mem_cons_self
    generalize Item.shared p.items (ps.map Part.items) = n
    have hfront : ∀ i ∈ p.items.take n, i.IsPhrasing :=
      fun i hi => hp.items i (List.mem_of_mem_take hi)
    dsimp only
    split
    · rename_i c hc
      have hletters : c.IsLetters := by
        refine Item.isLetters_of_union? ?_ hc
        intro is his i hi
        obtain ⟨q, hq, rfl⟩ := List.mem_map.1 his
        exact (h q hq).items i (List.mem_of_mem_drop hi)
      refine ⟨isPhrasing_all ?_, ?_, rfl⟩
      · refine List.forall_mem_append.2 ⟨?_, List.forall_mem_singleton.2 (.one hletters)⟩
        intro e he
        obtain ⟨i, hi, he⟩ := List.mem_filterMap.1 he
        exact (hfront i hi).expression he
      · exact List.forall_mem_append.2 ⟨hfront, List.forall_mem_singleton.2 (.one hletters)⟩
    · refine ⟨isPhrasing_any ?_, ?_, ?_⟩
      · intro e he
        obtain ⟨q, hq, rfl⟩ := List.mem_map.1 he
        exact (h q hq).expression
      · exact List.forall_mem_append.2 ⟨hfront, List.forall_mem_singleton.2 .other⟩
      · exact List.findSome?_eq_none_iff.2 fun q hq => (h q hq).flaw

/-- Where a phrasing begins with a letter, a search asks nothing of it before. -/
theorem IsPhrasing.searched_eq (hp : p.IsPhrasing) (ascii : Bool) :
    p.searched ascii = p.expression := by
  have hnone : p.lead?.bind (·.asked? ascii) = none := by
    rw [Option.bind_eq_none_iff]
    intro c hc
    obtain ⟨i, hi, hlead⟩ := Option.bind_eq_some_iff.1 hc
    cases (hp.items i (List.mem_of_mem_head? hi)).lead hlead with
    | letter c => rfl
    | @listed members hcodes =>
      have htold : members.map (·.told ascii) = members := by
        have hsame : ∀ m ∈ members, m.told ascii = id m := by
          intro m hm
          obtain ⟨n, rfl⟩ := hcodes m hm
          rfl
        rw [List.map_congr_left hsame, List.map_id]
      simp only [CharSet.asked?, htold, bne_self_eq_false, Bool.false_and]
      rfl
  rw [searched, hnone]

theorem isPhrasing_gap : IsPhrasing ((Part.ofSet .inLine).repeated 0 none .most false) :=
  ⟨.gap, List.forall_mem_singleton.2 .other, rfl⟩

end

end Part

section
variable {c : Char} {cs : List Char} {s u : Source} {g : Groups} {fuel : Nat} {done : List Part}
  {first : Bool}

theorem ne_backslash (hc : isMark c = false) : c ≠ '\\' := by
  rintro rfl
  cases hc

theorem ne_of_isAlphanum (hc : c.isAlphanum = false) {d : Char} (hd : d.isAlphanum = true) :
    c ≠ d := by
  rintro rfl
  rw [hc] at hd
  cases hd

theorem kindEscape?_eq_none (hc : c.isAlphanum = false) (ascii : Bool) :
    kindEscape? ascii c = none := by
  rw [kindEscape?] <;> exact ne_of_isAlphanum hc rfl

theorem letterEscape?_eq_none (hc : c.isAlphanum = false) (start : Nat) (s : Source) :
    letterEscape? c start s = none := by
  rw [letterEscape?] <;> exact ne_of_isAlphanum hc rfl

theorem escapePart_of_not_isAlphanum (hc : c.isAlphanum = false) (start : Nat) (g : Groups)
    (s : Source) : escapePart defaultModes c start g s = .ok (.ofNumber .full c.toNat, s) := by
  by_cases hslash : c = '\\'
  · subst hslash
    rfl
  have hparts := hc
  rw [Char.isAlphanum, Bool.or_eq_false_iff] at hparts
  have hne {d : Char} (hd : d.isAlphanum = true) : c ≠ d := ne_of_isAlphanum hc hd
  simp [escapePart, kindEscape?_eq_none hc, letterEscape?_eq_none hc,
    controlEscape?_eq_none hc hslash, hparts, hne (d := 'b') rfl, hne (d := 'A') rfl,
    hne (d := 'B') rfl, hne (d := 'Z') rfl, hne (d := '0') rfl, pure,
    Except.pure]

theorem escapePart_of_isEscapable (hc : isEscapable c = true) (start : Nat) (g : Groups)
    (s : Source) :
    ∃ d : Char, escapePart defaultModes c start g s = .ok (.ofNumber .full d.toNat, s) := by
  rw [isEscapable, Bool.or_eq_true, Bool.not_eq_true'] at hc
  rcases hc with hc | hc
  · exact ⟨c, escapePart_of_not_isAlphanum hc start g s⟩
  · have hcontrol : ∀ c ∈ "afnrtv".toList,
        ∃ d : Char, escapePart defaultModes c start g s = .ok (.ofNumber .full d.toNat, s) := by
      simp only [String.reduceToList, List.forall_mem_cons]
      exact ⟨⟨_, rfl⟩, ⟨_, rfl⟩, ⟨_, rfl⟩, ⟨_, rfl⟩, ⟨_, rfl⟩, ⟨_, rfl⟩, List.forall_mem_nil _⟩
    exact hcontrol c (List.contains_iff_mem.1 hc)

theorem tokens_snd (h : spellsPhrasing cs = true) (n : Nat) : (tokens n cs).2 = false := by
  fun_induction spellsPhrasing cs generalizing n with
  | case1 => rfl
  | case2 cs ih =>
    rw [Source.tokens_cons n (by decide), Source.tokens_cons _ (by decide)]
    exact ih h _
  | case3 c cs ih =>
    rw [Source.tokens_escaped]
    exact ih (Bool.and_eq_true_iff.1 h).2 _
  | case4 cs ih =>
    rw [Source.tokens_cons n (by decide)]
    exact ih h _
  | case5 cs ih =>
    rw [Source.tokens_cons n (by decide)]
    exact ih (Bool.and_eq_true_iff.1 h).2 _
  | case6 c cs _ _ _ _ ih =>
    rw [Bool.and_eq_true, Bool.not_eq_true'] at h
    rw [Source.tokens_cons n (ne_backslash h.1)]
    exact ih h.2 _

theorem sequence_stop (hs : s.peek? = none ∨ s.peek? = some ['|']) :
    sequence (fuel + 1) ⟨defaultModes, 0, first⟩ done g s = .ok (.sequence done.reverse, g, s) := by
  rcases hs with hs | hs
  · rw [sequence, hs]
    rfl
  · rw [sequence, hs]
    rfl

theorem sequence_letter (hc : isMark c = false) (hpeek : s.peek? = some [c])
    (hskip : s.skip = .ok u) :
    sequence (fuel + 1) ⟨defaultModes, 0, first⟩ done g s =
      sequence fuel ⟨defaultModes, 0, first⟩ (.ofNumber .full c.toNat :: done) g u := by
  have hmarks : ∀ d ∈ "\\.^$*+?\x7b[()|".toList, c ≠ d := by
    rintro d hd rfl
    rw [isMark, List.contains_iff_mem.2 hd] at hc
    cases hc
  simp only [String.reduceToList, List.forall_mem_cons] at hmarks
  simp [sequence, hpeek, hskip, hmarks, bind, Except.bind]

theorem sequence_escaped (hc : isEscapable c = true) (hpeek : s.peek? = some ['\\', c])
    (hskip : s.skip = .ok u) : ∃ d : Char,
    sequence (fuel + 1) ⟨defaultModes, 0, first⟩ done g s =
      sequence fuel ⟨defaultModes, 0, first⟩ (.ofNumber .full d.toNat :: done) g u := by
  obtain ⟨d, hd⟩ := escapePart_of_isEscapable hc s.position g u
  refine ⟨d, ?_⟩
  simp only [sequence, hpeek, hskip]
  change (escapePart defaultModes c s.position g u >>= fun x =>
    sequence fuel ⟨defaultModes, 0, first⟩ (x.1 :: done) g x.2) = _
  rw [hd]
  rfl

theorem bounds?_of_not_isBounds (hs : AtText s cs) (h : isBounds cs = false)
    (hopen : cs.head? ≠ some '}') : bounds? s = .ok none := by
  have hafter : (afterBounds cs).head? ≠ some '}' := by
    rw [isBounds, Bool.and_eq_false_iff, bne_eq_false_iff_eq, beq_eq_false_iff_ne] at h
    exact h.resolve_left hopen
  -- where fewer digits are taken than there are, the next one stands in the way of the brace
  have hdigit {rest : List Char} (hhead : rest.head?.any Char.isDigit = true) :
      rest.head? ≠ some '}' := by
    intro hbrace
    rw [hbrace] at hhead
    cases hhead
  obtain ⟨ds, u, rest, htake, hu, hrest⟩ := hs.takeIn (p := Char.isDigit) rfl s.length
  change (s.takeIn Char.isDigit s.length >>= _) = _
  rw [htake]
  change (u.accept ',' >>= _) = _
  by_cases hcomma : rest.head? = some ','
  · obtain ⟨more, rfl⟩ : ∃ more, rest = ',' :: more := by
      cases rest with
      | nil => cases hcomma
      | cons c more =>
        cases hcomma
        exact ⟨more, rfl⟩
    have hdrop : ',' :: more = cs.dropWhile Char.isDigit :=
      hrest.resolve_right Bool.false_ne_true
    rw [afterBounds, ← hdrop] at hafter
    obtain ⟨v, haccept, hv⟩ := hu.accept (by decide)
    obtain ⟨es, w, rest', htake', hw, hrest'⟩ := hv.takeIn (p := Char.isDigit) rfl v.length
    have hclose : rest'.head? ≠ some '}' := by
      rcases hrest' with rfl | hhead
      · exact hafter
      · exact hdigit hhead
    rw [haccept]
    change (v.takeIn Char.isDigit v.length >>= _) = _
    rw [htake']
    change (w.accept '}' >>= _) = _
    rw [hw.accept_of_ne hclose]
    rfl
  · have hclose : rest.head? ≠ some '}' := by
      rcases hrest with rfl | hhead
      · rw [afterBounds] at hafter
        split at hafter
        · rename_i more hmore
          exact absurd (congrArg List.head? hmore) hcomma
        · exact hafter
      · exact hdigit hhead
    rw [hu.accept_of_ne hcomma]
    change (u.accept '}' >>= _) = _
    rw [hu.accept_of_ne hclose]
    rfl

theorem sequence_brace (hs : AtText s ('{' :: cs)) (hcs : isBounds cs = false) :
    ∃ u, AtText u cs ∧ sequence (fuel + 1) ⟨defaultModes, 0, first⟩ done g s =
      sequence fuel ⟨defaultModes, 0, first⟩ (.ofNumber .full '{'.toNat :: done) g u := by
  obtain ⟨hpeek, u, hskip, hu⟩ := hs.cons (by decide)
  refine ⟨u, hu, ?_⟩
  simp only [sequence, hpeek, hskip]
  change (if u.nextIs '}' = true then _ else _) = _
  by_cases hopen : cs.head? = some '}'
  · cases cs with
    | nil => cases hopen
    | cons c cs =>
      obtain rfl : c = '}' := Option.some.inj hopen
      have hnext : u.nextIs '}' = true := by
        rw [Source.nextIs, (hu.cons (by decide)).1]
        rfl
      rw [if_pos hnext]
      rfl
  · have hnext : ¬ u.nextIs '}' = true := by
      rw [Source.nextIs, beq_iff_eq]
      exact fun hpeek => hopen (hu.head?_of_peek? hpeek)
    rw [if_neg hnext]
    change (bounds? u >>= _) = _
    rw [bounds?_of_not_isBounds hu hcs hopen]
    rfl

theorem head?_ne_of_spellsPhrasing (hcs : spellsPhrasing cs = true) (hc : c = '?' ∨ c = '+') :
    cs.head? ≠ some c := by
  cases cs with
  | nil => exact nofun
  | cons d cs =>
    rintro ⟨⟩
    rcases hc with rfl | rfl
    · cases hcs
    · cases hcs

theorem sequence_gap (hs : AtText s ('.' :: '*' :: cs)) (hcs : spellsPhrasing cs = true) :
    ∃ u, AtText u cs ∧ sequence (fuel + 2) ⟨defaultModes, 0, first⟩ done {} s =
      sequence fuel ⟨defaultModes, 0, first⟩
        ((Part.ofSet .inLine).repeated 0 none .most false :: done) {} u := by
  obtain ⟨hdot, u, hu, hstar⟩ := hs.cons (by decide)
  obtain ⟨hpeek, v, hv, hrest⟩ := hstar.cons (by decide)
  refine ⟨v, hrest, ?_⟩
  have hrepeat : repeatPart (.ofSet .inLine :: done) 0 none u.position {} v =
      .ok ((Part.ofSet .inLine).repeated 0 none .most false :: done, v) := by
    change (v.accept '?' >>= _) = _
    rw [hrest.accept_of_ne (head?_ne_of_spellsPhrasing hcs (.inl rfl))]
    change (v.accept '+' >>= _) = _
    rw [hrest.accept_of_ne (head?_ne_of_spellsPhrasing hcs (.inr rfl))]
    rfl
  calc sequence (fuel + 2) ⟨defaultModes, 0, first⟩ done {} s
      = sequence (fuel + 1) ⟨defaultModes, 0, first⟩ (.ofSet .inLine :: done) {} u := by
        simp only [sequence, hdot, hu]
        rfl
    _ = _ := by
        simp only [sequence, hpeek, hv]
        change (repeatPart (.ofSet .inLine :: done) 0 none u.position {} v >>= fun x =>
          sequence fuel ⟨defaultModes, 0, first⟩ x.1 {} x.2) = _
        rw [hrepeat]
        rfl

/-- A part that is a phrasing was read, up to the end or to a bar with fewer than `n` characters of
a phrasing behind it. -/
inductive Advances (n : Nat) : Source.Step (Part × Groups × Source) → Prop
  | toEnd {p : Part} {u : Source} (hp : p.IsPhrasing) (hu : AtText u []) :
    Advances n (.ok (p, {}, u))
  | toBar {p : Part} {u : Source} {cs : List Char} (hp : p.IsPhrasing) (hu : AtText u ('|' :: cs))
    (hcs : spellsPhrasing cs = true) (hlength : cs.length < n) : Advances n (.ok (p, {}, u))

theorem Advances.mono {m n : Nat} {r : Source.Step (Part × Groups × Source)} (h : Advances m r)
    (hle : m ≤ n) : Advances n r := by
  cases h with
  | toEnd hp hu => exact .toEnd hp hu
  | toBar hp hu hcs hlength => exact .toBar hp hu hcs (Nat.lt_of_lt_of_le hlength hle)

theorem advances_sequence (hs : AtText s cs) (hcs : spellsPhrasing cs = true)
    (hfuel : cs.length ≤ fuel) (hdone : ∀ p ∈ done, p.IsPhrasing) :
    Advances cs.length (sequence (fuel + 1) ⟨defaultModes, 0, first⟩ done {} s) := by
  -- along the source; there is fuel for every token, since each has a character of its own
  fun_induction spellsPhrasing cs generalizing s fuel done with
  | case1 =>
    rw [sequence_stop (.inl hs.peek?_nil)]
    exact .toEnd (Part.IsPhrasing.sequence_reverse hdone) hs
  | case2 cs ih =>
    rw [List.length_cons, List.length_cons] at hfuel ⊢
    obtain ⟨fuel, rfl⟩ : ∃ n, fuel = n + 2 := ⟨fuel - 2, by omega⟩
    obtain ⟨u, hu, hstep⟩ := sequence_gap hs hcs
    rw [hstep]
    have hnext := List.forall_mem_cons.2 ⟨Part.isPhrasing_gap, hdone⟩
    exact (ih hu hcs (by omega) hnext).mono (by omega)
  | case3 c cs ih =>
    rw [List.length_cons, List.length_cons] at hfuel ⊢
    obtain ⟨fuel, rfl⟩ : ∃ n, fuel = n + 1 := ⟨fuel - 1, by omega⟩
    rw [Bool.and_eq_true] at hcs
    obtain ⟨hpeek, u, hskip, hu⟩ := hs.escaped
    obtain ⟨d, hstep⟩ := sequence_escaped hcs.1 hpeek hskip
    rw [hstep]
    have hnext := List.forall_mem_cons.2 ⟨Part.isPhrasing_ofNumber d, hdone⟩
    exact (ih hu hcs.2 (by omega) hnext).mono (by omega)
  | case4 cs ih =>
    rw [sequence_stop (.inr (hs.cons (by decide)).1)]
    exact .toBar (Part.IsPhrasing.sequence_reverse hdone) hs hcs (Nat.lt_succ_self _)
  | case5 cs ih =>
    rw [List.length_cons] at hfuel ⊢
    obtain ⟨fuel, rfl⟩ : ∃ n, fuel = n + 1 := ⟨fuel - 1, by omega⟩
    rw [Bool.and_eq_true, Bool.not_eq_true'] at hcs
    obtain ⟨u, hu, hstep⟩ := sequence_brace hs hcs.1
    rw [hstep]
    have hnext := List.forall_mem_cons.2 ⟨Part.isPhrasing_ofNumber '{', hdone⟩
    exact (ih hu hcs.2 (by omega) hnext).mono (by omega)
  | case6 c cs _ _ _ _ ih =>
    rw [List.length_cons] at hfuel ⊢
    obtain ⟨fuel, rfl⟩ : ∃ n, fuel = n + 1 := ⟨fuel - 1, by omega⟩
    rw [Bool.and_eq_true, Bool.not_eq_true'] at hcs
    obtain ⟨hpeek, u, hskip, hu⟩ := hs.cons (ne_backslash hcs.1)
    rw [sequence_letter hcs.1 hpeek hskip]
    have hnext := List.forall_mem_cons.2 ⟨Part.isPhrasing_ofNumber c, hdone⟩
    exact (ih hu hcs.2 (by omega) hnext).mono (by omega)

theorem alternatives_of_spellsPhrasing (first : Bool) (hs : AtText s cs)
    (hcs : spellsPhrasing cs = true) (hfuel : cs.length + 2 ≤ fuel)
    (hdone : ∀ p ∈ done, p.IsPhrasing) :
    ∃ p u, alternatives fuel ⟨defaultModes, 0, first⟩ done {} s = .ok (p, {}, u) ∧ p.IsPhrasing ∧
      AtText u [] := by
  -- behind a bar there are fewer characters, so that the fuel lasts
  induction fuel generalizing s cs first done with
  | zero => omega
  | succ fuel ih =>
    obtain ⟨fuel, rfl⟩ : ∃ n, fuel = n + 1 := ⟨fuel - 1, by omega⟩
    have hread : Advances cs.length (sequence (fuel + 1) ⟨defaultModes, 0, first⟩ [] {} s) :=
      advances_sequence hs hcs (by omega) (List.forall_mem_nil _)
    rw [alternatives]
    generalize sequence (fuel + 1) ⟨defaultModes, 0, first⟩ [] {} s = r at hread ⊢
    cases hread with
    | @toEnd p u hp hu =>
      have hall := List.forall_mem_cons.2 ⟨hp, hdone⟩
      refine ⟨.choice .full (p :: done).reverse, u, ?_,
        .choice fun q hq => hall q (List.mem_reverse.1 hq), hu⟩
      change (u.accept '|' >>= _) = _
      rw [hu.accept_of_ne nofun]
      rfl
    | @toBar p u ds hp hu hds hlength =>
      obtain ⟨v, hbar, hv⟩ := hu.accept (by decide)
      obtain ⟨q, w, hrest, hq⟩ := ih false hv hds (by omega) (List.forall_mem_cons.2 ⟨hp, hdone⟩)
      refine ⟨q, w, ?_, hq⟩
      change (u.accept '|' >>= _) = _
      rw [hbar]
      exact hrest

theorem read_of_spellsPhrasing (hcs : spellsPhrasing cs = true) :
    ∃ p, read cs = .ok p ∧ p.IsPhrasing := by
  have htext : ∃ s, Source.ofText cs = .ok s ∧ AtText s cs := by
    refine ⟨⟨(tokens 0 cs).1, cs.length, (tokens 0 cs).2⟩, ?_, ⟨0, rfl⟩, tokens_snd hcs 0⟩
    change Source.check ⟨(tokens 0 cs).1, cs.length, (tokens 0 cs).2⟩ = _
    rw [Source.check, tokens_snd hcs 0, Bool.and_false, if_neg Bool.false_ne_true]
  obtain ⟨s, hs, htext⟩ := htext
  have hfuel : cs.length + 2 ≤ 3 * cs.length + 3 := by omega
  obtain ⟨p, u, hread, hp, hu⟩ :=
    alternatives_of_spellsPhrasing true htext hcs hfuel (List.forall_mem_nil _)
  have hwhole : checkWhole p {} u = .ok () := by
    rw [checkWhole, hu.peek?_nil, hp.flaw]
    rfl
  refine ⟨p.expression, ?_, hp.expression⟩
  rw [read, hs]
  change (alternatives (3 * cs.length + 3) ⟨defaultModes, 0, true⟩ [] {} s >>= _) = _
  rw [hread]
  change (checkWhole p {} u >>= _) = _
  rw [hwhole]
  exact congrArg Except.ok (hp.searched_eq _)

end

end Mend.Pattern
