import Mend.Pattern.Replacement

namespace Mend.Pattern

theorem of_bind {ε α β : Type} {x : Except ε α} {f : α → Except ε β} {b : β}
    (h : x >>= f = .ok b) : ∃ a, x = .ok a ∧ f a = .ok b := by
  cases x with
  | error e => cases h
  | ok a => exact ⟨a, rfl, h⟩

/-- The text of a token: a character, or a backslash with the character behind it. -/
def IsToken (t : List Char) : Prop := (∃ c, t = [c] ∧ c ≠ '\\') ∨ ∃ c, t = ['\\', c]

theorem tokens_spec (n : Nat) (cs : List Char) :
    (tokens n cs).1.flatMap (·.text) ++ (if (tokens n cs).2 then ['\\'] else []) = cs ∧
      (∀ k ∈ (tokens n cs).1, IsToken k.text) ∧ (tokens n cs).1.length ≤ cs.length := by
  fun_induction tokens n cs with
  | case1 => simp
  | case2 => simp
  | case3 n c cs ts d hts ih =>
    rw [hts] at ih
    obtain ⟨hflat, hforms, hlen⟩ := ih
    refine ⟨?_, List.forall_mem_cons.2 ⟨.inr ⟨c, rfl⟩, hforms⟩, ?_⟩
    · simpa using hflat
    · simp only [List.length_cons] at hlen ⊢
      omega
  | case4 n c cs hlone hescape ts d hts ih =>
    rw [hts] at ih
    obtain ⟨hflat, hforms, hlen⟩ := ih
    refine ⟨?_, List.forall_mem_cons.2 ⟨.inl ⟨c, rfl, ?_⟩, hforms⟩, ?_⟩
    · simpa using hflat
    · rintro rfl
      cases cs with
      | nil => exact hlone rfl rfl
      | cons d ds => exact hescape d ds rfl rfl
    · simp only [List.length_cons] at hlen ⊢
      omega

namespace Source

structure Passes (s : Source) (cs : List Char) (t : Source) : Prop where
  left : ∃ read, s.left = read ++ t.left ∧ read.flatMap (·.text) = cs
  dangling : t.dangling = s.dangling
  checked : (s.left = [] → s.dangling = false) → t.left = [] → t.dangling = false

section
variable {s t u : Source} {cs ds : List Char} {c : Char}

theorem Passes.refl (s : Source) : Passes s [] s :=
  ⟨⟨[], rfl, rfl⟩, rfl, id⟩

theorem Passes.trans (h : Passes s cs t) (k : Passes t ds u) : Passes s (cs ++ ds) u := by
  obtain ⟨⟨read, hread, hcs⟩, hst, hs⟩ := h
  obtain ⟨⟨more, hmore, hds⟩, htu, ht⟩ := k
  refine ⟨⟨read ++ more, ?_, ?_⟩, htu.trans hst, fun h => ht (hs h)⟩
  · rw [hread, hmore, List.append_assoc]
  · rw [List.flatMap_append, hcs, hds]

theorem Passes.flatMap_eq (h : Passes s cs t) :
    s.left.flatMap (·.text) = cs ++ t.left.flatMap (·.text) := by
  obtain ⟨⟨read, hread, hcs⟩, -, -⟩ := h
  rw [hread, List.flatMap_append, hcs]

theorem Passes.length_lt (h : Passes s cs t) (hcs : cs ≠ []) : t.left.length < s.left.length := by
  obtain ⟨⟨read, hread, hflat⟩, -, -⟩ := h
  have hpos : 0 < read.length := List.length_pos_iff.2 (by
    rintro rfl
    exact hcs hflat.symm)
  rw [hread, List.length_append]
  omega

theorem Passes.mem (h : Passes s cs t) {k : Token} (hk : k ∈ t.left) : k ∈ s.left := by
  obtain ⟨⟨read, hread, -⟩, -, -⟩ := h
  rw [hread]
  exact List.mem_append_right read hk

theorem of_check (h : check s = .ok t) : t = s ∧ (s.left = [] → s.dangling = false) := by
  unfold check at h
  split at h
  · cases h
  · rename_i hs
    cases h
    exact ⟨rfl, fun hnil => by simpa [hnil] using hs⟩

theorem of_skip (hs : s.peek? = some cs) (h : s.skip = .ok t) : Passes s cs t := by
  obtain ⟨rfl, ht⟩ := of_check h
  obtain ⟨k, hk, rfl⟩ := Option.map_eq_some_iff.1 hs
  obtain ⟨ks, hleft⟩ := List.head?_eq_some_iff.1 hk
  refine ⟨⟨[k], ?_, ?_⟩, rfl, fun _ => ht⟩
  · simp [hleft]
  · simp

theorem of_accept (h : s.accept c = .ok (true, t)) : Passes s [c] t := by
  unfold accept at h
  split at h
  · rename_i hs
    cases hskip : s.skip with
    | error e =>
      rw [hskip] at h
      cases h
    | ok u =>
      rw [hskip] at h
      cases h
      exact of_skip (eq_of_beq hs) hskip
  · cases h

theorem of_takeIn {p : Char → Bool} {n : Nat} (h : s.takeIn p n = .ok (cs, t)) :
    Passes s cs t ∧ ∀ c ∈ cs, p c = true := by
  induction n generalizing s cs with
  | zero =>
    cases h
    exact ⟨.refl _, fun _ h => nomatch h⟩
  | succ n ih =>
    rw [takeIn] at h
    split at h
    · rename_i c hpeek
      split at h
      · rename_i hc
        obtain ⟨u, hskip, h⟩ := of_bind h
        obtain ⟨r, hrest, h⟩ := of_bind h
        cases h
        obtain ⟨hpasses, hall⟩ := ih hrest
        exact ⟨(of_skip hpeek hskip).trans hpasses, List.forall_mem_cons.2 ⟨hc, hall⟩⟩
      · cases h
        exact ⟨.refl _, fun _ h => nomatch h⟩
    · cases h
      exact ⟨.refl _, fun _ h => nomatch h⟩

theorem of_upToFrom {what : String} {terminator : Char} {done name : List Char} {fuel : Nat}
    (h : upToFrom what terminator done fuel s = .ok (name, t)) :
    ∃ rest, Passes s (rest ++ [terminator]) t := by
  induction fuel generalizing s done with
  | zero => cases h
  | succ fuel ih =>
    rw [upToFrom] at h
    split at h
    · split at h <;> cases h
    · rename_i k hpeek
      obtain ⟨u, hskip, h⟩ := of_bind h
      have hpasses := of_skip hpeek hskip
      split at h
      · rename_i hk
        split at h
        · cases h
        · cases h
          exact ⟨[], hk ▸ hpasses⟩
      · obtain ⟨rest, hrest⟩ := ih h
        refine ⟨k ++ rest, ?_⟩
        rw [List.append_assoc]
        exact hpasses.trans hrest

end

end Source

open Source (Passes)

/-- What stands behind a backslash, and what both come to. -/
inductive Escapes : Piece → List Char → Prop
  | kept {c : Char} (hc : c.isAlphanum = false) : Escapes (.text ['\\', c]) [c]
  | coded {c : Char} {ds : List Char} (d : Char)
    (hc : c.isDigit = true ∨ (controlEscape? c).isSome = true)
    (hds : ∀ d ∈ ds, d.isDigit = true) : Escapes (.text [d]) (c :: ds)
  | recalled (name : List Char) : Escapes .match_ ('g' :: '<' :: name ++ ['>'])

inductive Spells : List Piece → List Char → Prop
  | nil : Spells [] []
  | char {c : Char} {ps : List Piece} {cs : List Char} (hc : c ≠ '\\') (t : Spells ps cs) :
    Spells (.text [c] :: ps) (c :: cs)
  | escape {p : Piece} {ps : List Piece} {ds cs : List Char} (h : Escapes p ds)
    (t : Spells ps cs) : Spells (p :: ps) ('\\' :: ds ++ cs)

theorem isDigit_of_isOctal {c : Char} (h : isOctal c = true) : c.isDigit = true := by
  simp only [isOctal, Char.isDigit, Bool.and_eq_true, decide_eq_true_eq] at h ⊢
  have hseven : c.val ≤ '7'.val := h.2
  exact ⟨h.1, UInt32.le_trans hseven (by decide)⟩

namespace Piece

theorem of_step {e : Source.Step α} {a : α} (h : step e = .ok a) : e = .ok a := by
  cases e with
  | error f => cases h
  | ok b =>
    cases h
    rfl

section
variable {s t : Source} {c : Char} {p : Piece}

theorem of_digitEscape {r : Nat ⊕ Nat} {n : Nat} (h : digitEscape c s = .ok (r, n, t)) :
    ∃ ds, Passes s ds t ∧ ∀ d ∈ ds, d.isDigit = true := by
  unfold digitEscape at h
  obtain ⟨⟨second, u⟩, hsecond, h⟩ := of_bind h
  obtain ⟨hpasses, hdigits⟩ := Source.of_takeIn hsecond
  dsimp only at h
  split at h
  · obtain ⟨⟨third, v⟩, hthird, h⟩ := of_bind h
    obtain ⟨hpasses', hoctal⟩ := Source.of_takeIn hthird
    dsimp only at h
    split at h
    · cases h
    · cases h
      refine ⟨_, hpasses.trans hpasses', fun d hd => ?_⟩
      exact (List.mem_append.1 hd).elim (hdigits d) fun hd => isDigit_of_isOctal (hoctal d hd)
  · cases h
    exact ⟨second, hpasses, hdigits⟩

theorem of_escaped {start : Nat} (h : escaped c start s = .ok (p, t)) :
    ∃ ds, Passes s ds t ∧ Escapes p (c :: ds) := by
  unfold escaped at h
  by_cases hg : c = 'g'
  · rw [if_pos hg] at h
    subst hg
    obtain ⟨⟨opened, u⟩, haccept, h⟩ := of_bind h
    cases opened with
    | false => cases h
    | true =>
      have hopened := Source.of_accept (of_step haccept)
      obtain ⟨⟨name, v⟩, hname, h⟩ := of_bind h
      obtain ⟨rest, hrest⟩ := Source.of_upToFrom (of_step hname)
      by_cases hword : Text.isName name = true
      · simp only [hword] at h
        cases h
      · cases hnumber : groupNumber? name with
        | none =>
          simp only [hword, hnumber] at h
          cases h
        | some n =>
          simp only [hword, hnumber] at h
          cases n with
          | zero =>
            cases h
            exact ⟨_, hopened.trans hrest, .recalled rest⟩
          | succ n => cases h
  rw [if_neg hg] at h
  by_cases hzero : c = '0'
  · rw [if_pos hzero] at h
    subst hzero
    obtain ⟨⟨ds, u⟩, hoctal, h⟩ := of_bind h
    obtain ⟨hpasses, hds⟩ := Source.of_takeIn (of_step hoctal)
    cases h
    exact ⟨ds, hpasses, .coded _ (.inl rfl) fun d hd => isDigit_of_isOctal (hds d hd)⟩
  rw [if_neg hzero] at h
  by_cases hdigit : c.isDigit = true
  · rw [if_pos hdigit] at h
    obtain ⟨⟨r, n, u⟩, hescape, h⟩ := of_bind h
    obtain ⟨ds, hpasses, hds⟩ := of_digitEscape (of_step hescape)
    cases r with
    | inl m =>
      cases h
      exact ⟨ds, hpasses, .coded _ (.inl hdigit) hds⟩
    | inr m => cases h
  rw [if_neg hdigit] at h
  dsimp only at h
  split at h
  · rename_i d hcontrol
    cases h
    exact ⟨[], .refl _, .coded d (.inr (by rw [hcontrol]; rfl)) fun _ h => nomatch h⟩
  · split at h
    · cases h
    · rename_i halpha
      cases h
      refine ⟨[], .refl _, .kept ?_⟩
      simp [Char.isAlphanum, halpha, hdigit]

theorem of_readFrom {fuel : Nat} {ps : List Piece} (hs : s.left = [] → s.dangling = false)
    (hforms : ∀ k ∈ s.left, IsToken k.text) (hfuel : s.left.length < fuel)
    (h : readFrom fuel s = .ok ps) :
    s.dangling = false ∧ Spells ps (s.left.flatMap (·.text)) := by
  induction fuel generalizing s ps with
  | zero => exact absurd hfuel (Nat.not_lt_zero _)
  | succ fuel ih =>
    -- what is left behind some characters is spelled by the pieces that are read behind them
    have hrest {cs : List Char} {u : Source} {more : List Piece} (hpasses : Passes s cs u)
        (hcs : cs ≠ []) (hmore : readFrom fuel u = .ok more) :
        s.dangling = false ∧ ∃ ds, s.left.flatMap (·.text) = cs ++ ds ∧ Spells more ds := by
      have hlen := hpasses.length_lt hcs
      obtain ⟨hdangling, hspells⟩ := ih (hpasses.checked hs) (fun k hk => hforms k (hpasses.mem hk))
        (by omega) hmore
      exact ⟨hpasses.dangling ▸ hdangling, _, hpasses.flatMap_eq, hspells⟩
    rw [readFrom] at h
    split at h
    · rename_i hpeek
      cases h
      have hnil : s.left = [] := by simpa [Source.peek?] using hpeek
      exact ⟨hs hnil, by simpa [hnil] using Spells.nil⟩
    · rename_i k hpeek
      obtain ⟨u, hskip, h⟩ := of_bind h
      have hpasses := Source.of_skip hpeek (of_step hskip)
      split at h
      · rename_i c
        obtain ⟨⟨p, v⟩, hescaped, h⟩ := of_bind h
        obtain ⟨more, hmore, h⟩ := of_bind h
        cases h
        obtain ⟨ds, hds, hescapes⟩ := of_escaped hescaped
        obtain ⟨hdangling, cs, hcs, hspells⟩ :=
          hrest (hpasses.trans hds) (List.cons_ne_nil _ _) hmore
        exact ⟨hdangling, hcs ▸ hspells.escape hescapes⟩
      · rename_i hplain
        obtain ⟨t, ht, rfl⟩ := Option.map_eq_some_iff.1 hpeek
        obtain ⟨c, hc, hne⟩ | ⟨c, hc⟩ := hforms t (List.mem_of_head? ht)
        · rw [hc] at h hpasses
          obtain ⟨more, hmore, h⟩ := of_bind h
          cases h
          obtain ⟨hdangling, ds, hds, hspells⟩ := hrest hpasses (List.cons_ne_nil _ _) hmore
          exact ⟨hdangling, hds ▸ hspells.char hne⟩
        · exact absurd hc (hplain c)

end

theorem spells_of_read {source : List Char} {ps : List Piece} (h : read source = .ok ps) :
    Spells ps source := by
  obtain ⟨s, htext, h⟩ := of_bind h
  obtain ⟨rfl, hchecked⟩ := Source.of_check (of_step htext)
  obtain ⟨hchars, hforms, hlen⟩ := tokens_spec 0 source
  obtain ⟨hdangling, hspells⟩ := of_readFrom hchecked hforms (Nat.lt_succ_of_le hlen) h
  dsimp only at hdangling hspells
  rw [← hchars, hdangling]
  simpa using hspells

theorem fill_cons (p : Piece) (ps : List Piece) (m : List Char) :
    fill (p :: ps) m = fill [p] m ++ fill ps m := by
  simp [fill]

theorem exists_fill_eq {ps : List Piece} (h : match_ ∈ ps) (m : List Char) :
    ∃ before after, fill ps m = before ++ m ++ after := by
  obtain ⟨qs, rs, rfl⟩ := List.append_of_mem h
  exact ⟨fill qs m, fill rs m, by simp [fill]⟩

end Piece

structure IsPlain (c : Char) : Prop where
  ne_backslash : c ≠ '\\'
  not_digit : c.isDigit = false
  no_control : controlEscape? c = none

section
variable {ps : List Piece} {p : Piece} {cs ds : List Char} {c : Char}

theorem Escapes.shorter (h : Escapes p ds) (hp : p ≠ .match_) (m : List Char) :
    Piece.fill [p] m = '\\' :: ds ∨ (Piece.fill [p] m).length < ('\\' :: ds).length := by
  cases h with
  | kept hc => exact .inl rfl
  | coded d hc hds =>
    right
    simp [Piece.fill]
  | recalled name => exact absurd rfl hp

theorem IsPlain.not_mem_coded (hc : IsPlain c) {x : Char}
    (hx : x.isDigit = true ∨ (controlEscape? x).isSome = true)
    (hds : ∀ d ∈ ds, d.isDigit = true) : c ∉ '\\' :: x :: ds := by
  intro hmem
  rcases List.mem_cons.1 hmem with rfl | hmem
  · exact hc.ne_backslash rfl
  rcases List.mem_cons.1 hmem with rfl | hmem
  · simp [hc.not_digit, hc.no_control] at hx
  · exact Bool.eq_false_iff.1 hc.not_digit (hds c hmem)

theorem Escapes.count_le (h : Escapes p ds) (hp : p ≠ .match_) (hc : IsPlain c) (m : List Char) :
    ('\\' :: ds).count c ≤ (Piece.fill [p] m).count c := by
  cases h with
  | kept _ => exact Nat.le_refl _
  | coded d hx hds =>
    rw [List.count_eq_zero_of_not_mem (hc.not_mem_coded hx hds)]
    exact Nat.zero_le _
  | recalled name => exact absurd rfl hp

theorem Escapes.getLast?_eq (h : Escapes p ds) (hlast : ('\\' :: ds).getLast? = some c)
    (hc : IsPlain c) (hname : c ≠ '>') (m : List Char) :
    (Piece.fill [p] m).getLast? = some c := by
  cases h with
  | kept _ => exact hlast
  | coded d hx hds => exact absurd (List.mem_of_getLast? hlast) (hc.not_mem_coded hx hds)
  | recalled name =>
    have hend : some '>' = some c := by simpa [List.getLast?_cons] using hlast
    exact absurd (Option.some.inj hend).symm hname

theorem Spells.shorter (h : Spells ps cs) (hps : .match_ ∉ ps) (m : List Char) :
    Piece.fill ps m = cs ∨ (Piece.fill ps m).length < cs.length := by
  induction h with
  | nil => exact .inl rfl
  | char hc t ih =>
    rw [Piece.fill_cons]
    obtain h | h := ih fun hmem => hps (List.mem_cons_of_mem _ hmem)
    · exact .inl (congrArg _ h)
    · exact .inr (Nat.succ_lt_succ h)
  | escape h t ih =>
    obtain ⟨hp, hps⟩ := not_or.1 (mt List.mem_cons.2 hps)
    rw [Piece.fill_cons, List.length_append, List.length_append]
    obtain h | h := h.shorter (Ne.symm hp) m <;> obtain h' | h' := ih hps
    · exact .inl (by rw [h, h'])
    · rw [h]
      omega
    · rw [h']
      omega
    · omega

theorem Spells.count_le (h : Spells ps cs) (hps : .match_ ∉ ps) (hc : IsPlain c) (m : List Char) :
    cs.count c ≤ (Piece.fill ps m).count c := by
  induction h with
  | nil => exact Nat.le_refl _
  | char hx t ih =>
    have hle := ih fun hmem => hps (List.mem_cons_of_mem _ hmem)
    rw [Piece.fill_cons, List.count_append, ← List.singleton_append, List.count_append]
    exact Nat.add_le_add_left hle _
  | escape h t ih =>
    obtain ⟨hp, hps⟩ := not_or.1 (mt List.mem_cons.2 hps)
    rw [Piece.fill_cons, List.count_append, List.count_append]
    exact Nat.add_le_add (h.count_le (Ne.symm hp) hc m) (ih hps)

theorem Spells.of_cons (h : Spells ps (c :: cs)) (hc : c ≠ '\\') :
    ∃ qs, ps = .text [c] :: qs ∧ Spells qs cs := by
  cases h with
  | char _ t => exact ⟨_, rfl, t⟩
  | escape _ _ => exact absurd rfl hc

theorem Spells.eq_nil (h : Spells ps []) : ps = [] := by
  generalize hcs : [] = cs at h
  cases h with
  | nil => rfl
  | char _ _ => cases hcs
  | escape _ _ => cases hcs

theorem Spells.getLast?_eq (h : Spells ps cs) (hlast : cs.getLast? = some c) (hc : IsPlain c)
    (hname : c ≠ '>') (m : List Char) : (Piece.fill ps m).getLast? = some c := by
  -- the last piece is the one that counts
  have hsnoc {p : Piece} {ps : List Piece} (ds : List Char) {cs : List Char} (t : Spells ps cs)
      (ih : cs.getLast? = some c → (Piece.fill ps m).getLast? = some c)
      (hp : ds.getLast? = some c → (Piece.fill [p] m).getLast? = some c)
      (h : (ds ++ cs).getLast? = some c) : (Piece.fill (p :: ps) m).getLast? = some c := by
    rw [Piece.fill_cons, List.getLast?_append]
    rw [List.getLast?_append] at h
    cases cs with
    | nil =>
      rw [t.eq_nil]
      exact hp h
    | cons d cs =>
      rw [List.getLast?_cons] at h ih
      rw [ih h]
      rfl
  induction h with
  | nil => cases hlast
  | @char x _ _ _ t ih => exact hsnoc [x] t ih id hlast
  | escape h t ih => exact hsnoc _ t ih (fun hend => h.getLast?_eq hend hc hname m) hlast

end

end Mend.Pattern
