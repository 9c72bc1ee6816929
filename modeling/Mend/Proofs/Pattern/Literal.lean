import Mend.Proofs.Pattern.Replacement

namespace Mend.Pattern

def IsLiteral (cs : List Char) : Prop :=
  ∀ a b, cs = a ++ '\\' :: b → ∃ c rest, b = c :: rest ∧ c.isAlphanum = false ∧ c ≠ '\\'

inductive IsLiteralToken : List Char → Prop
  | char {c : Char} (hc : c ≠ '\\') : IsLiteralToken [c]
  | escape {c : Char} (hc : c.isAlphanum = false) (hne : c ≠ '\\') : IsLiteralToken ['\\', c]

section
variable {c : Char} {cs ds m m' : List Char} {s t : Source} {p : Piece} {ps : List Piece}

theorem isLiteral_nil : IsLiteral [] := by
  intro a b h
  cases a <;> cases h

theorem isLiteral_cons_iff : IsLiteral (c :: cs) ↔
    (c = '\\' → ∃ d rest, cs = d :: rest ∧ d.isAlphanum = false ∧ d ≠ '\\') ∧ IsLiteral cs := by
  constructor
  · intro h
    refine ⟨?_, fun a b hcs => h (c :: a) b (by rw [hcs]; rfl)⟩
    rintro rfl
    exact h [] cs rfl
  · rintro ⟨hc, h⟩ a b hcs
    cases a with
    | nil =>
      obtain ⟨rfl, rfl⟩ := List.cons.inj hcs
      exact hc rfl
    | cons d a => exact h a b (List.cons.inj hcs).2

theorem IsLiteral.forms (h : IsLiteral cs) (n : Nat) : (tokens n cs).2 = false ∧
    ∀ k ∈ (tokens n cs).1, IsLiteralToken k.text := by
  fun_induction tokens n cs with
  | case1 => exact ⟨rfl, fun _ h => absurd h List.not_mem_nil⟩
  | case2 =>
    obtain ⟨_, _, hnil, -⟩ := (isLiteral_cons_iff.1 h).1 rfl
    cases hnil
  | case3 n c cs ts d hts ih =>
    obtain ⟨hbehind, hrest⟩ := isLiteral_cons_iff.1 h
    obtain ⟨_, _, heq, hc, hne⟩ := hbehind rfl
    cases heq
    rw [hts] at ih
    obtain ⟨hdangling, hforms⟩ := ih (isLiteral_cons_iff.1 hrest).2
    exact ⟨hdangling, List.forall_mem_cons.2 ⟨.escape hc hne, hforms⟩⟩
  | case4 n c cs hlone hescape ts d hts ih =>
    obtain ⟨hbehind, hrest⟩ := isLiteral_cons_iff.1 h
    rw [hts] at ih
    obtain ⟨hdangling, hforms⟩ := ih hrest
    refine ⟨hdangling, List.forall_mem_cons.2 ⟨.char ?_, hforms⟩⟩
    rintro rfl
    obtain ⟨d, rest, rfl, -⟩ := hbehind rfl
    exact hescape d rest rfl rfl

theorem controlEscape?_eq_none (hc : c.isAlphanum = false) (hne : c ≠ '\\') :
    controlEscape? c = none := by
  unfold controlEscape?
  split <;> first | rfl | exact absurd rfl hne | cases hc

namespace Piece

theorem step_ok {α : Type} (a : α) : step (.ok a) = .ok a := by
  unfold step
  rfl

theorem escaped_eq (hc : c.isAlphanum = false) (hne : c ≠ '\\') (start : Nat) (s : Source) :
    escaped c start s = .ok (.text ['\\', c], s) := by
  have hg : c ≠ 'g' := by
    rintro rfl
    cases hc
  have hzero : c ≠ '0' := by
    rintro rfl
    cases hc
  obtain ⟨halpha, hdigit⟩ := Bool.or_eq_false_iff.1 hc
  unfold escaped
  simp only [hg, hzero, hdigit, halpha, controlEscape?_eq_none hc hne, if_false]
  rfl

theorem exists_readFrom {fuel : Nat} (hdangling : s.dangling = false)
    (hforms : ∀ k ∈ s.left, IsLiteralToken k.text) (hfuel : s.left.length < fuel) :
    ∃ ps, readFrom fuel s = .ok ps ∧ ∀ m, fill ps m = s.left.flatMap (·.text) := by
  induction fuel generalizing s with
  | zero => exact absurd hfuel (Nat.not_lt_zero _)
  | succ fuel ih =>
    obtain ⟨left, length, dangling⟩ := s
    cases left with
    | nil => exact ⟨[], rfl, fun _ => rfl⟩
    | cons k ks =>
      obtain ⟨text, position⟩ := k
      obtain rfl : dangling = false := hdangling
      obtain ⟨hk, hks⟩ := List.forall_mem_cons.1 hforms
      have hlt : ks.length < fuel := Nat.lt_of_succ_lt_succ hfuel
      obtain ⟨ps, hps, hfill⟩ := ih (s := ⟨ks, length, false⟩) rfl hks hlt
      have hskip : Source.skip ⟨⟨text, position⟩ :: ks, length, false⟩ =
          .ok ⟨ks, length, false⟩ := by
        simp [Source.skip, Source.check]
      refine ⟨.text text :: ps, ?_, fun m => ?_⟩
      · cases hk with
        | char hc =>
          simp only [readFrom, Source.peek?, List.head?_cons, Option.map_some, hskip, step_ok, bind,
            Except.bind, hps]
          rfl
        | escape hc hne =>
          simp only [readFrom, Source.peek?, List.head?_cons, Option.map_some, hskip, step_ok, bind,
            Except.bind, escaped_eq hc hne, hps]
          rfl
      · rw [fill_cons, hfill, List.flatMap_cons]
        simp [fill]

/-- A literal replacement is read, and comes out as it is written whatever was matched. -/
theorem exists_read (h : IsLiteral cs) :
    ∃ ps, read cs = .ok ps ∧ ∀ m, fill ps m = cs := by
  obtain ⟨hchars, -, hlen⟩ := tokens_spec 0 cs
  obtain ⟨hdangling, hforms⟩ := h.forms 0
  obtain ⟨ps, hps, hfill⟩ := exists_readFrom (s := ⟨(tokens 0 cs).1, cs.length, (tokens 0 cs).2⟩)
    hdangling hforms (Nat.lt_succ_of_le hlen)
  have htext : Source.ofText cs = .ok ⟨(tokens 0 cs).1, cs.length, (tokens 0 cs).2⟩ := by
    simp [Source.ofText, Source.check, hdangling]
  refine ⟨ps, ?_, fun m => ?_⟩
  · simp only [read, htext, step_ok, bind, Except.bind]
    exact hps
  · rw [hdangling] at hchars
    rw [hfill]
    simpa using hchars

theorem ne_of_escaped {start : Nat} (h : escaped c start s = .ok (p, t)) :
    p ≠ .text ['\\', '\\'] := by
  rintro rfl
  by_cases hc : c = '\\'
  · subst hc
    cases h
  · obtain ⟨ds, -, hescapes⟩ := of_escaped h
    cases hescapes with
    | kept _ => exact hc rfl

theorem not_mem_of_readFrom {fuel : Nat} (h : readFrom fuel s = .ok ps) :
    .text ['\\', '\\'] ∉ ps := by
  induction fuel generalizing s ps with
  | zero =>
    cases h
    exact List.not_mem_nil
  | succ fuel ih =>
    rw [readFrom] at h
    split at h
    · cases h
      exact List.not_mem_nil
    · rename_i k hpeek
      obtain ⟨u, -, h⟩ := of_bind h
      split at h
      · obtain ⟨⟨p, v⟩, hescaped, h⟩ := of_bind h
        obtain ⟨more, hmore, h⟩ := of_bind h
        cases h
        rw [List.mem_cons, not_or]
        exact ⟨Ne.symm (ne_of_escaped hescaped), ih hmore⟩
      · rename_i hplain
        obtain ⟨more, hmore, h⟩ := of_bind h
        cases h
        rw [List.mem_cons, not_or]
        refine ⟨fun hk => ?_, ih hmore⟩
        exact hplain _ (Piece.text.inj hk).symm

theorem not_mem_of_read (h : read cs = .ok ps) : .text ['\\', '\\'] ∉ ps := by
  obtain ⟨_, -, h⟩ := of_bind h
  exact not_mem_of_readFrom h

theorem eq_of_fill_eq (h : .match_ ∈ ps) (hlen : m.length = m'.length)
    (hfill : fill ps m = fill ps m') : m = m' := by
  induction ps with
  | nil => cases h
  | cons p ps ih =>
    rw [fill_cons, fill_cons p ps m'] at hfill
    cases p with
    | text cs =>
      obtain h | h := List.mem_cons.1 h
      · cases h
      · have htail : cs ++ fill ps m = cs ++ fill ps m' := by simpa [fill] using hfill
        exact ih h (List.append_cancel_left htail)
    | match_ => exact (List.append_inj (by simpa [fill] using hfill) hlen).1

end Piece

theorem Spells.isLiteral (h : Spells ps cs) (hmatch : .match_ ∉ ps)
    (hdoubled : .text ['\\', '\\'] ∉ ps) (hfill : Piece.fill ps m = cs) : IsLiteral cs := by
  induction h with
  | nil => exact isLiteral_nil
  | @char c ps cs hc t ih =>
    rw [List.mem_cons, not_or] at hmatch hdoubled
    rw [Piece.fill_cons] at hfill
    refine isLiteral_cons_iff.2 ⟨fun h => absurd h hc, ih hmatch.2 hdoubled.2 ?_⟩
    exact (List.cons.inj hfill).2
  | @escape p ps ds cs h t ih =>
    rw [List.mem_cons, not_or] at hmatch hdoubled
    rw [Piece.fill_cons] at hfill
    -- a shorter piece could not be made up for
    have hsame : Piece.fill [p] m = '\\' :: ds := by
      apply (h.shorter (Ne.symm hmatch.1) m).resolve_right
      intro hshorter
      have hlen := congrArg List.length hfill
      rw [List.length_append, List.length_append] at hlen
      have hrest : (Piece.fill ps m).length ≤ cs.length := by
        obtain hrest | hrest := t.shorter hmatch.2 m
        · exact Nat.le_of_eq (congrArg List.length hrest)
        · exact Nat.le_of_lt hrest
      omega
    have hliteral : IsLiteral cs := by
      rw [hsame] at hfill
      exact ih hmatch.2 hdoubled.2 (List.append_cancel_left hfill)
    cases h with
    | @kept c hc =>
      have hne : c ≠ '\\' := by
        rintro rfl
        exact hdoubled.1 rfl
      exact isLiteral_cons_iff.2 ⟨fun _ => ⟨c, cs, rfl, hc, hne⟩,
        isLiteral_cons_iff.2 ⟨fun h => absurd h hne, hliteral⟩⟩
    | coded d hc hds => cases hsame
    | recalled name => exact absurd rfl hmatch.1

theorem Piece.isLiteral_of_fill_eq (hread : read cs = .ok ps) (hlen : m.length = m'.length)
    (hne : m ≠ m') (h : fill ps m = cs) (h' : fill ps m' = cs) : IsLiteral cs := by
  have hmatch : .match_ ∉ ps := fun hmem => hne (eq_of_fill_eq hmem hlen (h.trans h'.symm))
  exact (spells_of_read hread).isLiteral hmatch (not_mem_of_read hread) h

end

end Mend.Pattern
