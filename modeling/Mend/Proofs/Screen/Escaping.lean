import Mend.Proofs.Screen.Tokens
import Mend.Proofs.Text.Width

/-! Escaped text in markup. However it is put between tags, the reader takes none of it for a tag, and
shows all of it but the backslashes that stand directly before a bracket which begins no tag. -/

namespace Mend.Markup

open Text

section
variable {body cs rest inside tail : List Char} {c : Char} {n k : Nat}

def protect (body : List Char) : List Char := (tokens 0 0 body).flatMap Token.escaped

theorem flatMap_slashes (n : Nat) :
    (List.replicate n (Token.plain '\\')).flatMap Token.escaped = slashes n := by
  induction n with
  | zero => rfl
  | succ n ih => rw [List.replicate_succ, List.flatMap_cons, ih]; rfl

theorem protect_plain (hc : c ≠ '\\') (h : tag? (c :: cs) = none) (n : Nat) :
    protect (slashes n ++ c :: cs) = slashes n ++ c :: protect cs := by
  rw [protect, tokens_slashes, tokens_plain hc h, Nat.zero_add, List.flatMap_append,
    flatMap_slashes]
  rfl

theorem protect_tag (h : Inside inside) (n : Nat) (tail : List Char) :
    protect (slashes n ++ '[' :: (inside ++ ']' :: tail)) =
      slashes (2 * n + 1) ++ '[' :: (inside ++ ']' :: protect tail) := by
  rw [protect, tokens_slashes, tokens_tag h, Nat.zero_add, List.flatMap_cons, Token.escaped]
  simp [protect]

theorem bracket?_cons_of_inside (h : isInside c = true) (cs : List Char) :
    bracket? (c :: cs) = bracket? cs := by
  rw [bracket?, List.dropWhile_cons_of_pos h, bracket?]

theorem bracket?_slashes (n : Nat) (cs : List Char) : bracket? (slashes n ++ cs) = bracket? cs := by
  induction n with
  | zero => rfl
  | succ n ih =>
    rw [slashes, List.replicate_succ, List.cons_append, bracket?_cons_of_inside (by decide)]
    exact ih

theorem Body.protect_begins (h : Body body) :
    bracket? (protect body) = bracket? body ∧
      (protect body).head?.any isTagStart = body.head?.any isTagStart := by
  induction h with
  | nil => exact ⟨rfl, rfl⟩
  | plain n hc htag h ih =>
    rename_i c cs
    rw [protect_plain hc htag]
    constructor
    · rw [bracket?_slashes, bracket?_slashes]
      cases hin : isInside c with
      | true => rw [bracket?_cons_of_inside hin, bracket?_cons_of_inside hin, ih.1]
      | false =>
        have hneg : ¬ isInside c = true := by simp [hin]
        rw [bracket?, List.dropWhile_cons_of_neg hneg, bracket?, List.dropWhile_cons_of_neg hneg]
        rfl
    · cases n <;> rfl
  | tag n hinside h ih =>
    rw [protect_tag hinside]
    constructor
    · rw [bracket?_slashes, bracket?_slashes]
      rfl
    · cases n <;> rfl

theorem Body.tag?_protect (h : Body body) (htag : tag? (c :: body) = none) (hrest : Apart rest) :
    tag? (c :: (protect body ++ rest)) = none := by
  refine tag?_append ?_ hrest
  by_cases hc : c = '['
  · subst hc
    rw [tag?_bracket] at htag ⊢
    rw [h.protect_begins.1, h.protect_begins.2, if_neg]
    intro hcond
    rw [if_pos hcond] at htag
    cases htag
  · exact tag?_of_ne hc _

theorem Body.protect_append (h : Body body) (n : Nat) :
    protect (body ++ slashes n) = protect body ++ slashes n := by
  have hapart := apart_of_slashes n
  induction h with
  | nil =>
    have htokens := tokens_slashes n 0 []
    rw [List.append_nil, Nat.zero_add] at htokens
    rw [List.nil_append, protect, htokens]
    exact flatMap_slashes n
  | plain m hc htag h ih =>
    rw [protect_plain hc htag, List.append_assoc, List.append_assoc, List.cons_append,
      protect_plain hc (tag?_append htag hapart), ih]
    rfl
  | tag m hinside h ih =>
    rw [protect_tag hinside, List.append_assoc, List.cons_append, List.append_assoc,
      List.cons_append, protect_tag hinside, ih]
    simp

def Ended (cs : List Char) : Prop := cs.getLast? ≠ some '\\'

theorem ended_nil : Ended [] := by simp [Ended]

theorem ended_append {a b : List Char} (hc : c ≠ '\\') (hb : Ended b) : Ended (a ++ c :: b) := by
  rw [Ended, List.getLast?_append, List.getLast?_cons]
  cases h : b.getLast? with
  | none => simpa using hc
  | some d => simpa [Ended, h] using hb

theorem Body.ended_protect (h : Body body) : Ended (protect body) := by
  induction h with
  | nil => exact ended_nil
  | plain n hc htag h ih =>
    rw [protect_plain hc htag]
    exact ended_append hc ih
  | tag n hinside h ih =>
    rw [protect_tag hinside, ← List.cons_append, ← List.append_assoc]
    exact ended_append (by decide) ih

/-- How many backslashes there are at the end of what `n` of them close. -/
def closing (n : Nat) : Nat := if n = 1 then 2 else n

theorem closed_append {cs : List Char} (h : Ended cs) (n : Nat) :
    closed (cs ++ slashes n) = cs ++ slashes (closing n) := by
  rw [Ended, ← List.head?_reverse] at h
  have hreverse (n : Nat) : (cs ++ slashes n).reverse = slashes n ++ cs.reverse := by
    rw [List.reverse_append, slashes, List.reverse_replicate]
  unfold closed
  rcases n with _ | _ | n
  · rw [hreverse]
    split
    · simp_all [slashes]
    · simp_all [slashes]
    · rfl
  · rw [hreverse]
    cases hcs : cs.reverse with
    | nil => rw [List.reverse_eq_nil_iff.1 hcs]; rfl
    | cons c rest =>
      rw [hcs] at h
      have hc : c ≠ '\\' := by simpa using h
      refine (if_neg hc).trans ?_
      rw [List.append_assoc]
      rfl
  · rw [hreverse]
    refine (if_pos rfl).trans ?_
    rw [closing, if_neg (by omega)]

/-- An escaped text is its escaped body and backslashes, which are never a single one. -/
theorem Body.escape_append (h : Body body) (n : Nat) :
    escape (body ++ slashes n) = protect body ++ slashes (closing n) := by
  rw [← closed_append h.ended_protect, ← h.protect_append]
  rfl

end

/-- Text as the reader takes it over: a backslash directly before a bracket that begins no tag is
lost. -/
def unslash : List Char → List Char
  | [] => []
  | '\\' :: '[' :: cs =>
    if tag? ('[' :: cs) = none then '[' :: unslash cs else '\\' :: '[' :: unslash cs
  | c :: cs => c :: unslash cs

/-- What an escaped text at the end of markup looks like. -/
def printed (cs : List Char) : List Char := closed (unslash cs)

section
variable {a b body cs rest inside tail : List Char} {c : Char} {n k : Nat}

theorem unslash_cons (h : c ≠ '\\' ∨ cs.head? ≠ some '[') :
    unslash (c :: cs) = c :: unslash cs := by
  rw [unslash]
  rintro cs' rfl rfl
  rcases h with h | h <;> exact h rfl

theorem head?_slashes_ne (h : cs.head? ≠ some '[') (n : Nat) :
    (slashes n ++ cs).head? ≠ some '[' := by
  cases n with
  | zero => exact h
  | succ n => simp [slashes, List.replicate_succ]

theorem unslash_slashes (h : cs.head? ≠ some '[') (n : Nat) :
    unslash (slashes n ++ cs) = slashes n ++ unslash cs := by
  induction n with
  | zero => rfl
  | succ n ih => exact (unslash_cons (.inr (head?_slashes_ne h n))).trans (congrArg _ ih)

def kept (n : Nat) (c : Char) : List Char := slashes (if c = '[' then n - 1 else n) ++ [c]

theorem slashes_succ_append (n : Nat) (cs : List Char) :
    slashes (n + 1) ++ cs = slashes n ++ '\\' :: cs := by
  rw [slashes, List.replicate_succ', List.append_assoc]
  rfl

theorem unslash_plain (hc : c ≠ '\\') (h : tag? (c :: cs) = none) (n : Nat) :
    unslash (slashes n ++ c :: cs) = kept n c ++ unslash cs := by
  by_cases hbracket : c = '['
  · subst hbracket
    cases n with
    | zero => exact unslash_cons (.inl hc)
    | succ n =>
      rw [slashes_succ_append, unslash_slashes (by simp), unslash, if_pos h, kept, if_pos rfl,
        Nat.add_sub_cancel, List.append_assoc]
      rfl
  · rw [unslash_slashes (by simpa using hbracket), unslash_cons (.inl hc), kept, if_neg hbracket,
      List.append_assoc]
    rfl

theorem unslash_inside (h : ∀ c ∈ inside, isInside c = true) (tail : List Char) :
    unslash (inside ++ ']' :: tail) = inside ++ ']' :: unslash tail := by
  induction inside with
  | nil => exact unslash_cons (.inl (by decide))
  | cons c inside ih =>
    obtain ⟨-, hinside⟩ := List.forall_mem_cons.1 h
    refine (unslash_cons (.inr ?_)).trans (congrArg _ (ih hinside))
    cases inside with
    | nil => simp
    | cons d inside =>
      intro heq
      obtain rfl : d = '[' := Option.some.inj heq
      exact absurd (hinside '[' List.mem_cons_self) (by decide)

theorem unslash_tag (h : Inside inside) (n : Nat) (tail : List Char) :
    unslash (slashes n ++ '[' :: (inside ++ ']' :: tail)) =
      slashes n ++ '[' :: (inside ++ ']' :: unslash tail) := by
  have hzero : unslash ('[' :: (inside ++ ']' :: tail)) = '[' :: (inside ++ ']' :: unslash tail) :=
    (unslash_cons (.inl (by decide))).trans (congrArg _ (unslash_inside h.all tail))
  cases n with
  | zero => exact hzero
  | succ n =>
    rw [slashes_succ_append, slashes_succ_append, unslash_slashes (by simp), unslash,
      if_neg (by simp [tag?_inside h]), unslash_inside h.all]

theorem Body.unslash_append (h : Body body) (n : Nat) :
    unslash (body ++ slashes n) = unslash body ++ slashes n := by
  have hapart := apart_of_slashes n
  induction h with
  | nil =>
    have hslashes := @unslash_slashes [] (by simp) n
    rw [List.append_nil] at hslashes
    exact hslashes.trans (List.append_nil _)
  | plain m hc htag h ih =>
    rw [unslash_plain hc htag, List.append_assoc, List.append_assoc, List.cons_append,
      unslash_plain hc (tag?_append htag hapart), ih]
  | tag m hinside h ih =>
    rw [unslash_tag hinside, List.append_assoc, List.cons_append, List.append_assoc,
      List.cons_append, unslash_tag hinside, ih]
    simp

theorem Body.ended_unslash (h : Body body) : Ended (unslash body) := by
  induction h with
  | nil => exact ended_nil
  | plain n hc htag h ih =>
    rw [unslash_plain hc htag, kept, List.append_assoc]
    exact ended_append hc ih
  | tag n hinside h ih =>
    rw [unslash_tag hinside, ← List.cons_append, ← List.append_assoc]
    exact ended_append (by decide) ih

theorem Body.printed_append (h : Body body) (n : Nat) :
    printed (body ++ slashes n) = unslash body ++ slashes (closing n) := by
  rw [printed, h.unslash_append, closed_append h.ended_unslash]

end

def State.push (s : State) (p : List Char) : State :=
  { s with pending := p.reverse ++ s.pending, place := s.place + p.length }

structure Shows (s t : State) (cs : List Char) : Prop where
  text : t.flush.text = s.flush.text ++ cs
  tags : t.tags = s.tags
  marks : t.marks = s.marks
  ended : Ended t.pending.reverse

section
variable {a b body cs rest inside tail : List Char} {c : Char} {n k : Nat} {s t u : State}
  {ts : List Token}

theorem Shows.trans (h : Shows s t a) (h' : Shows t u b) : Shows s u (a ++ b) where
  text := by rw [h'.text, h.text, List.append_assoc]
  tags := h'.tags.trans h.tags
  marks := h'.marks.trans h.marks
  ended := h'.ended

theorem foldlM_push (p : List Char) (s : State) (ts : List Token) :
    (p.map Token.plain ++ ts).foldlM State.next s = ts.foldlM State.next (s.push p) := by
  induction p generalizing s with
  | nil => rfl
  | cons c p ih =>
    have hpush : { s with pending := c :: s.pending, place := s.place + 1 }.push p =
        s.push (c :: p) := by
      simp [State.push]
      omega
    rw [← hpush, ← ih]
    rfl

theorem Ended.of_cons (h : Ended (c :: cs)) : Ended cs := by
  cases cs with
  | nil => exact ended_nil
  | cons d cs => exact h

theorem literal_cons (h : c ≠ '\\' ∨ cs.head? ≠ some '[') :
    literal (c :: cs) = if isControl c then literal cs else c :: literal cs := by
  rw [literal]
  rintro cs' rfl rfl
  rcases h with h | h <;> exact h rfl

theorem literal_append (ha : Ended a) (b : List Char) :
    literal (a ++ b) = literal a ++ literal b := by
  have hcons {c : Char} {a : List Char} (ha : Ended (c :: a))
      (hopen : ∀ rest, c = '\\' → a = '[' :: rest → False) :
      (c ≠ '\\' ∨ a.head? ≠ some '[') ∧ (c ≠ '\\' ∨ (a ++ b).head? ≠ some '[') := by
    by_cases hc : c = '\\'
    · subst hc
      cases a with
      | nil => exact absurd rfl ha
      | cons d a =>
        have hd : some d ≠ some '[' := fun h => hopen a rfl (by rw [Option.some.inj h])
        exact ⟨.inr hd, .inr hd⟩
    · exact ⟨.inl hc, .inl hc⟩
  induction a using literal.induct with
  | case1 cs ih =>
    rw [List.cons_append, List.cons_append, literal, literal, ih ha.of_cons.of_cons]
    rfl
  | case2 c a hopen hc ih =>
    obtain ⟨hfirst, hboth⟩ := hcons ha hopen
    rw [List.cons_append, literal_cons hboth, literal_cons hfirst, if_pos hc, if_pos hc,
      ih ha.of_cons]
  | case3 c a hopen hc ih =>
    obtain ⟨hfirst, hboth⟩ := hcons ha hopen
    rw [List.cons_append, literal_cons hboth, literal_cons hfirst, if_neg hc, if_neg hc,
      ih ha.of_cons]
    rfl
  | case4 => rfl

theorem isControl_of_legible (h : Legible cs) (hc : c ∈ cs) : isControl c = false := by
  have hcontrols : (['\x07', '\x08', '\x0b', '\x0c', '\r'].all fun d =>
      d != '\n' && !isPrintable d) = true := by decide
  rw [Bool.eq_false_iff]
  intro hcontrol
  have hunseen := List.all_eq_true.1 hcontrols c (by simpa [isControl, or_assoc] using hcontrol)
  simp only [Bool.and_eq_true, bne_iff_ne, Bool.not_eq_true'] at hunseen
  exact h.not_mem hunseen.1 hunseen.2 hc

theorem literal_slashes (h : cs.head? ≠ some '[') (n : Nat) :
    literal (slashes n ++ cs) = slashes n ++ literal cs := by
  induction n with
  | zero => rfl
  | succ n ih =>
    exact (literal_cons (.inr (head?_slashes_ne h n))).trans (congrArg (List.cons '\\') ih)

theorem literal_kept (hc : c ≠ '\\') (hcontrol : isControl c = false) (n : Nat) :
    literal (slashes n ++ [c]) = kept n c := by
  have hsingle : literal [c] = [c] := by
    rw [literal_cons (.inl hc), hcontrol]
    rfl
  by_cases hbracket : c = '['
  · subst hbracket
    cases n with
    | zero => exact hsingle
    | succ n =>
      rw [slashes_succ_append, literal_slashes (by simp), kept, if_pos rfl, Nat.add_sub_cancel]
      rfl
  · rw [literal_slashes (by simpa using hbracket), hsingle, kept, if_neg hbracket]

theorem text_push (hs : Ended s.pending.reverse) (p : List Char) :
    (s.push p).flush.text = s.flush.text ++ literal p := by
  have hpending : (s.push p).pending.reverse = s.pending.reverse ++ p := by simp [State.push]
  simp only [State.flush, hpending, literal_append hs, List.append_assoc]
  rfl

theorem shows_push (hs : Ended s.pending.reverse) {p : List Char} (hp : Ended p) :
    Shows s (s.push p) (literal p) := by
  refine ⟨text_push hs p, rfl, rfl, ?_⟩
  have hpending : (s.push p).pending.reverse = s.pending.reverse ++ p := by simp [State.push]
  rw [hpending, Ended, List.getLast?_append]
  cases h : p.getLast? with
  | none => exact hs
  | some c =>
    rw [Ended, h] at hp
    exact hp

theorem next_escaped (hinside : ∀ c ∈ inside, isControl c = false) (s : State) (n : Nat) :
    ∃ t, s.next (.tag (2 * n + 1) inside) = .ok t ∧
      Shows s t (slashes n ++ '[' :: (inside ++ [']'])) := by
  have hodd : (2 * n + 1) % 2 = 1 := by omega
  have hhalf : (2 * n + 1) / 2 = n := by omega
  have hshown : ('[' :: inside ++ [']']).filter (!isControl ·) = '[' :: (inside ++ [']']) := by
    refine List.filter_eq_self.2 fun c hc => ?_
    rcases List.mem_cons.1 hc with rfl | hc
    · rfl
    · rcases List.mem_append.1 hc with hc | hc
      · rw [hinside c hc]
        rfl
      · rw [List.mem_singleton.1 hc]
        rfl
  rw [State.next]
  simp only [if_pos hodd, hhalf, hshown]
  refine ⟨_, rfl, ?_, rfl, rfl, ended_nil⟩
  simp [State.flush, literal]

theorem Body.foldlM_protect (h : Body body) (hlegible : Legible body) (hrest : Apart rest)
    (hs : Ended s.pending.reverse) : ∃ t, Shows s t (unslash body) ∧
      (tokens 0 0 (protect body ++ rest)).foldlM State.next s =
        (tokens 0 0 rest).foldlM State.next t := by
  induction h generalizing s with
  | nil => exact ⟨s, ⟨(List.append_nil _).symm, rfl, rfl, hs⟩, rfl⟩
  | plain n hc htag h ih =>
    rename_i c cs
    obtain ⟨hslashes, hbody⟩ := legible_append.1 hlegible
    have hpush := shows_push hs (ended_append (b := []) (a := slashes n) hc ended_nil)
    obtain ⟨t, hshows, hfold⟩ := ih (legible_cons.1 hbody).2 hpush.ended
    refine ⟨t, ?_, ?_⟩
    · rw [unslash_plain hc htag, ← literal_kept hc (isControl_of_legible hbody List.mem_cons_self)]
      exact hpush.trans hshows
    · rw [protect_plain hc htag, List.append_assoc, List.cons_append, tokens_slashes,
        tokens_plain hc (h.tag?_protect htag hrest), Nat.zero_add, ← hfold, ← foldlM_push]
      simp [slashes]
  | tag n hinside h ih =>
    rename_i inside tail
    obtain ⟨-, htag⟩ := legible_append.1 hlegible
    obtain ⟨hlegibleIn, hclose⟩ := legible_append.1 (legible_cons.1 htag).2
    obtain ⟨u, hnext, hu⟩ := next_escaped (fun c hc => isControl_of_legible hlegibleIn hc) s n
    obtain ⟨t, hshows, hfold⟩ := ih (legible_cons.1 hclose).2 hu.ended
    refine ⟨t, ?_, ?_⟩
    · rw [unslash_tag hinside]
      simpa using hu.trans hshows
    · rw [protect_tag hinside, List.append_assoc, List.cons_append, List.append_assoc,
        List.cons_append, tokens_slashes, tokens_tag hinside, Nat.zero_add, List.foldlM_cons, hnext,
        ← hfold]
      rfl

theorem foldlM_escape (hlegible : Legible cs) (hs : Ended s.pending.reverse) :
    ∃ t, (tokens 0 0 (escape cs)).foldlM State.next s = .ok t ∧
      t.flush.text = s.flush.text ++ printed cs ∧ t.tags = s.tags ∧ t.marks = s.marks := by
  obtain ⟨body, n, rfl, h⟩ := exists_body cs
  obtain ⟨t, hshows, hfold⟩ := h.foldlM_protect (legible_append.1 hlegible).1
    (apart_of_slashes (closing n)) hs
  have hliteral := @literal_slashes [] (by simp) (closing n)
  have htokens := tokens_slashes (closing n) 0 []
  have hpush := foldlM_push (slashes (closing n)) t []
  rw [List.append_nil] at hliteral htokens hpush
  rw [Nat.zero_add] at htokens
  refine ⟨t.push (slashes (closing n)), ?_, ?_, hshows.tags, hshows.marks⟩
  · rw [h.escape_append, hfold, htokens, tokens, ← List.map_replicate]
    exact hpush
  · rw [h.printed_append, text_push hshows.ended, hshows.text, hliteral, List.append_assoc]
    exact congrArg _ (congrArg _ (List.append_nil _))

end

section
variable {cs : List Char} {c : Char}

theorem unslash_sublist (cs : List Char) : (unslash cs).Sublist cs := by
  fun_induction unslash cs with
  | case1 => exact .slnil
  | case2 cs htag ih => exact (ih.cons_cons '[').cons '\\'
  | case3 cs htag ih => exact (ih.cons_cons '[').cons_cons '\\'
  | case4 c cs _ ih => exact ih.cons_cons c

theorem literal_sublist (cs : List Char) : (literal cs).Sublist cs := by
  fun_induction literal cs with
  | case1 cs ih => exact (ih.cons_cons '[').cons '\\'
  | case2 c cs _ hc ih => exact ih.cons c
  | case3 c cs _ hc ih => exact ih.cons_cons c
  | case4 => exact .slnil

theorem sublist_closed (cs : List Char) : cs.Sublist (closed cs) := by
  unfold closed
  split
  · exact List.sublist_append_left ..
  · split
    · exact .refl _
    · exact List.sublist_append_left ..
  · exact .refl _

theorem legible_slashes (n : Nat) : Legible (slashes n) := by
  intro c hc
  rw [List.eq_of_mem_replicate hc]
  exact .inr (by decide)

theorem legible_closed (h : Legible cs) : Legible (closed cs) := by
  have happend : Legible (cs ++ ['\\']) := legible_append.2 ⟨h, legible_slashes 1⟩
  unfold closed
  split
  · exact happend
  · split
    · exact h
    · exact happend
  · exact h

theorem legible_printed (h : Legible cs) : Legible (printed cs) :=
  legible_closed (h.of_subset (unslash_sublist cs).subset)

def Slashed (cs : List Char) : Prop :=
  ∃ before after, cs = before ++ '\\' :: '[' :: after ∧ tag? ('[' :: after) = none

theorem slashed_cons : Slashed (c :: cs) ↔
    (c = '\\' ∧ (∃ after, cs = '[' :: after ∧ tag? cs = none)) ∨ Slashed cs := by
  constructor
  · rintro ⟨before, after, heq, htag⟩
    cases before with
    | nil =>
      obtain ⟨rfl, rfl⟩ := List.cons.inj heq
      exact .inl ⟨rfl, after, rfl, htag⟩
    | cons d before => exact .inr ⟨before, after, (List.cons.inj heq).2, htag⟩
  · rintro (⟨rfl, after, rfl, htag⟩ | ⟨before, after, rfl, htag⟩)
    · exact ⟨[], after, rfl, htag⟩
    · exact ⟨c :: before, after, rfl, htag⟩

theorem unslash_eq_self (h : ¬ Slashed cs) : unslash cs = cs := by
  fun_induction unslash cs with
  | case1 => rfl
  | case2 cs htag ih => exact absurd (slashed_cons.2 (.inl ⟨rfl, cs, rfl, htag⟩)) h
  | case3 cs htag ih =>
    rw [slashed_cons, slashed_cons] at h
    rw [ih fun hcs => h (.inr (.inr hcs))]
  | case4 c cs _ ih =>
    rw [slashed_cons] at h
    rw [ih fun hcs => h (.inr hcs)]

/-- How many pairs there are of a backslash and a bracket somewhere behind it. -/
def pairs : List Char → Nat
  | [] => 0
  | c :: cs => (if c = '\\' then cs.count '[' else 0) + pairs cs

theorem pairs_le {a b : List Char} (h : a.Sublist b) : pairs a ≤ pairs b := by
  induction h with
  | slnil => exact Nat.le_refl _
  | cons c h ih => exact Nat.le_trans ih (Nat.le_add_left ..)
  | cons_cons c h ih =>
    have hcount := h.count_le '['
    rw [pairs, pairs]
    split <;> omega

theorem pairs_ink (cs : List Char) : pairs (ink cs) = pairs cs := by
  induction cs with
  | nil => rfl
  | cons c cs ih =>
    have hcount : (ink cs).count '[' = cs.count '[' := List.count_filter (by decide)
    cases hblank : isBlank c with
    | true =>
      have hc : c ≠ '\\' := by
        rintro rfl
        exact absurd hblank (by decide)
      rw [ink, List.filter_cons_of_neg (by simp [hblank]), pairs, if_neg hc, Nat.zero_add]
      exact ih
    | false =>
      rw [ink, List.filter_cons_of_pos (by simp [hblank]), pairs, pairs, ← ink, ih, hcount]

theorem pairs_append_slash (cs : List Char) : pairs (cs ++ ['\\']) = pairs cs := by
  induction cs with
  | nil => rfl
  | cons c cs ih =>
    rw [List.cons_append, pairs, pairs, ih, List.count_append]
    rfl

theorem pairs_closed (cs : List Char) : pairs (closed cs) = pairs cs := by
  unfold closed
  split
  · exact pairs_append_slash cs
  · split
    · rfl
    · exact pairs_append_slash cs
  · rfl

theorem pairs_unslash_lt (h : Slashed cs) : pairs (unslash cs) < pairs cs := by
  fun_induction unslash cs with
  | case1 =>
    obtain ⟨before, after, heq, -⟩ := h
    cases before <;> cases heq
  | case2 cs htag ih =>
    have hle := pairs_le (unslash_sublist cs)
    simp only [pairs, List.count_cons_self]
    simp
    omega
  | case3 cs htag ih =>
    rw [slashed_cons, slashed_cons] at h
    have hcs : Slashed cs := by
      rcases h with ⟨-, after, -, hnone⟩ | ⟨hc, -⟩ | h
      · exact absurd hnone htag
      · exact absurd hc (by decide)
      · exact h
    have hlt := ih hcs
    have hcount := (unslash_sublist cs).count_le '['
    simp only [pairs, List.count_cons_self]
    simp
    omega
  | case4 c cs hopen ih =>
    have hcs : Slashed cs := by
      rcases slashed_cons.1 h with ⟨rfl, after, rfl, -⟩ | h
      · exact absurd rfl (hopen after rfl)
      · exact h
    have hlt := ih hcs
    have hcount := (unslash_sublist cs).count_le '['
    rw [pairs, pairs]
    split <;> omega

/-- All of a text is shown, blanks apart, unless it has such a backslash. -/
theorem ink_sublist_printed_iff (cs : List Char) :
    (ink cs).Sublist (ink (printed cs)) ↔ ¬ Slashed cs := by
  constructor
  · -- a backslash that is lost leaves fewer pairs, and one doubled at the end makes no new ones
    intro h hslashed
    have hlt := pairs_unslash_lt hslashed
    have hle := pairs_le h
    rw [pairs_ink, pairs_ink, printed, pairs_closed] at hle
    exact Nat.not_lt.2 hle hlt
  · intro h
    have hsub := sublist_closed (unslash cs)
    rw [unslash_eq_self h] at hsub
    rw [printed, unslash_eq_self h]
    exact hsub.filter _

end

end Mend.Markup
