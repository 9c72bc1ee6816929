import Mend.Proofs.Screen.Escaping

namespace Mend.Markup

open Text

def styleNames : List String := ["dim", "green", "bold", "cyan", "red", "yellow"]

structure Tame (s : State) : Prop where
  tags : ∀ t ∈ s.tags, t.name ∈ styleNames ∧ t.value = none
  marks : ∀ m ∈ s.marks, m.style ∈ styleNames
  text : Legible s.flush.text
  ended : Ended s.pending.reverse

structure Fixed (p : List Char) : Prop where
  legible : Legible p
  plain : ∀ c ∈ p, c ≠ '[' ∧ c ≠ ']' ∧ c ≠ '\\'

theorem fixed_iff (p : List Char) :
    Legible p ∧ p.all (fun c => c != '[' && c != ']' && c != '\\') = true ↔ Fixed p := by
  simp only [List.all_eq_true, Bool.and_eq_true, bne_iff_ne, and_assoc]
  exact ⟨fun h => ⟨h.1, h.2⟩, fun h => ⟨h.legible, h.plain⟩⟩

instance (p : List Char) : Decidable (Fixed p) := decidable_of_iff _ (fixed_iff p)

section
variable {name : String} {p cs rest : List Char} {s t : State} {k : Nat}

theorem eq_ok_of_toOption {α ε : Type} {x : Except ε α} {a : α} (h : x.toOption = some a) :
    x = .ok a := by
  cases x with
  | ok b => exact congrArg _ (Option.some.inj h)
  | error e => cases h

theorem normal_of_mem (h : name ∈ styleNames) : normal name.toList = .ok name := by
  have hall : ∀ name ∈ styleNames, (normal name.toList).toOption = some name := by decide +kernel
  exact eq_ok_of_toOption (hall name h)

theorem exists_named (h : name ∈ styleNames) : ∃ style, Style.named name = .ok style ∧
    style.link = none := by
  have hall : ∀ name ∈ styleNames, ((Style.named name).toOption.map (·.link)) = some none := by
    decide +kernel
  obtain ⟨style, hstyle, hlink⟩ := Option.map_eq_some_iff.1 (hall name h)
  exact ⟨style, eq_ok_of_toOption hstyle, hlink⟩

theorem spelling (h : name ∈ styleNames) :
    partsOf name.toList = (name.toList, none) ∧
      partsOf ('/' :: name.toList) = ('/' :: name.toList, none) ∧
      trim name.toList = name.toList ∧ name.toList.head?.any isTagStart = true ∧
      name.toList.head? ≠ some '/' ∧ (∀ c ∈ name.toList, isInside c = true) ∧
      (∀ c ∈ name.toList, isPrintable c = true) ∧ name.startsWith "@" = false := by
  have hall : ∀ name ∈ styleNames,
      partsOf name.toList = (name.toList, none) ∧
        partsOf ('/' :: name.toList) = ('/' :: name.toList, none) ∧
        trim name.toList = name.toList ∧ name.toList.head?.any isTagStart = true ∧
        name.toList.head? ≠ some '/' ∧ name.toList.all isInside = true ∧
        name.toList.all isPrintable = true ∧ name.startsWith "@" = false := by
    decide +kernel
  simpa only [List.all_eq_true] using hall name h

theorem turn_open (h : name ∈ styleNames) (s : State) (place : Nat) :
    s.turn name.toList place =
      .ok { s with tags := ⟨name, none, s.text.length⟩ :: s.tags } := by
  obtain ⟨hparts, -, -, -, hslash, -⟩ := spelling h
  unfold State.turn
  rw [hparts]
  split
  · rename_i name' value heq
    rw [(Prod.mk.inj heq).1] at hslash
    exact absurd rfl hslash
  · rename_i name' value hne heq
    obtain ⟨rfl, rfl⟩ := Prod.mk.inj heq
    rw [normal_of_mem h]
    rfl

theorem turn_close (h : name ∈ styleNames) {tag : Tag}
    (hfind : s.tags.find? (·.name == name) = some tag) (place : Nat) :
    s.turn ('/' :: name.toList) place = .ok (s.close tag) := by
  obtain ⟨-, hparts, htrim, hbegins, -⟩ := spelling h
  have hempty : name.toList.isEmpty = false := by
    cases hname : name.toList with
    | nil =>
      rw [hname] at hbegins
      cases hbegins
    | cons c cs => rfl
  unfold State.turn
  rw [hparts]
  split
  · rename_i name' _ heq
    obtain rfl : name.toList = name' := (List.cons.inj (Prod.mk.inj heq).1).2
    rw [htrim, if_neg (by simp [hempty]), normal_of_mem h]
    simp only [Bind.bind, Except.bind, hfind]
    rfl
  · rename_i hne heq
    exact absurd (Prod.mk.inj heq).1.symm (hne _)

theorem Tame.next_open (hs : Tame s) (h : name ∈ styleNames) :
    ∃ t, s.next (.tag 0 name.toList) = .ok t ∧ Tame t ∧
      ∃ tag ∈ t.tags, tag.name = name := by
  rw [State.next]
  simp only [if_neg (show ¬ 0 % 2 = 1 by decide), turn_open h]
  refine ⟨_, rfl, ⟨?_, hs.marks, ?_, ended_nil⟩, _, List.mem_cons_self, rfl⟩
  · exact List.forall_mem_cons.2 ⟨⟨h, rfl⟩, hs.tags⟩
  · simpa [State.flush, literal, slashes] using hs.text

theorem Tame.style_mark (hs : Tame s) {tag : Tag} (htag : tag ∈ s.tags) (stop : Nat) :
    (tag.mark stop).style ∈ styleNames := by
  obtain ⟨hname, hvalue⟩ := hs.tags tag htag
  obtain ⟨-, -, -, -, -, -, -, hevent⟩ := spelling hname
  rw [Tag.mark, Tag.isEvent, hevent, Tag.style, hvalue]
  exact hname

theorem Tame.next_close (hs : Tame s) (h : name ∈ styleNames)
    (hopen : ∃ tag ∈ s.tags, tag.name = name) (k : Nat) :
    ∃ t, s.next (.tag k ('/' :: name.toList)) = .ok t ∧ Tame t := by
  have hslashed : Legible (s.flush.text ++ slashes (k / 2)) :=
    legible_append.2 ⟨hs.text, legible_slashes _⟩
  rw [State.next]
  by_cases hodd : k % 2 = 1
  · simp only [if_pos hodd]
    have hname : Legible ('[' :: ('/' :: name.toList) ++ [']']) := by
      obtain ⟨-, -, -, -, -, -, hprint, -⟩ := spelling h
      refine legible_append.2 ⟨legible_cons.2 ⟨by decide, legible_cons.2 ⟨by decide, ?_⟩⟩, ?_⟩
      · exact fun c hc => .inr (hprint c hc)
      · exact legible_cons.2 ⟨by decide, legible_nil⟩
    refine ⟨_, rfl, hs.tags, hs.marks, ?_, ended_nil⟩
    have hshown := hname.of_subset (List.filter_sublist (p := (!isControl ·))).subset
    simpa [State.flush, literal] using legible_append.2 ⟨hslashed, hshown⟩
  · obtain ⟨tag, hfind⟩ : ∃ tag, s.tags.find? (·.name == name) = some tag := by
      obtain ⟨tag, htag, hname⟩ := hopen
      exact Option.isSome_iff_exists.1 (List.find?_isSome.2 ⟨tag, htag, by simpa using hname⟩)
    simp only [if_neg hodd]
    let u : State := { s.flush with text := s.flush.text ++ slashes (k / 2) }
    rw [turn_close (s := u) h hfind]
    refine ⟨_, rfl, ?_, ?_, ?_, ended_nil⟩
    · intro t ht
      exact hs.tags t (List.mem_of_mem_erase ht)
    · exact List.forall_mem_cons.2 ⟨hs.style_mark (List.mem_of_find?_eq_some hfind) _, hs.marks⟩
    · simpa [u, State.flush, State.close, literal] using hslashed

theorem Tame.of_shows (hs : Tame s) (h : Shows s t cs) (hcs : Legible cs) : Tame t where
  tags := h.tags ▸ hs.tags
  marks := h.marks ▸ hs.marks
  text := by
    rw [h.text]
    exact legible_append.2 ⟨hs.text, hcs⟩
  ended := h.ended

def Firm (w : List Char) : Prop := ∀ (s : State) (rest : List Char), Tame s → ∃ t, Tame t ∧
  (tokens 0 0 (w ++ rest)).foldlM State.next s = (tokens 0 0 rest).foldlM State.next t

theorem Firm.append {a b : List Char} (ha : Firm a) (hb : Firm b) : Firm (a ++ b) := by
  intro s rest hs
  obtain ⟨t, ht, hfold⟩ := ha s (b ++ rest) hs
  obtain ⟨u, hu, hfold'⟩ := hb t rest ht
  refine ⟨u, hu, ?_⟩
  rw [List.append_assoc, hfold, hfold']

theorem tokens_fixed (hp : Fixed p) (rest : List Char) :
    tokens 0 0 (p ++ rest) = p.map Token.plain ++ tokens 0 0 rest := by
  obtain ⟨-, hplain⟩ := hp
  induction p with
  | nil => rfl
  | cons c p ih =>
    obtain ⟨⟨hopen, -, hslash⟩, hp⟩ := List.forall_mem_cons.1 hplain
    rw [List.cons_append, tokens_plain hslash (tag?_of_ne hopen _), ih hp]
    rfl

theorem Fixed.ended (hp : Fixed p) : Ended p := by
  intro hlast
  exact (hp.plain _ (List.mem_of_getLast? hlast)).2.2 rfl

theorem Fixed.firm (hp : Fixed p) : Firm p := by
  intro s rest hs
  have hpush := shows_push hs.ended hp.ended
  refine ⟨s.push p, hs.of_shows hpush (hp.legible.of_subset (literal_sublist p).subset), ?_⟩
  rw [tokens_fixed hp, foldlM_push]

theorem Fixed.append {p' : List Char} (hp : Fixed p) (hp' : Fixed p') : Fixed (p ++ p') :=
  ⟨legible_append.2 ⟨hp.legible, hp'.legible⟩, List.forall_mem_append.2 ⟨hp.plain, hp'.plain⟩⟩

theorem fixed_digits (h : ∀ c ∈ p, c.isDigit = true) : Fixed p := by
  constructor
  · intro c hc
    have hdigit : 48 ≤ c.toNat ∧ c.toNat ≤ 57 := Char.isDigit_iff_toNat.1 (h c hc)
    right
    rw [isPrintable, if_pos (by omega), Bool.and_eq_true, decide_eq_true_eq, decide_eq_true_eq]
    omega
  · intro c hc
    have hdigit := h c hc
    refine ⟨?_, ?_, ?_⟩ <;> rintro rfl <;> cases hdigit

theorem Fixed.escape (hp : Fixed p) : Markup.escape p = p := by
  have htokens := tokens_fixed hp []
  rw [List.append_nil] at htokens
  have hplain : (p.map Token.plain).flatMap Token.escaped = p := by
    rw [List.flatMap_map]
    exact List.flatMap_singleton' p
  have hclosed := closed_append hp.ended 0
  rw [Markup.escape, htokens, List.flatMap_append, hplain]
  simpa [tokens, slashes, closing] using hclosed

theorem Inside.ofStyle (h : name ∈ styleNames) : Inside name.toList := by
  obtain ⟨-, -, -, hbegins, -, hinside, -⟩ := spelling h
  exact ⟨hbegins, hinside⟩

theorem Inside.ofEnd (h : name ∈ styleNames) : Inside ('/' :: name.toList) :=
  ⟨rfl, List.forall_mem_cons.2 ⟨rfl, (Inside.ofStyle h).all⟩⟩

theorem Fixed.apart (hp : Fixed p) (rest : List Char) : Apart (p ++ '[' :: rest) := by
  have hp : ∀ c ∈ p, isInside c = true := by
    intro c hc
    obtain ⟨hopen, hclose, -⟩ := hp.plain c hc
    simp [isInside, hopen, hclose]
  rw [Apart, bracket?, List.dropWhile_append_of_pos hp]
  simp [isInside]

/-- Backslashes behind an escaped text reach the tag behind it, unless other text comes first. -/
theorem Fixed.foldlM_slashes (hp : Fixed p) (hs : Tame s) (k : Nat) (rest : List Char) :
    ∃ t j, Tame t ∧ t.tags = s.tags ∧
      (tokens 0 0 (slashes k ++ (p ++ rest))).foldlM State.next s =
        (tokens j 0 rest).foldlM State.next t := by
  cases p with
  | nil => exact ⟨s, k, hs, rfl, by rw [tokens_slashes, Nat.zero_add]; rfl⟩
  | cons c p =>
    obtain ⟨⟨hopen, -, hslash⟩, hplain⟩ := List.forall_mem_cons.1 hp.plain
    have hrest : Fixed p := ⟨(legible_cons.1 hp.legible).2, hplain⟩
    have hpush := shows_push hs.ended (ended_append (a := slashes k) hslash hrest.ended)
    have hlegible := legible_append.2 ⟨legible_slashes k, hp.legible⟩
    refine ⟨s.push (slashes k ++ c :: p), 0,
      hs.of_shows hpush (hlegible.of_subset (literal_sublist _).subset), rfl, ?_⟩
    rw [tokens_slashes, List.cons_append, tokens_plain hslash (tag?_of_ne hopen _), Nat.zero_add,
      tokens_fixed hrest, ← foldlM_push]
    simp [slashes]

theorem firm_styled (h : name ∈ styleNames) (hcs : Legible cs) (hp : Fixed p) :
    Firm ('[' :: (name.toList ++ ']' ::
      (escape cs ++ (p ++ '[' :: '/' :: (name.toList ++ [']']))))) := by
  intro s rest hs
  obtain ⟨t, hnext, ht, htag⟩ := hs.next_open h
  obtain ⟨body, n, rfl, hbody⟩ := exists_body cs
  obtain ⟨hlegible, -⟩ := legible_append.1 hcs
  have hend : (p ++ '[' :: '/' :: (name.toList ++ [']'])) ++ rest =
      p ++ '[' :: ('/' :: name.toList ++ ']' :: rest) := by simp
  obtain ⟨u, hshows, hfold⟩ := hbody.foldlM_protect hlegible
    (apart_slashes (closing n) (hp.apart ('/' :: name.toList ++ ']' :: rest))) ht.ended
  have hu := ht.of_shows hshows (hlegible.of_subset (unslash_sublist body).subset)
  obtain ⟨v, j, hv, htags, hfold'⟩ := hp.foldlM_slashes hu (closing n)
    ('[' :: ('/' :: name.toList ++ ']' :: rest))
  rw [← hshows.tags, ← htags] at htag
  obtain ⟨w, hclose, hw⟩ := hv.next_close h htag j
  refine ⟨w, hw, ?_⟩
  rw [List.cons_append, List.append_assoc, List.cons_append, List.append_assoc,
    tokens_tag (Inside.ofStyle h), List.foldlM_cons, hnext, hend, hbody.escape_append,
    List.append_assoc]
  refine (hfold.trans hfold').trans ?_
  rw [tokens_tag (Inside.ofEnd h), List.foldlM_cons, hclose]
  rfl

end

section
variable {w cs : List Char} {s : State} {m : Marked}

theorem tame_start : Tame State.start where
  tags := List.forall_mem_nil _
  marks := List.forall_mem_nil _
  text := legible_nil
  ended := ended_nil

theorem Tame.exists_marked (hs : Tame s) (hcs : Legible cs) :
    ∃ t, (tokens 0 0 (escape cs)).foldlM State.next s = .ok t ∧
      t.marked.text = s.flush.text ++ printed cs ∧
      ∀ mark ∈ t.marked.marks, mark.style ∈ styleNames := by
  obtain ⟨t, hfold, htext, htags, hmarks⟩ := foldlM_escape hcs hs.ended
  refine ⟨t, hfold, htext, ?_⟩
  intro mark hmark
  rcases List.mem_append.1 (List.mem_mergeSort.1 hmark) with hopen | hclosed
  · obtain ⟨tag, htag, rfl⟩ := List.mem_map.1 (List.mem_reverse.1 hopen)
    refine hs.style_mark ?_ _
    rw [← htags]
    exact htag
  · refine hs.marks mark ?_
    rw [← hmarks]
    exact hclosed

/-- An escaped text can be read wherever it is put, and is shown behind what is before it. -/
theorem Firm.exists_read (hw : Firm w) (hcs : Legible cs) : ∃ lead m, Legible lead ∧
    read (w ++ escape cs) = .ok m ∧ m.text = lead ++ printed cs ∧
      ∀ mark ∈ m.marks, mark.style ∈ styleNames := by
  obtain ⟨s, hs, hfold⟩ := hw State.start (escape cs) tame_start
  obtain ⟨t, hfold', htext, hmarks⟩ := hs.exists_marked hcs
  refine ⟨s.flush.text, t.marked, hs.text, ?_, htext, hmarks⟩
  rw [read, hfold, hfold']
  rfl

theorem exists_read_escape (hcs : Legible cs) : ∃ m, read (escape cs) = .ok m ∧
    m.text = printed cs ∧ ∀ mark ∈ m.marks, mark.style ∈ styleNames := by
  obtain ⟨t, hfold, htext, hmarks⟩ := tame_start.exists_marked hcs
  refine ⟨t.marked, ?_, htext, hmarks⟩
  rw [read, hfold]
  rfl

theorem Marked.exists_styled (h : ∀ mark ∈ m.marks, mark.style ∈ styleNames) :
    ∃ t, m.styled = .ok t ∧ t.text = m.text ∧ ∀ span ∈ t.spans, span.style.link = none := by
  have hspans : ∀ marks : List Mark, (∀ mark ∈ marks, mark.style ∈ styleNames) →
      ∃ spans, marks.mapM Mark.span = .ok spans ∧ ∀ span ∈ spans, span.style.link = none := by
    intro marks h
    induction marks with
    | nil => exact ⟨[], rfl, List.forall_mem_nil _⟩
    | cons mark marks ih =>
      obtain ⟨hmark, hmarks⟩ := List.forall_mem_cons.1 h
      obtain ⟨style, hstyle, hlink⟩ := exists_named hmark
      obtain ⟨spans, hspans, hlinks⟩ := ih hmarks
      refine ⟨⟨mark.start, mark.stop, style⟩ :: spans, ?_,
        List.forall_mem_cons.2 ⟨hlink, hlinks⟩⟩
      rw [List.mapM_cons, hspans, Mark.span, hstyle]
      rfl
  obtain ⟨spans, hspans, hlinks⟩ := hspans m.marks h
  refine ⟨⟨m.text, spans⟩, ?_, rfl, hlinks⟩
  rw [Marked.styled, hspans]
  rfl

end

end Mend.Markup
