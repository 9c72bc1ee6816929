import Mathlib.Data.List.Chain
import Mend.Proofs.Text.Lines
import Mend.Proofs.Text.Trimming
import Mend.Proofs.Text.Width
import Mend.Screen.StyledText

/-! Wrapping. A legible text is cut into lines of which none is wider than it may be, and all that is
lost at the cuts are blanks. -/

namespace Mend

open Text

namespace StyledText

section
variable {t : StyledText} {cs : List Char} {w n : Nat}

/-- Groups of characters that make up a text, each of them but the last one ending with a blank. -/
structure Groups (cs : List Char) (gs : List (List Char)) : Prop where
  flatten : gs.flatten = cs
  ne_nil : ∀ g ∈ gs, g ≠ []
  chain : List.IsChain (fun g _ => g.getLast?.any isBlank = true) gs

theorem Groups.groupBefore {gs : List (List Char)} (h : Groups cs gs) (c : Char) :
    Groups (c :: cs) (groupBefore c gs) := by
  obtain ⟨hflatten, hne, hchain⟩ := h
  cases gs with
  | nil => exact ⟨by rw [← hflatten]; rfl, by simp [StyledText.groupBefore], .singleton _⟩
  | cons g gs =>
    obtain ⟨hg, hgs⟩ := List.forall_mem_cons.1 hne
    obtain ⟨d, g, rfl⟩ := List.exists_cons_of_ne_nil hg
    simp only [StyledText.groupBefore, List.head?_cons]
    split
    · rename_i hblank
      rw [Bool.and_eq_true] at hblank
      refine ⟨?_, ?_, ?_⟩
      · rw [List.flatten_cons, hflatten]
        rfl
      · exact List.forall_mem_cons.2 ⟨by simp, hne⟩
      · exact List.isChain_cons_cons.2 ⟨by simpa using hblank.1, hchain⟩
    · refine ⟨?_, ?_, ?_⟩
      · rw [← hflatten]
        rfl
      · exact List.forall_mem_cons.2 ⟨by simp, hgs⟩
      · cases gs with
        | nil => exact .singleton _
        | cons g' gs => simpa [List.isChain_cons_cons] using hchain

theorem groups_foldr (cs : List Char) : Groups cs (cs.foldr groupBefore []) := by
  induction cs with
  | nil => exact ⟨rfl, by simp, .nil⟩
  | cons c cs ih => exact ih.groupBefore c

theorem groups_words (cs : List Char) :
    Groups cs (words cs) ∨ words cs = [] ∧ ∀ c ∈ cs, isBlank c = true := by
  have hgroups := groups_foldr cs
  unfold words
  split
  · rename_i heq
    rw [heq] at hgroups
    exact .inl hgroups
  · rename_i g heq
    rw [heq] at hgroups
    split
    · rename_i hblank
      refine .inr ⟨rfl, ?_⟩
      rw [← hgroups.flatten]
      simpa using hblank
    · exact .inl hgroups
  · rename_i g h gs heq
    rw [heq] at hgroups
    split
    · obtain ⟨hflatten, hne, hchain⟩ := hgroups
      have hh : h ≠ [] := hne h (by simp)
      refine .inl ⟨?_, ?_, ?_⟩
      · rw [← hflatten]
        simp
      · intro x hx
        rcases List.mem_cons.1 hx with rfl | hx
        · simp [hh]
        · exact hne x (by simp [hx])
      · have hrest := (List.isChain_cons_cons.1 hchain).2
        cases gs with
        | nil => exact .singleton _
        | cons g' gs => simpa [List.isChain_cons_cons, List.getLast?_append_of_ne_nil g hh] using hrest
    · exact .inl hgroups

end

section
variable {t : StyledText} {cs cur more : List Char} {w a start : Nat} {places : List Nat}

def Fits (w : Nat) (cs : List Char) : Prop := Text.width (Text.trimRight cs) ≤ w

theorem fits_append {blanks : List Char} (hcs : joiner ∉ cs) (hle : Text.width cs ≤ w)
    (hblank : ∀ c ∈ blanks, isBlank c = true) : Fits w (cs ++ blanks) := by
  obtain ⟨tail, heq, -⟩ := eq_dropRight_append isBlank cs
  rw [Fits, Text.trimRight, dropRight_append_of_pos hblank]
  refine Nat.le_trans ?_ hle
  conv_rhs => rw [heq]
  have hcore : joiner ∉ dropRight isBlank cs := fun h => hcs (dropRight_subset isBlank cs h)
  exact Nat.le_trans (Nat.le_add_right ..) (width_add_le hcore tail)

theorem fits_of_width (hcs : joiner ∉ cs) (hle : Text.width cs ≤ w) : Fits w cs := by
  rw [← List.append_nil cs]
  exact fits_append hcs hle (by simp)

theorem fits_of_blank (h : ∀ c ∈ cs, isBlank c = true) : Fits w cs := by
  rw [Fits, Text.trimRight, dropRight_eq_nil_iff.2 h]
  exact Nat.zero_le w

/-- Cuts at the places leave lines that fit, from `a` on, and lose nothing. -/
def Cuts (w : Nat) (t : StyledText) (a : Nat) (places : List Nat) : Prop :=
  (∀ l ∈ divideFrom t a places, Fits w l.text) ∧
    (divideFrom t a places).flatMap (·.text) = t.text.drop a

theorem cuts_nil (h : Fits w (t.text.drop a)) : Cuts w t a [] := by
  have htext : (t.slice a t.text.length).text = t.text.drop a := by rw [slice, List.take_length]
  constructor
  · intro l hl
    rw [List.mem_singleton.1 hl, htext]
    exact h
  · rw [divideFrom, List.flatMap_cons, htext]
    exact List.append_nil _

theorem cuts_breakAt (hdrop : t.text.drop a = cur ++ more) (hcur : Fits w cur)
    (hplaces : Cuts w t (a + cur.length) places) :
    Cuts w t a (breakAt (a + cur.length) ++ places) := by
  unfold breakAt
  split
  · rename_i hzero
    obtain rfl : a = 0 := by omega
    obtain rfl : cur = [] := List.length_eq_zero_iff.1 (by omega)
    exact hplaces
  · have htext : (t.slice a (a + cur.length)).text = cur := by
      rw [slice, List.drop_take, Nat.add_sub_cancel_left, hdrop, List.take_left']
      rfl
    have hmore : t.text.drop (a + cur.length) = more := by
      rw [← List.drop_drop, hdrop, List.drop_left']
      rfl
    obtain ⟨hfits, hflat⟩ := hplaces
    constructor
    · rw [List.singleton_append, divideFrom, List.forall_mem_cons, htext]
      exact ⟨hcur, hfits⟩
    · rw [List.singleton_append, divideFrom, List.flatMap_cons, htext, hflat, hmore, hdrop]

theorem breaksOfPieces_cons (start : Nat) (p q : List Char) (ps : List (List Char)) :
    breaksOfPieces start (p :: q :: ps) =
      (breakAt start ++ (breaksOfPieces (start + p.length) (q :: ps)).1,
        (breaksOfPieces (start + p.length) (q :: ps)).2) := rfl

/-- Cuts between the pieces of a word, and after them the cuts of the words behind it. -/
theorem cuts_pieces {pieces ws : List (List Char)} {mode : Overflow}
    (hjoiner : joiner ∉ t.text) (hne : pieces ≠ [])
    (hpieces : ∀ p ∈ pieces, Text.width p ≤ w)
    (hdrop : t.text.drop a = cur ++ (pieces.flatten ++ more)) (hcur : Fits w cur)
    (hrest : ∀ a p, pieces.getLast? = some p → t.text.drop a = p ++ more →
      Cuts w t a (breaks mode w (a + p.length) (Text.width p) ws)) :
    Cuts w t a ((breaksOfPieces (a + cur.length) pieces).1 ++
      breaks mode w (a + cur.length + pieces.flatten.length)
        (breaksOfPieces (a + cur.length) pieces).2 ws) := by
  have hnext : t.text.drop (a + cur.length) = pieces.flatten ++ more := by
    rw [← List.drop_drop, hdrop, List.drop_left']
    rfl
  induction pieces generalizing a cur with
  | nil => exact absurd rfl hne
  | cons p pieces ih =>
    obtain ⟨hp, hpieces⟩ := List.forall_mem_cons.1 hpieces
    cases pieces with
    | nil =>
      rw [List.flatten_singleton] at hnext ⊢
      exact cuts_breakAt hdrop hcur (hrest _ p rfl hnext)
    | cons q pieces =>
      rw [List.flatten_cons, List.append_assoc] at hnext
      have hfits : Fits w p := by
        refine fits_of_width (fun hmem => hjoiner ?_) hp
        apply List.mem_of_mem_drop (i := a + cur.length)
        rw [hnext]
        exact List.mem_append_left _ hmem
      have hbehind : t.text.drop (a + cur.length + p.length) = (q :: pieces).flatten ++ more := by
        rw [← List.drop_drop, hnext, List.drop_left']
        rfl
      have hcuts := ih (List.cons_ne_nil q pieces) hpieces hnext hfits hrest hbehind
      rw [breaksOfPieces_cons, List.append_assoc, List.flatten_cons, List.length_append,
        ← Nat.add_assoc]
      exact cuts_breakAt hdrop hcur hcuts

theorem cuts_chopped {word : List Char} {ws : List (List Char)} {mode : Overflow} (hw : 3 ≤ w)
    (hjoiner : joiner ∉ t.text) (hword : joiner ∉ word) (hne : word ≠ [])
    (hdrop : t.text.drop a = cur ++ (word ++ more)) (hcur : Fits w cur)
    (hrest : ∀ a p, p ≠ [] → p <:+ word → Text.width p ≤ w → t.text.drop a = p ++ more →
      Cuts w t a (breaks mode w (a + p.length) (Text.width p) ws)) :
    Cuts w t a
      ((breaksOfPieces (a + cur.length) (Text.chop w [] 0 (Text.clusters word))).1 ++
        breaks mode w (a + cur.length + word.length)
          (breaksOfPieces (a + cur.length) (Text.chop w [] 0 (Text.clusters word))).2 ws) := by
  have hpieces := chop_clusters hw hword hne
  have hflat : (Text.chop w [] 0 (Text.clusters word)).flatten = word := by
    rw [flatten_chop, flatMap_clusters, List.nil_append]
  generalize Text.chop w [] 0 (Text.clusters word) = pieces at hpieces hflat ⊢
  subst hflat
  refine cuts_pieces hjoiner ?_ (fun p hp => (hpieces p hp).2) hdrop hcur ?_
  · rintro rfl
    exact hne rfl
  · intro b p hp hbehind
    obtain ⟨init, rfl⟩ := List.getLast?_eq_some_iff.1 hp
    obtain ⟨hpne, hple⟩ := hpieces p (by simp)
    refine hrest b p hpne ?_ hple hbehind
    rw [List.flatten_append, List.flatten_singleton]
    exact List.suffix_append ..

theorem cuts_breaks {ws : List (List Char)} (hw : 3 ≤ w) (hjoiner : joiner ∉ t.text)
    (hblank : ∀ c ∈ t.text, isBlank c = true → c = ' ')
    (hchain : List.IsChain (fun g _ => g.getLast?.any isBlank = true) ws)
    (hdrop : t.text.drop a = cur ++ ws.flatten) (hcur : Fits w cur)
    (hspace : ws ≠ [] → cur = [] ∨ cur.getLast? = some ' ') :
    Cuts w t a (breaks .fold w (a + cur.length) (Text.width cur) ws) := by
  induction ws generalizing a cur with
  | nil =>
    refine cuts_nil ?_
    rw [hdrop, List.flatten_nil, List.append_nil]
    exact hcur
  | cons word ws ih =>
    rw [List.flatten_cons] at hdrop
    have hmem {c : Char} (hc : c ∈ cur ++ word) : c ∈ t.text := by
      apply List.mem_of_mem_drop (i := a)
      rw [hdrop, ← List.append_assoc]
      exact List.mem_append_left _ hc
    have hcurjoiner : joiner ∉ cur := fun h => hjoiner (hmem (List.mem_append_left _ h))
    have hwordjoiner : joiner ∉ word := fun h => hjoiner (hmem (List.mem_append_right _ h))
    have hadd (b : List Char) : Text.width (cur ++ b) = Text.width cur + Text.width b := by
      rcases hspace (List.cons_ne_nil word ws) with rfl | hspace
      · simp
      · exact width_append_of_space hcurjoiner hspace b
    have hend : ws ≠ [] → word.getLast? = some ' ' := by
      intro hws
      obtain ⟨g, gs, rfl⟩ := List.exists_cons_of_ne_nil hws
      obtain ⟨c, hc, hcblank⟩ := (Option.any_eq_true ..).1 (List.isChain_cons_cons.1 hchain).1
      rw [hc, hblank c (hmem (List.mem_append_right _ (List.mem_of_getLast? hc))) hcblank]
    have hchain := hchain.tail
    obtain ⟨tail, hword, htail⟩ := eq_dropRight_append isBlank word
    have hcorejoiner : joiner ∉ dropRight isBlank word := fun h =>
      hwordjoiner (dropRight_subset isBlank word h)
    have hnext : t.text.drop (a + cur.length) = word ++ ws.flatten := by
      rw [← List.drop_drop, hdrop, List.drop_left']
      rfl
    simp only [breaks]
    split
    · rename_i hneed
      have hlength : a + cur.length + word.length = a + (cur ++ word).length := by
        rw [List.length_append, Nat.add_assoc]
      rw [← hadd, hlength]
      refine ih hchain (by rw [hdrop, List.append_assoc]) ?_ fun hws => .inr ?_
      · rw [hword, ← List.append_assoc]
        refine fits_append ?_ ((hadd _).trans_le hneed) htail
        rw [List.mem_append]
        exact not_or.2 ⟨hcurjoiner, hcorejoiner⟩
      · rw [List.getLast?_append, hend hws]
        rfl
    · split
      · rename_i hwide
        have hne : word ≠ [] := by
          rintro rfl
          exact Nat.not_lt_zero w hwide
        refine cuts_chopped hw hjoiner hwordjoiner hne hdrop hcur fun b p hpne hsuffix hp hbehind => ?_
        refine ih hchain hbehind (fits_of_width ?_ hp) fun hws => .inr ?_
        · exact fun hmem => hwordjoiner (hsuffix.mem hmem)
        · obtain ⟨init, rfl⟩ := hsuffix
          rw [← hend hws, List.getLast?_append_of_ne_nil _ hpne]
      · rename_i hneed
        refine cuts_breakAt hdrop hcur (ih hchain hnext ?_ fun hws => .inr (hend hws))
        rw [hword]
        exact fits_append hcorejoiner (Nat.not_lt.1 hneed) htail

end

section
variable {t l : StyledText} {cs : List Char} {w n : Nat}

theorem divide_of_cuts {places : List Nat} (h : Cuts w t 0 places) :
    (∀ l ∈ t.divide places, Fits w l.text) ∧ (t.divide places).flatMap (·.text) = t.text := by
  cases places with
  | nil =>
    have htext : (t.slice 0 t.text.length).text = t.text := by
      rw [slice, List.take_length, List.drop_zero]
    have hfits := h.1 _ (List.mem_singleton_self _)
    rw [htext] at hfits
    simpa [divide] using hfits
  | cons b places => exact h

theorem divide_words (hw : 3 ≤ w) (hjoiner : joiner ∉ t.text)
    (hblank : ∀ c ∈ t.text, isBlank c = true → c = ' ') :
    (∀ l ∈ t.divide (breaks .fold w 0 0 (words t.text)), Fits w l.text) ∧
      (t.divide (breaks .fold w 0 0 (words t.text))).flatMap (·.text) = t.text := by
  apply divide_of_cuts
  rcases groups_words t.text with hgroups | ⟨hnil, hall⟩
  · have hdrop : t.text.drop 0 = [] ++ (words t.text).flatten := by
      rw [hgroups.flatten]
      rfl
    exact cuts_breaks hw hjoiner hblank hgroups.chain hdrop (fits_of_blank (by simp))
      fun _ => .inl rfl
  · rw [hnil]
    exact cuts_nil (fits_of_blank hall)

@[simp] theorem text_take (n : Nat) (t : StyledText) : (t.take n).text = t.text.take n := by
  unfold take
  split
  · rename_i hle
    exact (List.take_of_length_le hle).symm
  · rfl

theorem cut_of_fits (hw : 0 < w) (hjoiner : joiner ∉ t.text)
    (hblank : ∀ c ∈ t.text, isBlank c = true → c = ' ') (hfits : Fits w t.text) :
    ((t.dropExcess w).truncate .fold w).width ≤ w ∧
      ∃ n, ((t.dropExcess w).truncate .fold w).text =
        Text.trimRight t.text ++ List.replicate n ' ' := by
  obtain ⟨tail, heq, htail⟩ := eq_dropRight_append isBlank t.text
  have hcore : joiner ∉ dropRight isBlank t.text := fun h =>
    hjoiner (dropRight_subset isBlank t.text h)
  have hspaces : tail = List.replicate tail.length ' ' := by
    apply List.eq_replicate_of_mem
    intro c hc
    refine hblank c ?_ (htail c hc)
    rw [heq]
    exact List.mem_append_right _ hc
  have hdropped : ∃ n, (t.dropExcess w).text =
      dropRight isBlank t.text ++ List.replicate n ' ' := by
    have hlength : t.text.length = (dropRight isBlank t.text).length + tail.length := by
      conv_lhs => rw [heq]
      exact List.length_append
    obtain ⟨n, hn, hkept⟩ : ∃ n ≤ tail.length,
        t.text.length - min (t.text.length - (dropRight isBlank t.text).length)
          (t.text.length - w) = (dropRight isBlank t.text).length + n :=
      ⟨tail.length - min tail.length (t.text.length - w), Nat.sub_le .., by omega⟩
    refine ⟨n, ?_⟩
    have htake : tail.take n = List.replicate n ' ' := by
      rw [hspaces, List.take_replicate, Nat.min_eq_left hn]
    rw [dropExcess, text_take, Text.trimRight, hkept]
    refine (congrArg (List.take _) heq).trans ?_
    rw [List.take_length_add_append, htake]
  obtain ⟨n, hdropped⟩ := hdropped
  unfold truncate
  split
  · rename_i hle
    exact ⟨hle, n, hdropped⟩
  · rename_i hwide
    rw [width, hdropped] at hwide
    have hsized := sized_spaces hw hcore hfits (Nat.not_le.1 hwide)
    simp only [retext, width, hdropped, hsized]
    refine ⟨?_, _, rfl⟩
    rw [width_append_spaces hcore]
    exact Nat.le_of_eq (Nat.add_sub_of_le hfits)

theorem ink_cut (n : Nat) (cs : List Char) :
    ink (Text.trimRight cs ++ List.replicate n ' ') = ink cs := by
  obtain ⟨tail, heq, htail⟩ := eq_dropRight_append isBlank cs
  conv_rhs => rw [heq, ink_append, ink_eq_nil htail, List.append_nil]
  rw [ink_append, ink_spaces, List.append_nil, Text.trimRight]

theorem untab_eq_self (h : ∀ c ∈ t.text, isPrintable c = true) : t.untab = t := by
  have htab : '\t' ∉ t.text := fun hmem => absurd (h _ hmem) (by decide)
  rw [untab, Lines.split_eq_singleton htab]

theorem wrapLine_shows (hw : 3 ≤ w) (h : ∀ c ∈ t.text, isPrintable c = true) :
    (∀ l ∈ wrapLine .fold w t, l.width ≤ w ∧ ∀ c ∈ l.text, isPrintable c = true) ∧
      ((wrapLine .fold w t).map fun l => ink l.text).flatten = ink t.text := by
  have hlegible : Legible t.text := fun c hc => .inr (h c hc)
  have hblank (c : Char) (hc : c ∈ t.text) (hblank : isBlank c = true) : c = ' ' :=
    isPrintable_blank hblank (h c hc)
  have hdivide := divide_words hw hlegible.joiner hblank
  rw [wrapLine, untab_eq_self h]
  generalize t.divide (breaks .fold w 0 0 (words t.text)) = parts at hdivide ⊢
  obtain ⟨hfits, hflat⟩ := hdivide
  have hpart {l : StyledText} (hl : l ∈ parts) : l.text ⊆ t.text := by
    rw [← hflat]
    exact fun c hc => List.mem_flatMap.2 ⟨l, hl, hc⟩
  have hcut {l : StyledText} (hl : l ∈ parts) :=
    cut_of_fits (Nat.lt_of_lt_of_le (by decide) hw) (fun hmem => hlegible.joiner (hpart hl hmem))
      (fun c hc => hblank c (hpart hl hc)) (hfits l hl)
  constructor
  · intro l hl
    obtain ⟨part, hpartmem, rfl⟩ := List.mem_map.1 hl
    obtain ⟨hwidth, n, htext⟩ := hcut hpartmem
    refine ⟨hwidth, fun c hc => ?_⟩
    rw [htext, List.mem_append] at hc
    rcases hc with hc | hc
    · exact h c (hpart hpartmem (dropRight_subset isBlank part.text hc))
    · rw [List.eq_of_mem_replicate hc]
      decide
  · rw [List.map_map, ← hflat, List.flatMap_def, ink_flatten, List.map_map]
    congr 1
    apply List.map_congr_left
    intro l hl
    obtain ⟨-, n, htext⟩ := hcut hl
    rw [Function.comp, htext, ink_cut]
    rfl

theorem map_text_linesFrom {start : Nat} {ls : List Line} (hne : ls ≠ [])
    (h : t.text.drop start = Lines.join '\n' ls) : (linesFrom t start ls).map (·.text) = ls := by
  induction ls generalizing start with
  | nil => rfl
  | cons l ls ih =>
    have htake : (t.slice start (start + l.length)).text = l := by
      rw [slice, List.drop_take, Nat.add_sub_cancel_left, h]
      cases ls with
      | nil => exact List.take_length
      | cons l' ls => exact List.take_left' rfl
    rw [linesFrom, List.map_cons, htake]
    cases ls with
    | nil => rfl
    | cons l' ls =>
      have hjoin : Lines.join '\n' (l :: l' :: ls) = l ++ '\n' :: Lines.join '\n' (l' :: ls) := rfl
      have hdrop : t.text.drop (start + l.length + 1) = Lines.join '\n' (l' :: ls) := by
        rw [Nat.add_assoc, ← List.drop_drop, h, hjoin, ← List.drop_drop, List.drop_left' rfl]
        rfl
      rw [ih (List.cons_ne_nil l' ls) hdrop]

theorem map_text_lines (t : StyledText) : t.lines.map (·.text) = Lines.split '\n' t.text := by
  have hjoin := Lines.join_split '\n' t.text
  unfold lines
  split
  · rename_i l heq
    rw [heq] at hjoin ⊢
    exact congrArg (List.cons · []) hjoin.symm
  · exact map_text_linesFrom (Lines.split_ne_nil '\n' t.text) hjoin.symm

theorem ink_join (ls : List Line) : ink (Lines.join '\n' ls) = (ls.map ink).flatten := by
  induction ls with
  | nil => rfl
  | cons l ls ih =>
    cases ls with
    | nil => exact (List.append_nil _).symm
    | cons l' ls =>
      have hjoin : Lines.join '\n' (l :: l' :: ls) = l ++ '\n' :: Lines.join '\n' (l' :: ls) := rfl
      rw [hjoin, ink_append, List.map_cons, List.flatten_cons, ← ih]
      rfl

/-- A legible text is wrapped without loss, and no line is too wide. -/
theorem wrap_shows (hw : 3 ≤ w) (h : Legible t.text) :
    (∀ l ∈ t.wrap .fold w, l.width ≤ w ∧ ∀ c ∈ l.text, isPrintable c = true) ∧
      ((t.wrap .fold w).map fun l => ink l.text).flatten = ink t.text := by
  have hlines := map_text_lines t
  have hline {l : StyledText} (hl : l ∈ t.lines) : ∀ c ∈ l.text, isPrintable c = true := by
    intro c hc
    have hsplit : l.text ∈ Lines.split '\n' t.text := by
      rw [← hlines]
      exact List.mem_map_of_mem hl
    refine (h c ?_).resolve_left ?_
    · rw [← Lines.join_split '\n' t.text]
      exact Lines.subset_join hsplit hc
    · rintro rfl
      exact Lines.sep_not_mem_of_mem_split hsplit hc
  constructor
  · intro l hl
    obtain ⟨line, hmem, hl⟩ := List.mem_flatMap.1 hl
    exact (wrapLine_shows hw (hline hmem)).1 l hl
  · rw [wrap, List.map_flatMap, List.flatMap_def, List.flatten_flatten, List.map_map,
      ← Lines.join_split '\n' t.text, ink_join, ← hlines, List.map_map]
    congr 1
    apply List.map_congr_left
    intro l hl
    exact (wrapLine_shows hw (hline hl)).2

end

def All (P : Style → Prop) (t : StyledText) : Prop := ∀ s ∈ t.spans, P s.style

section
variable {P : Style → Prop} {t u : StyledText}

theorem All.append (ht : t.All P) (hu : u.All P) : (t.append u).All P := by
  intro s hs
  rcases List.mem_append.1 hs with hs | hs
  · exact ht s hs
  · obtain ⟨s', hs', rfl⟩ := List.mem_map.1 hs
    exact hu s' hs'

theorem All.on {style : Style} (ht : t.All P) (h : P style) : (t.on style).All P :=
  List.forall_mem_cons.2 ⟨h, ht⟩

theorem All.clip {spans : List Span} (h : ∀ s ∈ spans, P s.style) (n : Nat) :
    ∀ s ∈ clip n spans, P s.style := by
  intro s hs
  obtain ⟨s', hs', rfl⟩ := List.mem_map.1 hs
  exact h s' (List.mem_filter.1 hs').1

theorem All.take (ht : t.All P) (n : Nat) : (t.take n).All P := by
  unfold StyledText.take
  split
  · exact ht
  · exact All.clip ht n

theorem All.retext (ht : t.All P) (cs : List Char) : (t.retext cs).All P := by
  unfold StyledText.retext
  split
  · exact All.clip ht cs.length
  · exact ht

theorem All.slice (ht : t.All P) (a b : Nat) : (t.slice a b).All P := by
  intro s hs
  obtain ⟨s', hs', rfl⟩ := List.mem_map.1 (List.mem_filter.1 hs).1
  exact ht s' hs'

theorem All.extend (ht : t.All P) (n : Nat) : (t.extend n).All P := by
  intro s hs
  obtain ⟨s', hs', rfl⟩ := List.mem_map.1 hs
  split
  · exact ht s' hs'
  · exact ht s' hs'

theorem All.untabFrom (ht : t.All P) (start p : Nat) (ls : List Line) :
    (t.untabFrom start p ls).All P := by
  fun_induction StyledText.untabFrom t start p ls with
  | case1 => exact List.forall_mem_nil _
  | case2 start p l => exact ht.slice _ _
  | case3 start p l ls _ part q stop ih => exact (((ht.slice _ _).retext _).extend _).append ih

theorem All.untab (ht : t.All P) : t.untab.All P := by
  unfold StyledText.untab
  split
  · exact ht
  · exact ht.untabFrom 0 0 _

theorem All.divideFrom (ht : t.All P) (start : Nat) (places : List Nat) :
    ∀ l ∈ t.divideFrom start places, l.All P := by
  induction places generalizing start with
  | nil => exact List.forall_mem_singleton.2 (ht.slice _ _)
  | cons b places ih => exact List.forall_mem_cons.2 ⟨ht.slice _ _, ih b⟩

theorem All.divide (ht : t.All P) (places : List Nat) : ∀ l ∈ t.divide places, l.All P := by
  unfold StyledText.divide
  split
  · exact List.forall_mem_singleton.2 ht
  · exact ht.divideFrom 0 places

theorem All.linesFrom (ht : t.All P) (start : Nat) (ls : List Line) :
    ∀ l ∈ t.linesFrom start ls, l.All P := by
  induction ls generalizing start with
  | nil => exact List.forall_mem_nil _
  | cons l ls ih => exact List.forall_mem_cons.2 ⟨ht.slice _ _, ih _⟩

theorem All.lines (ht : t.All P) : ∀ l ∈ t.lines, l.All P := by
  unfold StyledText.lines
  split
  · exact List.forall_mem_singleton.2 ht
  · exact ht.linesFrom 0 _

theorem All.cut (ht : t.All P) (mode : Overflow) (w : Nat) :
    ((t.dropExcess w).truncate mode w).All P := by
  have hdropped : (t.dropExcess w).All P := ht.take _
  unfold truncate
  split
  · exact hdropped
  · cases mode with
    | fold => exact hdropped.retext _
    | ellipsis => exact hdropped.retext _

theorem All.wrap (ht : t.All P) (mode : Overflow) (w : Nat) : ∀ l ∈ t.wrap mode w, l.All P := by
  intro l hl
  obtain ⟨line, hline, hl⟩ := List.mem_flatMap.1 hl
  obtain ⟨part, hpart, rfl⟩ := List.mem_map.1 hl
  exact ((ht.lines line hline).untab.divide _ part hpart).cut mode w

end

end StyledText

end Mend
