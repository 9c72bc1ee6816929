import Mend.Text.Lines

namespace Mend.Lines

/-- Characters with one separator for each line. -/
def size : List Line → Nat
  | [] => 0
  | l :: ls => l.length + 1 + size ls

@[simp] theorem size_append (ls ms : List Line) : size (ls ++ ms) = size ls + size ms := by
  induction ls with
  | nil => simp [size]
  | cons l ls ih => simp [size, ih, Nat.add_assoc]

theorem length_le_size (ls : List Line) : ls.length ≤ size ls := by
  induction ls with
  | nil => simp
  | cons l ls ih =>
    simp only [List.length_cons, size]
    omega

theorem two_le_size {ls : List Line} (hne : ls ≠ []) (hblank : ls ≠ [[]]) : 2 ≤ size ls := by
  cases ls with
  | nil => exact absurd rfl hne
  | cons l ls =>
    cases ls with
    | nil =>
      have hl : 0 < l.length := List.length_pos_iff.2 fun hl => hblank (by rw [hl])
      simp only [size]
      omega
    | cons m ms =>
      simp only [size]
      omega

theorem length_join (sep : Char) (ls : List Line) : (join sep ls).length = size ls - 1 := by
  induction ls with
  | nil => rfl
  | cons l ls ih =>
    cases ls with
    | nil => simp [join, size]
    | cons m ls =>
      have hm : 0 < size (m :: ls) := by
        simp only [size]
        omega
      simp only [join, List.length_append, List.length_cons, ih]
      simp only [size] at hm ⊢
      omega

theorem toText_injective_length {ls ms : List Line} (h : toText ls = toText ms) :
    size ls - 1 = size ms - 1 := by
  rw [← length_join '\n', ← length_join '\n', String.ofList_injective h]

/-- Texts that are joined from different numbers of characters differ. -/
theorem toText_ne_of_size {ls ms : List Line} (h : size ls - 1 ≠ size ms - 1) :
    toText ls ≠ toText ms :=
  fun e => h (toText_injective_length e)

theorem join_injective_of_lengths {sep : Char} {ls ms : List Line}
    (h : ls.map List.length = ms.map List.length) (e : join sep ls = join sep ms) : ls = ms := by
  induction ls generalizing ms with
  | nil =>
    cases ms with
    | nil => rfl
    | cons m ms => simp at h
  | cons l ls ih =>
    cases ms with
    | nil => simp at h
    | cons m ms =>
      simp only [List.map_cons, List.cons.injEq] at h
      cases ls with
      | nil =>
        have hms : ms = [] := by simpa using h.2.symm
        subst hms
        simpa [join] using e
      | cons l' ls =>
        cases ms with
        | nil => simp at h
        | cons m' ms =>
          simp only [join] at e
          obtain ⟨hl, ht⟩ := List.append_inj e h.1
          rw [hl, ih h.2 (List.cons.inj ht).2]

theorem toText_injective_of_lengths {ls ms : List Line}
    (h : ls.map List.length = ms.map List.length) (e : toText ls = toText ms) : ls = ms :=
  join_injective_of_lengths h (String.ofList_injective e)

/-- A change of lines that takes some number of pieces out of a line and puts as many other pieces
in, all of the first kind having `n` characters and all of the second kind `m`. -/
def Exchanges (n m : Nat) (f : Line → Line) : Prop :=
  ∀ l, ∃ k, (f l).length + k * n = l.length + k * m ∧ (k = 0 → f l = l)

section
variable {n m : Nat} {f : Line → Line}

theorem Exchanges.size_map (hf : Exchanges n m f) (ls : List Line) :
    ∃ k, size (ls.map f) + k * n = size ls + k * m ∧ (k = 0 → ls.map f = ls) := by
  induction ls with
  | nil => exact ⟨0, by simp [size], fun _ => rfl⟩
  | cons l ls ih =>
    obtain ⟨k, hsize, hls⟩ := ih
    obtain ⟨j, hlen, hl⟩ := hf l
    refine ⟨j + k, ?_, ?_⟩
    · simp only [List.map_cons, size, Nat.add_mul]
      omega
    · intro h
      rw [List.map_cons, hl (by omega), hls (by omega)]

theorem Exchanges.length_eq (hf : Exchanges n n f) (l : Line) : (f l).length = l.length := by
  obtain ⟨k, hlen, -⟩ := hf l
  exact Nat.add_right_cancel hlen

/-- No such change of the lines is lost when they are joined: it changes the size of the text, or
it leaves every line as long as it was. -/
theorem Exchanges.map_eq_self (hf : Exchanges n m f) {ls : List Line}
    (h : toText (ls.map f) = toText ls) : ls.map f = ls := by
  by_cases hnm : n = m
  · subst hnm
    apply toText_injective_of_lengths _ h
    rw [List.map_map]
    exact List.map_congr_left fun l _ => hf.length_eq l
  · obtain ⟨k, hsize, hk⟩ := hf.size_map ls
    apply hk
    have hjoin := toText_injective_length h
    have hmul : k * n = k * m := by
      cases ls with
      | nil => simpa [size] using hsize
      | cons l ls =>
        simp only [List.map_cons, size] at hjoin hsize
        omega
    exact (Nat.eq_zero_or_pos k).resolve_right fun hpos =>
      hnm (Nat.eq_of_mul_eq_mul_left hpos hmul)

end

theorem split_append_sep (sep : Char) (l cs : List Char) :
    split sep (l ++ sep :: cs) = split sep l ++ split sep cs := by
  induction l with
  | nil => simp [split]
  | cons c l ih =>
    rw [List.cons_append, split, split, ih]
    split
    · rfl
    · cases hl : split sep l with
      | nil => exact absurd hl (split_ne_nil sep l)
      | cons m ms => rfl

theorem split_eq_singleton {sep : Char} {l : Line} (h : sep ∉ l) : split sep l = [l] := by
  induction l with
  | nil => rfl
  | cons c l ih =>
    obtain ⟨hc, hl⟩ := not_or.1 (mt List.mem_cons.2 h)
    rw [split, if_neg (Ne.symm hc), ih hl]

theorem split_join {sep : Char} {ls : List Line} (h : ls ≠ []) :
    split sep (join sep ls) = ls.flatMap (split sep) := by
  induction ls with
  | nil => exact absurd rfl h
  | cons l ls ih =>
    cases ls with
    | nil => simp [join]
    | cons m ls =>
      have hjoin : join sep (l :: m :: ls) = l ++ sep :: join sep (m :: ls) := rfl
      rw [hjoin, split_append_sep, ih (List.cons_ne_nil m ls)]
      rfl

theorem flatMap_split_eq_self {sep : Char} {ls : List Line} (h : ∀ l ∈ ls, sep ∉ l) :
    ls.flatMap (split sep) = ls := by
  induction ls with
  | nil => rfl
  | cons l ls ih =>
    rw [List.flatMap_cons, split_eq_singleton (h l List.mem_cons_self),
      ih fun m hm => h m (List.mem_cons_of_mem l hm)]
    rfl

theorem ofText_toText_eq_flatMap {ls : List Line} (h : ls ≠ []) :
    ofText (toText ls) = ls.flatMap (split '\n') := by
  rw [ofText, toText, String.toList_ofList, split_join h]

theorem ofText_toText {ls : List Line} (h : ls ≠ []) (hfree : ∀ l ∈ ls, '\n' ∉ l) :
    ofText (toText ls) = ls := by
  rw [ofText_toText_eq_flatMap h, flatMap_split_eq_self hfree]

theorem newline_not_mem {content : String} {l : Line} (h : l ∈ ofText content) : '\n' ∉ l :=
  sep_not_mem_of_mem_split h

theorem ofText_ne_nil (content : String) : ofText content ≠ [] := split_ne_nil '\n' _

theorem ofText_put {content : String} {before gone after : List Line} {new : Line}
    (hls : ofText content = before ++ gone ++ after) (hnew : '\n' ∉ new) :
    ofText (toText (before ++ new :: after)) = before ++ new :: after := by
  apply ofText_toText (by simp)
  intro l hl
  rw [List.mem_append, List.mem_cons] at hl
  rcases hl with hl | rfl | hl
  · exact newline_not_mem (hls ▸ List.mem_append_left after (List.mem_append_left gone hl))
  · exact hnew
  · exact newline_not_mem (hls ▸ List.mem_append_right (before ++ gone) hl)

theorem join_ofText (content : String) : join '\n' (ofText content) = content.toList :=
  join_split '\n' _

theorem join_concat (sep : Char) {ls : List Line} (h : ls ≠ []) (l : Line) :
    join sep (ls ++ [l]) = join sep ls ++ sep :: l := by
  induction ls with
  | nil => exact absurd rfl h
  | cons m ls ih =>
    cases ls with
    | nil => rfl
    | cons k ls =>
      have hjoin : join sep (m :: k :: ls ++ [l]) = m ++ sep :: join sep (k :: ls ++ [l]) := rfl
      rw [hjoin, ih (List.cons_ne_nil k ls)]
      simp [join]

theorem subset_join {sep : Char} {ls : List Line} {l : Line} (h : l ∈ ls) : l ⊆ join sep ls := by
  induction ls with
  | nil => cases h
  | cons m ls ih =>
    cases ls with
    | nil => rw [List.mem_singleton.1 h]; exact List.Subset.refl m
    | cons k ls =>
      have hjoin : join sep (m :: k :: ls) = m ++ sep :: join sep (k :: ls) := rfl
      rw [hjoin]
      rcases List.mem_cons.1 h with rfl | h
      · exact List.subset_append_left ..
      · exact List.Subset.trans (ih h)
          (List.Subset.trans (List.subset_cons_self ..) (List.subset_append_right ..))

theorem getLast?_eq_newline_iff (content : String) :
    content.toList.getLast? = some '\n' ↔
      (ofText content).getLast? = some [] ∧ 1 < (ofText content).length := by
  have hfree : ∀ l ∈ ofText content, '\n' ∉ l := fun l hl => newline_not_mem hl
  obtain ⟨init, l, hls⟩ : ∃ init l, ofText content = init ++ [l] :=
    ⟨_, _, (List.dropLast_concat_getLast (ofText_ne_nil content)).symm⟩
  have hl : '\n' ∉ l := hfree l (by rw [hls]; exact List.mem_concat_self)
  have hlast : l.getLast? ≠ some '\n' := fun h => hl (List.mem_of_getLast? h)
  rw [← join_ofText content, hls, List.getLast?_concat, List.length_append, List.length_singleton]
  by_cases hinit : init = []
  · subst hinit
    simpa [join] using hlast
  · have hlen : 0 < init.length := List.length_pos_iff.2 hinit
    rw [join_concat '\n' hinit, List.getLast?_append, List.getLast?_cons]
    cases hlast' : l.getLast? with
    | none => simp [List.getLast?_eq_none_iff.1 hlast', hlen]
    | some c =>
      have hc : c ≠ '\n' := fun hc => hlast (by rw [hlast', hc])
      have hne : l ≠ [] := by
        rintro rfl
        cases hlast'
      simp [hc, hne]

end Mend.Lines
