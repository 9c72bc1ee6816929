import Mathlib.Algebra.GroupWithZero.Nat
import Mathlib.Data.List.Basic
import Mend.Text.Cluster
import Mend.Text.Quoted
import Mend.Text.Trim

/-! Cells of legible text. No joiner occurs in it and the space is its only blank, so widths of words
add up, a text is as wide as its clusters, and no piece of a cut text is wider than it should be. -/

namespace Mend.Text

def ink (cs : List Char) : List Char := cs.filter (!isBlank ·)

def Legible (cs : List Char) : Prop := ∀ c ∈ cs, c = '\n' ∨ isPrintable c = true

instance (cs : List Char) : Decidable (Legible cs) := List.decidableBAll _ cs

section
variable {a b cs : List Char} {c : Char}

@[simp] theorem ink_append (a b : List Char) : ink (a ++ b) = ink a ++ ink b := List.filter_append ..

theorem ink_eq_nil (h : ∀ c ∈ cs, isBlank c = true) : ink cs = [] := by
  rw [ink, List.filter_eq_nil_iff]
  intro c hc
  simp [h c hc]

@[simp] theorem ink_spaces (n : Nat) : ink (List.replicate n ' ') = [] := by
  apply ink_eq_nil
  intro c hc
  rw [List.eq_of_mem_replicate hc]
  rfl

theorem ink_flatten (ls : List (List Char)) : ink ls.flatten = (ls.map ink).flatten :=
  List.filter_flatten

theorem legible_nil : Legible [] := List.forall_mem_nil _

theorem legible_append : Legible (a ++ b) ↔ Legible a ∧ Legible b := by
  simp only [Legible, List.mem_append]
  constructor
  · intro h
    exact ⟨fun c hc => h c (.inl hc), fun c hc => h c (.inr hc)⟩
  · rintro ⟨ha, hb⟩ c (hc | hc)
    · exact ha c hc
    · exact hb c hc

theorem legible_cons : Legible (c :: cs) ↔ (c = '\n' ∨ isPrintable c = true) ∧ Legible cs :=
  List.forall_mem_cons

theorem Legible.of_subset (h : Legible a) (hsub : b ⊆ a) : Legible b := fun c hc => h c (hsub hc)

theorem isPrintable_blank (h : isBlank c = true) (hc : isPrintable c = true) : c = ' ' := by
  have hblank : ∀ r ∈ blankRanges, ∀ k < 12, r.1 + k ≤ r.2 →
      r.1 + k < 32 ∨ r.1 + k = 32 ∨ 128 ≤ r.1 + k ∧ within unprintableRanges (r.1 + k) = true := by
    decide +kernel
  have hshort : ∀ r ∈ blankRanges, r.2 - r.1 < 12 := by decide
  obtain ⟨r, hr, hrange⟩ := List.any_eq_true.1 h
  simp only [Bool.and_eq_true, decide_eq_true_eq] at hrange
  have hk := hblank r hr (c.toNat - r.1) (by have := hshort r hr; omega) (by omega)
  rw [Nat.add_sub_cancel' hrange.1] at hk
  unfold isPrintable at hc
  rcases hk with hlow | heq | ⟨hhigh, hwithin⟩
  · rw [if_pos (by omega)] at hc
    simp only [Bool.and_eq_true, decide_eq_true_eq] at hc
    omega
  · exact Char.toNat_inj.1 heq
  · rw [if_neg (by omega), hwithin] at hc
    cases hc

theorem Legible.not_mem (h : Legible cs) (hne : c ≠ '\n') (hc : isPrintable c = false) :
    c ∉ cs := by
  intro hmem
  rcases h c hmem with rfl | hprint
  · exact hne rfl
  · rw [hc] at hprint
    cases hprint

theorem Legible.joiner (h : Legible cs) : joiner ∉ cs := h.not_mem (by decide) (by decide +kernel)

end

section
variable {a b cs : List Char} {c : Char} {last : Option Char}

theorem widthAfter_cons (hc : c ≠ joiner) (last : Option Char) (cs : List Char) :
    widthAfter last (c :: cs) =
      if c = selector then growth last + widthAfter none cs
      else if charWidth c = 0 then widthAfter last cs
      else charWidth c + widthAfter (some c) cs := by
  rw [widthAfter.eq_def]
  exact if_neg hc

/-- Only the cells that a selector would add count of what is before a text. -/
theorem widthAfter_mono {last last' : Option Char} (h : growth last ≤ growth last')
    (cs : List Char) : widthAfter last cs ≤ widthAfter last' cs := by
  fun_induction widthAfter last cs with
  | case1 => exact Nat.zero_le _
  | case2 last => exact Nat.zero_le _
  | case3 last d ds ih => exact ih h
  | case4 last cs hj ih =>
    rw [widthAfter_cons hj, if_pos rfl]
    exact Nat.add_le_add_right h _
  | case5 last c cs hj hs hw ih =>
    rw [widthAfter_cons hj, if_neg hs, if_pos hw]
    exact ih h
  | case6 last c cs hj hs hw ih =>
    have heq := widthAfter_cons hj last' cs
    rw [if_neg hs, if_neg hw] at heq
    exact Nat.le_of_eq heq.symm

theorem widthAfter_space (cs : List Char) : widthAfter (some ' ') cs = width cs :=
  Nat.le_antisymm (widthAfter_mono (by decide) cs) (widthAfter_mono (by decide) cs)

theorem width_le_widthAfter (last : Option Char) (cs : List Char) : width cs ≤ widthAfter last cs :=
  widthAfter_mono (Nat.zero_le _) cs

/-- What a text leaves behind: the last of its characters with a width, unless a selector came
after it. -/
def lastAfter (last : Option Char) : List Char → Option Char
  | [] => last
  | c :: cs =>
    if c = selector then lastAfter none cs
    else if charWidth c = 0 then lastAfter last cs
    else lastAfter (some c) cs

theorem widthAfter_append (ha : joiner ∉ a) (last : Option Char) (b : List Char) :
    widthAfter last (a ++ b) = widthAfter last a + widthAfter (lastAfter last a) b := by
  induction a generalizing last with
  | nil => simp [widthAfter, lastAfter]
  | cons c a ih =>
    obtain ⟨hc, ha⟩ := not_or.1 (mt List.mem_cons.2 ha)
    rw [List.cons_append, widthAfter_cons (Ne.symm hc), widthAfter_cons (Ne.symm hc), lastAfter]
    simp only [ih ha]
    split
    · omega
    · split <;> omega

theorem width_add_le (ha : joiner ∉ a) (b : List Char) : width a + width b ≤ width (a ++ b) := by
  rw [width, width, width, widthAfter_append ha]
  exact Nat.add_le_add_left (width_le_widthAfter _ b) _

theorem lastAfter_append (last : Option Char) (a b : List Char) :
    lastAfter last (a ++ b) = lastAfter (lastAfter last a) b := by
  induction a generalizing last with
  | nil => rfl
  | cons c a ih =>
    simp only [List.cons_append, lastAfter, ih]
    split
    · rfl
    · split <;> rfl

theorem width_append_of_space (ha : joiner ∉ a) (hspace : a.getLast? = some ' ')
    (b : List Char) : width (a ++ b) = width a + width b := by
  obtain ⟨a, rfl⟩ := List.getLast?_eq_some_iff.1 hspace
  have hlast : lastAfter none (a ++ [' ']) = some ' ' := lastAfter_append none a [' ']
  rw [width, width, widthAfter_append ha, hlast, widthAfter_space]

theorem ne_of_charWidth (hc : charWidth c ≠ 0) : c ≠ joiner ∧ c ≠ selector := by
  constructor
  · rintro rfl
    exact hc charWidth_joiner
  · rintro rfl
    exact hc charWidth_selector

theorem widthAfter_of_cells (h : ∀ c ∈ cs, charWidth c = 1) (last : Option Char) :
    widthAfter last cs = cs.length := by
  induction cs generalizing last with
  | nil => rfl
  | cons c cs ih =>
    obtain ⟨hc, hcs⟩ := List.forall_mem_cons.1 h
    have hne : charWidth c ≠ 0 := by
      rw [hc]
      exact Nat.one_ne_zero
    obtain ⟨hjoiner, hselector⟩ := ne_of_charWidth hne
    rw [widthAfter_cons hjoiner, if_neg hselector, if_neg hne, ih hcs, hc, List.length_cons,
      Nat.add_comm]

theorem width_of_cells (h : ∀ c ∈ cs, charWidth c = 1) : width cs = cs.length :=
  widthAfter_of_cells h none

@[simp] theorem widthAfter_spaces (last : Option Char) (n : Nat) :
    widthAfter last (List.replicate n ' ') = n := by
  rw [widthAfter_of_cells, List.length_replicate]
  intro c hc
  rw [List.eq_of_mem_replicate hc]
  decide

@[simp] theorem width_spaces (n : Nat) : width (List.replicate n ' ') = n := widthAfter_spaces _ n

theorem width_append_spaces (ha : joiner ∉ a) (n : Nat) :
    width (a ++ List.replicate n ' ') = width a + n := by
  rw [width, widthAfter_append ha, widthAfter_spaces, width]

end

theorem charWidth_le (c : Char) : charWidth c ≤ 2 := by
  unfold charWidth
  dsimp only
  split_ifs <;> decide

theorem growth_le (last : Option Char) : growth last ≤ 1 := by
  unfold growth
  split <;> decide

section
variable {P : Option Char → Prop} {g : Cluster} {gs : List Cluster} {a b cs : List Char} {c : Char}
  {last : Option Char}

/-- What is known of a cluster while it grows, behind texts that leave behind what `P` says. -/
structure Cluster.Tracks (P : Option Char → Prop) (g : Cluster) (last : Option Char) : Prop where
  joiner : joiner ∉ g.text
  le : g.width + growth last ≤ 3
  width : ∀ before, P before → widthAfter before g.text = g.width
  last : ∀ before, P before → lastAfter before g.text = last

def Cluster.Whole (g : Cluster) : Prop :=
  0 < g.width ∧ ∃ last, g.Tracks (fun _ => True) last

theorem Cluster.Tracks.extend (h : g.Tracks P last) (hc : c ≠ Text.joiner) {n : Nat}
    {next : Option Char} (hle : g.width + n + growth next ≤ 3)
    (hwidth : widthAfter last [c] = n) (hnext : lastAfter last [c] = next) :
    (g.extend [c] n).Tracks P next where
  joiner := by simp [Cluster.extend, h.joiner, Ne.symm hc]
  le := hle
  width := by
    intro before hbefore
    rw [Cluster.extend, widthAfter_append h.joiner, h.width _ hbefore, h.last _ hbefore, hwidth]
  last := by
    intro before hbefore
    rw [Cluster.extend, lastAfter_append, h.last _ hbefore, hnext]

theorem Cluster.tracks_singleton (hc : charWidth c ≠ 0) :
    Cluster.Tracks (fun _ => True) ⟨[c], charWidth c⟩ (some c) := by
  obtain ⟨hjoiner, hselector⟩ := ne_of_charWidth hc
  refine ⟨by simpa using Ne.symm hjoiner, ?_, ?_, ?_⟩
  · exact Nat.add_le_add (charWidth_le c) (growth_le _)
  · intro before _
    rw [widthAfter_cons hjoiner, if_neg hselector, if_neg hc]
    rfl
  · intro before _
    simp [lastAfter, hselector, hc]

theorem clustersAfter_tracks (hcs : joiner ∉ cs) (hg : g.Tracks P last) :
    ∃ h hs last', clustersAfter g last cs = h :: hs ∧ h.Tracks P last' ∧ g.width ≤ h.width ∧
      g.text <+: h.text ∧ ∀ k ∈ hs, k.Whole := by
  induction cs generalizing P g last with
  | nil => exact ⟨g, [], last, rfl, hg, Nat.le_refl _, List.prefix_refl _, by simp⟩
  | cons c cs ih =>
    obtain ⟨hjoiner, hrest⟩ := not_or.1 (mt List.mem_cons.2 hcs)
    have hne := Ne.symm hjoiner
    have hextend {n : Nat} {next : Option Char} (hgrown : (g.extend [c] n).Tracks P next) :
        ∃ h hs last', clustersAfter (g.extend [c] n) next cs = h :: hs ∧ h.Tracks P last' ∧
          g.width ≤ h.width ∧ g.text <+: h.text ∧ ∀ k ∈ hs, k.Whole := by
      obtain ⟨h, hs, last', heq, htracks, hle, hprefix, hwhole⟩ := ih hrest hgrown
      exact ⟨h, hs, last', heq, htracks, Nat.le_trans (Nat.le_add_right ..) hle,
        (List.prefix_append ..).trans hprefix, hwhole⟩
    rw [clustersAfter.eq_def]
    simp only [if_neg hne]
    split
    · rename_i hselector
      have hwidth : widthAfter last [c] = growth last := by
        rw [widthAfter_cons hne, if_pos hselector]
        rfl
      exact hextend (hg.extend hne hg.le hwidth (if_pos hselector))
    · rename_i hselector
      split
      · rename_i hzero
        have hwidth : widthAfter last [c] = 0 := by
          rw [widthAfter_cons hne, if_neg hselector, if_pos hzero]
          rfl
        have hlast : lastAfter last [c] = last := by simp [lastAfter, hselector, hzero]
        exact hextend (hg.extend hne hg.le hwidth hlast)
      · rename_i hpos
        obtain ⟨h, hs, last', heq, htracks, hle, -, hwhole⟩ :=
          ih hrest (Cluster.tracks_singleton hpos)
        have hwidth : 0 < h.width := Nat.lt_of_lt_of_le (Nat.pos_of_ne_zero hpos) hle
        refine ⟨g, h :: hs, last, by rw [heq], hg, Nat.le_refl _, List.prefix_refl _, ?_⟩
        exact List.forall_mem_cons.2 ⟨⟨hwidth, last', htracks⟩, hwhole⟩

/-- The clusters of a text: only the first one may have no cell of its own. -/
theorem clusters_tracks (hcs : joiner ∉ c :: cs) :
    ∃ g gs last, clusters (c :: cs) = g :: gs ∧ g.Tracks (· = none) last ∧ g.text ≠ [] ∧
      ∀ k ∈ gs, k.Whole := by
  obtain ⟨hjoiner, hrest⟩ := not_or.1 (mt List.mem_cons.2 hcs)
  have hne := Ne.symm hjoiner
  have hfirst : Cluster.Tracks (· = none) ⟨[c], charWidth c⟩
      (if charWidth c = 0 then none else some c) := by
    refine ⟨by simpa using hjoiner, Nat.add_le_add (charWidth_le c) (growth_le _), ?_, ?_⟩
    · rintro _ rfl
      rw [widthAfter_cons hne]
      split
      · rename_i hselector
        rw [hselector, charWidth_selector]
        rfl
      · split
        · rename_i hzero
          exact hzero.symm
        · rfl
    · rintro _ rfl
      simp only [lastAfter]
      split
      · rename_i hselector
        rw [hselector, if_pos charWidth_selector]
      · rfl
  obtain ⟨h, hs, last', heq, htracks, -, hprefix, hwhole⟩ := clustersAfter_tracks hrest hfirst
  refine ⟨h, hs, last', heq, htracks, ?_, hwhole⟩
  intro hnil
  rw [hnil] at hprefix
  cases List.prefix_nil.1 hprefix

theorem Cluster.Whole.ne_nil (h : g.Whole) : g.text ≠ [] := by
  obtain ⟨hpos, last, htracks⟩ := h
  intro hnil
  have hwidth := htracks.width none trivial
  rw [hnil] at hwidth
  exact Nat.ne_of_lt hpos hwidth

theorem width_append_whole (ha : joiner ∉ a) (hg : g.Whole) :
    width (a ++ g.text) = width a + g.width := by
  obtain ⟨-, last, htracks⟩ := hg
  rw [width, widthAfter_append ha, htracks.width _ trivial, width]

theorem chop_whole {w : Nat} {piece : List Char} (hgs : ∀ k ∈ gs, k.Whole) (hw : 3 ≤ w)
    (hpiece : piece ≠ []) (hjoiner : joiner ∉ piece) (hle : width piece ≤ w) :
    ∀ p ∈ chop w piece (width piece) gs, p ≠ [] ∧ width p ≤ w := by
  induction gs generalizing piece with
  | nil => simpa [chop] using ⟨hpiece, hle⟩
  | cons g gs ih =>
    obtain ⟨hg, hgs⟩ := List.forall_mem_cons.1 hgs
    obtain ⟨-, last, htracks⟩ := id hg
    rw [chop]
    split
    · have hwidth : width g.text = g.width := htracks.width none trivial
      rw [← hwidth, List.forall_mem_cons]
      refine ⟨⟨hpiece, hle⟩, ih hgs hg.ne_nil htracks.joiner ?_⟩
      have := htracks.le
      omega
    · rename_i hfits
      rw [← width_append_whole hjoiner hg]
      refine ih hgs (by simp [hpiece]) ?_ ?_
      · simp [hjoiner, htracks.joiner]
      · rw [width_append_whole hjoiner hg]
        omega

theorem chop_clusters {w : Nat} (hw : 3 ≤ w) (hcs : joiner ∉ cs) (hne : cs ≠ []) :
    ∀ p ∈ chop w [] 0 (clusters cs), p ≠ [] ∧ width p ≤ w := by
  obtain ⟨c, cs, rfl⟩ := List.exists_cons_of_ne_nil hne
  obtain ⟨g, gs, last, heq, htracks, hnil, hwhole⟩ := clusters_tracks hcs
  have hle := htracks.le
  have hwidth : width g.text = g.width := htracks.width none rfl
  rw [heq, chop, if_neg (by omega), List.nil_append, Nat.zero_add, ← hwidth]
  exact chop_whole hwhole hw hnil htracks.joiner (by omega)

theorem clustersAfter_of_width (hc : charWidth c ≠ 0) (cs : List Char) :
    clustersAfter g last (c :: cs) = g :: clusters (c :: cs) := by
  obtain ⟨hjoiner, hselector⟩ := ne_of_charWidth hc
  rw [clustersAfter.eq_def, clusters]
  simp only [if_neg hjoiner, if_neg hselector, if_neg hc]

theorem clustersAfter_append_space (hcs : joiner ∉ cs) (b : List Char) :
    clustersAfter g last (cs ++ ' ' :: b) = clustersAfter g last cs ++ clusters (' ' :: b) := by
  induction cs generalizing g last with
  | nil => exact clustersAfter_of_width (by decide) b
  | cons c cs ih =>
    obtain ⟨hjoiner, hcs⟩ := not_or.1 (mt List.mem_cons.2 hcs)
    rw [List.cons_append, clustersAfter.eq_def g last (c :: (cs ++ _)),
      clustersAfter.eq_def g last (c :: cs)]
    simp only [if_neg (Ne.symm hjoiner), ih hcs]
    split
    · rfl
    · split <;> rfl

theorem clusters_spaces (n : Nat) :
    clusters (List.replicate n ' ') = List.replicate n ⟨[' '], 1⟩ := by
  induction n with
  | zero => rfl
  | succ n ih =>
    rw [List.replicate_succ, List.replicate_succ, ← ih]
    cases n with
    | zero => rfl
    | succ n => exact clustersAfter_of_width (by decide) _

theorem clusters_append_spaces (hcs : joiner ∉ cs) (n : Nat) :
    clusters (cs ++ List.replicate n ' ') = clusters cs ++ List.replicate n ⟨[' '], 1⟩ := by
  cases n with
  | zero => rw [List.replicate_zero, List.append_nil]; exact (List.append_nil _).symm
  | succ n =>
    rw [← clusters_spaces, List.replicate_succ]
    cases cs with
    | nil => rfl
    | cons c cs =>
      exact clustersAfter_append_space (not_or.1 (mt List.mem_cons.2 hcs)).2 _

theorem cutClusters_spaces (w n : Nat) :
    cutClusters w (List.replicate n ⟨[' '], 1⟩) = List.replicate (min w n) ' ' := by
  induction n generalizing w with
  | zero => rw [Nat.min_zero]; rfl
  | succ n ih =>
    rw [List.replicate_succ, cutClusters]
    cases w with
    | zero => rw [Nat.zero_min]; rfl
    | succ w =>
      rw [if_neg (Nat.succ_ne_zero w), if_pos (Nat.le_add_left 1 w), ih, Nat.add_sub_cancel,
        Nat.succ_min_succ]
      rfl

theorem cutClusters_whole {w : Nat} (hgs : ∀ k ∈ gs, k.Whole) (hle : (gs.map (·.width)).sum ≤ w)
    (rest : List Cluster) : cutClusters w (gs ++ rest) =
      gs.flatMap (·.text) ++ cutClusters (w - (gs.map (·.width)).sum) rest := by
  induction gs generalizing w with
  | nil => rfl
  | cons g gs ih =>
    obtain ⟨⟨hpos, -⟩, hgs⟩ := List.forall_mem_cons.1 hgs
    rw [List.map_cons, List.sum_cons] at hle
    rw [List.cons_append, cutClusters, if_neg (by omega), if_pos (by omega), ih hgs (by omega),
      List.map_cons, List.sum_cons, Nat.sub_sub, List.flatMap_cons, List.append_assoc]

theorem width_append_flatMap (ha : joiner ∉ a) (hgs : ∀ k ∈ gs, k.Whole) :
    width (a ++ gs.flatMap (·.text)) = width a + (gs.map (·.width)).sum := by
  induction gs generalizing a with
  | nil => simp
  | cons g gs ih =>
    obtain ⟨hg, hgs⟩ := List.forall_mem_cons.1 hgs
    obtain ⟨-, last, htracks⟩ := id hg
    rw [List.flatMap_cons, ← List.append_assoc, ih (by simp [ha, htracks.joiner]) hgs,
      width_append_whole ha hg, List.map_cons, List.sum_cons, Nat.add_assoc]

/-- A text that fits apart from spaces behind it loses only some of these. -/
theorem sized_spaces {w n : Nat} (hw : 0 < w) (hcs : joiner ∉ cs) (hle : width cs ≤ w)
    (hlong : w < width (cs ++ List.replicate n ' ')) :
    sized w (cs ++ List.replicate n ' ') = cs ++ List.replicate (w - width cs) ' ' := by
  rw [sized, if_neg (Nat.not_le.2 hlong), clusters_append_spaces hcs]
  rw [width_append_spaces hcs] at hlong
  cases cs with
  | nil =>
    have hn : w ≤ n := by simpa using Nat.le_of_lt hlong
    exact (cutClusters_spaces w n).trans (by rw [Nat.min_eq_left hn]; rfl)
  | cons c cs =>
    obtain ⟨g, gs, last, heq, htracks, -, hwhole⟩ := clusters_tracks hcs
    have htext : g.text ++ gs.flatMap (·.text) = c :: cs := by
      rw [← flatMap_clusters (c :: cs), heq, List.flatMap_cons]
    have hwidth : g.width + (gs.map (·.width)).sum = width (c :: cs) := by
      rw [← htext, width_append_flatMap htracks.joiner hwhole, width, htracks.width none rfl]
    rw [heq, List.cons_append, cutClusters, if_neg (Nat.ne_of_gt hw), if_pos (by omega),
      cutClusters_whole hwhole (by omega), cutClusters_spaces, ← List.append_assoc, htext,
      Nat.sub_sub, hwidth, Nat.min_eq_left (by omega)]

end

end Mend.Text
