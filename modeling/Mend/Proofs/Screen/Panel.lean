import Mathlib.Data.List.Flatten
import Mend.Proofs.Screen.Wrapping
import Mend.Screen.Panel
import Mend.Screen.Plain

namespace Mend

open Text

namespace StyledText

theorem plain_runsBetween (t : StyledText) {a b : Nat} {places : List Nat}
    (h : List.Pairwise (· < ·) (a :: places)) (hlast : (a :: places).getLast? = some b) :
    (t.runsBetween (a :: places)).plain = (t.text.take b).drop a := by
  induction places generalizing a with
  | nil =>
    obtain rfl : a = b := Option.some.inj hlast
    exact (List.drop_eq_nil_of_le (List.length_take_le ..)).symm
  | cons c places ih =>
    obtain ⟨hac, hrest⟩ := List.pairwise_cons.1 h
    have hle : a ≤ c := Nat.le_of_lt (hac c List.mem_cons_self)
    have hlast : (c :: places).getLast? = some b := hlast
    have hcb : c ≤ b := by
      rcases List.mem_cons.1 (List.mem_of_getLast? hlast) with rfl | hmem
      · exact Nat.le_refl _
      · exact Nat.le_of_lt ((List.pairwise_cons.1 hrest).1 b hmem)
    have hfirst : t.text.take c = (t.text.take b).take c := by
      rw [List.take_take, Nat.min_eq_left hcb]
    rw [runsBetween, Runs.plain, List.flatMap_cons, ← Runs.plain, ih hrest hlast, hfirst]
    generalize t.text.take b = cs
    conv_rhs => rw [← List.take_append_drop c cs, List.drop_append]
    congr 1
    rcases Nat.le_total c cs.length with hlong | hshort
    · rw [List.length_take, Nat.min_eq_left hlong, Nat.sub_eq_zero_of_le hle, List.drop_zero]
    · rw [List.drop_eq_nil_of_le hshort, List.drop_nil]

theorem plain_runs (t : StyledText) : t.runs.plain = t.text := by
  have hrising : t.edges.Pairwise (· < ·) := List.Pairwise.filter _ List.pairwise_lt_range
  obtain ⟨places, hplaces⟩ : ∃ places, t.edges = 0 :: places := by
    rw [edges, List.range_succ_eq_map]
    exact ⟨_, List.filter_cons_of_pos rfl⟩
  have hlast : t.edges.getLast? = some t.text.length := by
    rw [edges, List.range_succ, List.filter_append, List.getLast?_append,
      List.filter_cons_of_pos (by simp)]
    rfl
  rw [hplaces] at hrising hlast
  rw [runs, hplaces, plain_runsBetween t hrising hlast, List.take_length, List.drop_zero]

theorem All.styleAt {t : StyledText} (h : t.All (·.link = none)) (n : Nat) :
    (t.styleAt n).link = none := by
  have hfold (spans : List Span) (style : Style) (hspans : ∀ s ∈ spans, s.style.link = none)
      (hstyle : style.link = none) :
      (spans.foldl (fun s p => if p.start ≤ n && n < p.stop then p.style.onto s else s)
        style).link = none := by
    induction spans generalizing style with
    | nil => exact hstyle
    | cons p spans ih =>
      obtain ⟨hp, hspans⟩ := List.forall_mem_cons.1 hspans
      refine ih _ hspans ?_
      dsimp only
      split
      · rw [Style.onto, hp, hstyle]
        rfl
      · exact hstyle
  exact hfold t.spans .none h rfl

theorem All.runs {t : StyledText} (h : t.All (·.link = none)) :
    ∀ r ∈ t.runs, r.style.link = none := by
  unfold StyledText.runs
  generalize t.edges = places
  induction places with
  | nil => exact List.forall_mem_nil _
  | cons a places ih =>
    cases places with
    | nil => exact List.forall_mem_nil _
    | cons b places => exact List.forall_mem_cons.2 ⟨h.styleAt a, ih⟩

end StyledText

namespace Runs

structure Clear (rs : Runs) : Prop where
  print : ∀ c ∈ rs.plain, isPrintable c = true
  links : ∀ r ∈ rs, r.style.link = none

section
variable {rs rs' : Runs} {style : Style} {cs : List Char} {w n : Nat}

theorem clear_append : Clear (rs ++ rs') ↔ Clear rs ∧ Clear rs' := by
  constructor
  · rintro ⟨hprint, hlinks⟩
    rw [plain_append, List.forall_mem_append] at hprint
    rw [List.forall_mem_append] at hlinks
    exact ⟨⟨hprint.1, hlinks.1⟩, ⟨hprint.2, hlinks.2⟩⟩
  · rintro ⟨⟨hprint, hlinks⟩, ⟨hprint', hlinks'⟩⟩
    refine ⟨?_, List.forall_mem_append.2 ⟨hlinks, hlinks'⟩⟩
    rw [plain_append]
    exact List.forall_mem_append.2 ⟨hprint, hprint'⟩

theorem clear_cons {r : Run} : Clear (r :: rs) ↔ Clear [r] ∧ Clear rs := @clear_append [r] rs

theorem clear_single (hlink : style.link = none) (h : ∀ c ∈ cs, isPrintable c = true) :
    Clear [⟨style, cs⟩] where
  print := by simpa [plain] using h
  links := by simpa using hlink

theorem clear_blanks (hlink : style.link = none) (n : Nat) : Clear [blanks style n] := by
  apply clear_single hlink
  intro c hc
  rw [List.eq_of_mem_replicate hc]
  decide

theorem Clear.legible (h : Clear rs) : Legible rs.plain := fun c hc => .inr (h.print c hc)

theorem Clear.joiner (h : Clear rs) : joiner ∉ rs.plain := h.legible.joiner

theorem plain_cons (r : Run) (rs : Runs) : plain (r :: rs) = r.text ++ plain rs := rfl

/-- Runs side by side take no more cells than their text at one go. -/
theorem width_le (h : joiner ∉ rs.plain) : width rs ≤ Text.width rs.plain := by
  induction rs with
  | nil => exact Nat.le_refl _
  | cons r rs ih =>
    rw [plain_cons, List.mem_append, not_or] at h
    rw [width, plain_cons]
    exact Nat.le_trans (Nat.add_le_add_left (ih h.2) _) (width_add_le h.1 _)

theorem width_append (a b : Runs) : width (a ++ b) = width a + width b := by
  induction a with
  | nil => exact (Nat.zero_add _).symm
  | cons r a ih => rw [List.cons_append, width, width, ih, Nat.add_assoc]

theorem width_blanks (style : Style) (n : Nat) : (blanks style n).width = n := width_spaces n

theorem fitted_of_le (h : width rs ≤ w) :
    width (fitted w rs) = w ∧ ∃ n, plain (fitted w rs) = plain rs ++ List.replicate n ' ' := by
  unfold fitted
  split
  · refine ⟨?_, w - width rs, ?_⟩
    · rw [width_append, width, width_blanks]
      exact Nat.add_sub_of_le h
    · rw [plain_append]
      exact congrArg _ (List.append_nil _)
  · rename_i hfull
    rw [cropped, if_neg (Nat.not_lt.2 h)]
    exact ⟨Nat.le_antisymm h (Nat.not_lt.1 hfull), 0, (List.append_nil _).symm⟩

theorem cropped_of_le (h : width rs ≤ w) : cropped w rs = rs := if_neg (Nat.not_lt.2 h)

theorem clear_runs {t : StyledText} (h : t.All (·.link = none))
    (hprint : ∀ c ∈ t.text, isPrintable c = true) : Clear t.runs where
  print := by rwa [StyledText.plain_runs]
  links := h.runs

theorem Clear.fitted_of_le (h : Clear rs) (hle : width rs ≤ w) : Clear (fitted w rs) := by
  unfold fitted
  split
  · exact clear_append.2 ⟨h, clear_blanks rfl _⟩
  · rwa [cropped_of_le hle]

theorem mem_sized {c : Char} (h : c ∈ Text.sized w cs) : c ∈ cs ∨ c = ' ' := by
  have hcut (gs : List Cluster) (w : Nat) (h : c ∈ Text.cutClusters w gs) :
      c ∈ gs.flatMap (·.text) ∨ c = ' ' := by
    induction gs generalizing w with
    | nil => cases h
    | cons g gs ih =>
      rw [List.flatMap_cons, List.mem_append]
      rw [Text.cutClusters] at h
      split at h
      · cases h
      · split at h
        · rcases List.mem_append.1 h with h | h
          · exact .inl (.inl h)
          · exact (ih _ h).imp .inr id
        · exact .inr (List.mem_singleton.1 h)
  unfold Text.sized at h
  split at h
  · exact (List.mem_append.1 h).imp id List.eq_of_mem_replicate
  · exact flatMap_clusters cs ▸ hcut _ _ h

theorem Clear.cropped (h : Clear rs) (w : Nat) : Clear (cropped w rs) := by
  have hcut (rs : Runs) (h : Clear rs) (w : Nat) : Clear (cut w rs) := by
    induction rs generalizing w with
    | nil => exact h
    | cons r rs ih =>
      obtain ⟨hr, hrs⟩ := clear_cons.1 h
      unfold Runs.cut
      split
      · exact clear_cons.2 ⟨hr, ih hrs _⟩
      · refine clear_single (hr.links r (List.mem_singleton_self r)) fun c hc => ?_
        rcases mem_sized hc with hc | rfl
        · exact hr.print c (List.mem_append_left _ hc)
        · decide
  unfold Runs.cropped
  split
  · exact hcut rs h w
  · exact h

end

section
variable {rs : Runs} {cs : List Char}

theorem strip_parameters (h : ∀ c ∈ cs, Plain.isParameter c = true) {begun : List Char}
    (hbegun : begun.any Plain.isIntermediate = false) (rest : List Char) :
    Plain.strip ('\x1b' :: '[' :: begun) (cs ++ 'm' :: rest) = Plain.strip [] rest := by
  induction cs generalizing begun with
  | nil => rfl
  | cons c cs ih =>
    obtain ⟨hc, hcs⟩ := List.forall_mem_cons.1 h
    have hlow : ¬ Plain.isIntermediate c = true := by
      intro hlow
      simp only [Plain.isIntermediate, Plain.isParameter, Bool.and_eq_true,
        decide_eq_true_eq] at hlow hc
      exact absurd (Char.le_trans hc.1 hlow.2) (by decide)
    have hgoes : Plain.goesOn ('\x1b' :: '[' :: begun) c = true := by
      have hany : ('\x1b' :: '[' :: begun).any Plain.isIntermediate = false := hbegun
      simp [Plain.goesOn, hc, hany]
    rw [List.cons_append, Plain.strip, if_pos hgoes]
    refine ih hcs ?_
    simp [hbegun, hlow]

theorem mem_intercalate {sep : String} {ls : List String} {c : Char}
    (h : c ∈ (sep.intercalate ls).toList) : c ∈ sep.toList ∨ ∃ l ∈ ls, c ∈ l.toList := by
  induction ls with
  | nil => cases h
  | cons l ls ih =>
    cases ls with
    | nil =>
      rw [String.intercalate_singleton] at h
      exact .inr ⟨l, List.mem_cons_self, h⟩
    | cons l' ls =>
      rw [String.intercalate_cons_cons, String.toList_append, String.toList_append] at h
      rcases List.mem_append.1 h with h | h
      · rcases List.mem_append.1 h with h | h
        · exact .inr ⟨l, List.mem_cons_self, h⟩
        · exact .inl h
      · exact (ih h).imp id fun ⟨l, hl, hc⟩ => ⟨l, List.mem_cons_of_mem _ hl, hc⟩

theorem strip_escape {codes : List String}
    (h : ∀ code ∈ codes, ∀ c ∈ code.toList, Plain.isParameter c = true) (rest : List Char) :
    Plain.strip [] (Run.escape codes ++ rest) = Plain.strip [] rest := by
  have hall : ∀ c ∈ (";".intercalate codes).toList, Plain.isParameter c = true := by
    intro c hc
    rcases mem_intercalate hc with hc | ⟨code, hcode, hc⟩
    · rw [List.mem_singleton.1 hc]
      rfl
    · exact h code hcode c hc
  rw [Run.escape, List.append_assoc]
  exact strip_parameters hall rfl rest

theorem isParameter_of_mem_codes {style : Style} : ∀ code ∈ style.codes, ∀ c ∈ code.toList,
    Plain.isParameter c = true := by
  have hnat (n : Nat) : ∀ c ∈ (toString n).toList, Plain.isParameter c = true := by
    intro c hc
    have hdigit : c ∈ Nat.toDigits 10 n := by simpa using hc
    have hdigit := Nat.isDigit_of_mem_toDigits (by decide) (by decide) hdigit
    simp only [Char.isDigit, Bool.and_eq_true, decide_eq_true_eq] at hdigit
    simp only [Plain.isParameter, Bool.and_eq_true, decide_eq_true_eq]
    exact ⟨hdigit.1, Char.le_trans hdigit.2 (by decide)⟩
  have hattribute : ∀ a : Attribute, ∀ c ∈ a.code.toList, Plain.isParameter c = true := by
    intro a
    cases a <;> exact List.all_eq_true.1 rfl
  intro code hcode
  simp only [Style.codes, List.mem_append, List.mem_map, Option.mem_toList, Option.map_eq_some_iff]
    at hcode
  rcases hcode with (⟨a, -, rfl⟩ | ⟨c, -, rfl⟩) | ⟨c, -, rfl⟩
  · exact hattribute a
  · exact hnat _
  · exact hnat _

theorem Clear.strip_shown (h : Clear rs) (rest : List Char) :
    Plain.strip [] (shown rs ++ rest) = plain rs ++ Plain.strip [] rest := by
  induction rs with
  | nil => rfl
  | cons r rs ih =>
    obtain ⟨hr, hrs⟩ := clear_cons.1 h
    have htext : '\x1b' ∉ r.text := by
      have hplain := hr.legible.not_mem (c := '\x1b') (by decide) (by decide)
      exact fun hmem => hplain (List.mem_append_left _ hmem)
    have hlink := hr.links r (List.mem_singleton_self r)
    rw [shown, List.flatMap_cons, List.append_assoc, plain_cons, List.append_assoc, ← ih hrs,
      ← shown]
    unfold Run.shown
    split
    · rename_i hempty
      rw [List.isEmpty_iff.1 hempty]
      rfl
    · rw [hlink]
      dsimp only
      split
      · exact Plain.strip_append htext _
      · rw [List.append_assoc, List.append_assoc, strip_escape isParameter_of_mem_codes,
          Plain.strip_append htext,
          strip_escape (List.forall_mem_singleton.2 (List.all_eq_true.1 rfl))]

def seen (s : String) : List Line := (Lines.split '\n' (Plain.strip [] s.toList)).dropLast

theorem seen_text {w : Nat} {ls : List Runs} (h : ∀ l ∈ ls, Clear l) :
    seen (text w ls) = ls.map fun l => plain (cropped w l) := by
  have hsplit : Lines.split '\n' (Plain.strip [] (text w ls).toList) =
      (ls.map fun l => plain (cropped w l)) ++ [[]] := by
    rw [text, String.toList_ofList]
    induction ls with
    | nil => rfl
    | cons l ls ih =>
      obtain ⟨hl, hls⟩ := List.forall_mem_cons.1 h
      have hclear := hl.cropped w
      have hline : '\n' ∉ plain (cropped w l) := by
        intro hmem
        exact absurd (hclear.print _ hmem) (by decide)
      have hend (rest : List Char) : Plain.strip [] ('\n' :: rest) = '\n' :: Plain.strip [] rest :=
        rfl
      rw [List.flatMap_cons, List.append_assoc, hclear.strip_shown, List.singleton_append, hend,
        Lines.split_append_sep, Lines.split_eq_singleton hline, ih hls]
      rfl
  rw [seen, hsplit, List.dropLast_concat]

/-- What is seen of runs in `w` cells. -/
def padded (w : Nat) (rs : Runs) : Line := plain (fitted w rs)

theorem ink_padded {w : Nat} {ls : List Runs} (h : ∀ l ∈ ls, width l ≤ w) :
    ink (ls.map (padded w)).flatten = ink (ls.flatMap plain) := by
  rw [List.flatMap_def, ink_flatten, ink_flatten, List.map_map, List.map_map]
  congr 1
  apply List.map_congr_left
  intro l hl
  obtain ⟨-, n, heq⟩ := fitted_of_le (h l hl)
  rw [Function.comp, padded, heq, ink_append, ink_spaces, List.append_nil]
  rfl

theorem map_padded {w : Nat} {ls : List Runs} (h : ∀ l ∈ ls, width l = w) :
    ls.map (padded w) = ls.map plain := by
  apply List.map_congr_left
  intro l hl
  have hwidth := h l hl
  rw [padded, fitted, if_neg (Nat.not_lt.2 (Nat.le_of_eq hwidth.symm)),
    cropped_of_le (Nat.le_of_eq hwidth)]

end

end Runs

namespace StyledText

structure Clear (t : StyledText) : Prop where
  print : ∀ c ∈ t.text, isPrintable c = true
  links : t.All (·.link = none)

section
variable {t u : StyledText}

theorem Clear.append (ht : t.Clear) (hu : u.Clear) : (t.append u).Clear :=
  ⟨List.forall_mem_append.2 ⟨ht.print, hu.print⟩, ht.links.append hu.links⟩

theorem Clear.on {style : Style} (ht : t.Clear) (h : style.link = none) : (t.on style).Clear :=
  ⟨ht.print, ht.links.on h⟩

theorem Clear.take (ht : t.Clear) (n : Nat) : (t.take n).Clear where
  print := by
    rw [text_take]
    exact fun c hc => ht.print c (List.mem_of_mem_take hc)
  links := ht.links.take n

theorem Clear.truncate (ht : t.Clear) (w : Nat) : (t.truncate .fold w).Clear := by
  unfold StyledText.truncate
  split
  · exact ht
  · refine ⟨fun c hc => ?_, ht.links.retext _⟩
    rcases Runs.mem_sized hc with hc | rfl
    · exact ht.print c hc
    · decide

theorem clear_blanks (n : Nat) : (blanks n).Clear where
  print := by
    intro c hc
    rw [List.eq_of_mem_replicate hc]
    decide
  links := List.forall_mem_nil _

theorem Clear.runs (ht : t.Clear) : Runs.Clear t.runs := Runs.clear_runs ht.links ht.print

end

end StyledText

namespace Panel

section
variable {border : Style} {title : Option StyledText} {line : Runs} {ls : List Runs} {w n : Nat}

def inside (ls : List Line) : List Line :=
  ls.tail.dropLast.map fun l => (l.drop 2).dropLast.dropLast

theorem inside_sublist (ls : List Line) : (inside ls).flatten.Sublist ls.flatten := by
  have hsides (l : Line) : (((l.drop 2).dropLast).dropLast).Sublist l :=
    ((List.dropLast_sublist _).trans (List.dropLast_sublist _)).trans (List.drop_sublist 2 l)
  have hlines : ls.tail.dropLast.Sublist ls := (List.dropLast_sublist _).trans (List.tail_sublist ls)
  rw [inside, ← List.flatMap_def, ← List.flatMap_id]
  exact (List.Sublist.flatMap_right _ fun l _ => hsides l).trans (hlines.flatMap id)

theorem isPrintable_rule {c : Char} (h : c ∈ rule n) : isPrintable c = true := by
  rw [List.eq_of_mem_replicate h]
  decide +kernel

theorem clear_border {cs : List Char} (hborder : border.link = none)
    (h : cs.all isPrintable = true) : Runs.Clear [⟨border, cs⟩] :=
  Runs.clear_single hborder (List.all_eq_true.1 h)

theorem clear_edge {c d : Char} (hborder : border.link = none) (hc : isPrintable c = true)
    (hd : isPrintable d = true) (n : Nat) : Runs.Clear [⟨border, c :: rule n ++ [d]⟩] := by
  apply Runs.clear_single hborder
  intro e he
  rcases List.mem_append.1 he with he | he
  · rcases List.mem_cons.1 he with rfl | he
    · exact hc
    · exact isPrintable_rule he
  · rwa [List.mem_singleton.1 he]

theorem clear_titleRuns {t : StyledText} (hborder : border.link = none)
    (htext : Legible t.text) (hlinks : t.All (·.link = none)) (w : Nat) :
    Runs.Clear (titleRuns border w t) := by
  have hflat : (t.retext (t.text.map fun c => if c = '\n' then ' ' else c)).Clear := by
    refine ⟨fun c hc => ?_, hlinks.retext _⟩
    obtain ⟨d, hd, rfl⟩ := List.mem_map.1 hc
    split
    · decide
    · rename_i hline
      exact (htext d hd).resolve_left hline
  have hrest (n : Nat) : ((StyledText.mk (rule n) []).on border).Clear :=
    StyledText.Clear.on ⟨fun c hc => isPrintable_rule hc, List.forall_mem_nil _⟩ hborder
  have hcut {edge : StyledText} (h : edge.Clear) : Runs.Clear
      ((edge.dropExcess (w - frameWidth)).truncate .fold (w - frameWidth)).runs :=
    ((h.take _).truncate _).runs
  simp only [titleRuns]
  generalize t.retext (t.text.map fun c => if c = '\n' then ' ' else c) = flat at hflat ⊢
  rw [StyledText.untab_eq_self hflat.print]
  have hpadded := ((StyledText.clear_blanks 1).append hflat).append (StyledText.clear_blanks 1)
  have hkept := (hpadded.on hborder).truncate (w - frameWidth)
  split
  · exact hcut (hkept.append (hrest _))
  · exact hcut hkept

theorem plain_row (border : Style) (w : Nat) (line : Runs) : Runs.plain (row border w line) =
    '│' :: ' ' :: (Runs.padded (w - frameWidth) line ++ [' ', '│']) := by
  simp [row, Runs.padded, Runs.plain, Runs.blanks]

theorem width_row (hw : frameWidth ≤ w) (h : Runs.width line ≤ w - frameWidth) :
    Runs.width (row border w line) = w := by
  obtain ⟨hfitted, -⟩ := Runs.fitted_of_le h
  have hside : Text.width ['│'] = 1 :=
    Text.width_of_cells (List.forall_mem_singleton.2 (by decide +kernel))
  rw [row, List.cons_append, Runs.width, List.cons_append, Runs.width, Runs.width_append,
    Runs.width, Runs.width, Runs.width, hfitted, Runs.width_blanks, Run.width, hside]
  unfold frameWidth at hw ⊢
  omega

theorem clear_row (hborder : border.link = none) (hline : Runs.Clear line)
    (h : Runs.width line ≤ w - frameWidth) : Runs.Clear (row border w line) := by
  have hside : Runs.Clear [⟨border, ['│']⟩] := clear_border hborder (by decide +kernel)
  have hblank := @Runs.clear_blanks .none rfl 1
  have hfitted := hline.fitted_of_le h
  exact Runs.clear_append.2 ⟨Runs.clear_cons.2 ⟨hside, Runs.clear_cons.2 ⟨hblank, hfitted⟩⟩,
    Runs.clear_cons.2 ⟨hblank, hside⟩⟩

theorem clear_frame (hborder : border.link = none)
    (htitle : ∀ t, title = some t → Legible t.text ∧ t.All (·.link = none))
    (hls : ∀ l ∈ ls, Runs.Clear l ∧ Runs.width l ≤ w - frameWidth) :
    ∀ l ∈ frame border w title ls, Runs.Clear l := by
  have htop : Runs.Clear (top border w title) := by
    cases title with
    | none => exact clear_edge hborder (by decide +kernel) (by decide +kernel) _
    | some t =>
      obtain ⟨htext, hlinks⟩ := htitle t rfl
      rw [top, List.cons_append, Runs.clear_cons, Runs.clear_append]
      exact ⟨clear_border hborder (by decide +kernel), clear_titleRuns hborder htext hlinks w,
        clear_border hborder (by decide +kernel)⟩
  intro l hl
  rw [frame, List.cons_append, List.mem_cons, List.mem_append, List.mem_map,
    List.mem_singleton] at hl
  rcases hl with rfl | ⟨line, hline, rfl⟩ | rfl
  · exact htop
  · exact clear_row hborder (hls line hline).1 (hls line hline).2
  · exact clear_edge hborder (by decide +kernel) (by decide +kernel) _

theorem width_edge {c d : Char} (hc : charWidth c = 1) (hd : charWidth d = 1) (hw : 2 ≤ w) :
    Runs.width [⟨border, c :: rule (w - 2) ++ [d]⟩] = w := by
  have hcells : ∀ e ∈ c :: rule (w - 2) ++ [d], charWidth e = 1 := by
    intro e he
    rcases List.mem_append.1 he with he | he
    · rcases List.mem_cons.1 he with rfl | he
      · exact hc
      · rw [List.eq_of_mem_replicate he]
        decide +kernel
    · rwa [List.mem_singleton.1 he]
  rw [Runs.width, Runs.width, Run.width, Text.width_of_cells hcells,
    List.length_append, List.length_cons, rule, List.length_replicate, List.length_singleton]
  omega

theorem width_frame (hw : frameWidth ≤ w) (hls : ∀ l ∈ ls, Runs.width l ≤ w - frameWidth) :
    ∀ l ∈ frame border w none ls, Runs.width l = w := by
  have hedge : 2 ≤ w := Nat.le_trans (by decide) hw
  intro l hl
  rw [frame, List.cons_append, List.mem_cons, List.mem_append, List.mem_map,
    List.mem_singleton] at hl
  rcases hl with rfl | ⟨line, hline, rfl⟩ | rfl
  · exact width_edge (by decide +kernel) (by decide +kernel) hedge
  · exact width_row hw (hls line hline)
  · exact width_edge (by decide +kernel) (by decide +kernel) hedge

theorem inside_map {f : Runs → Line}
    (hf : ∀ l ∈ ls, f (row border w l) = Runs.plain (row border w l)) :
    inside ((frame border w title ls).map f) =
      ls.map (Runs.padded (w - frameWidth)) := by
  rw [inside, frame, List.cons_append, List.map_cons, List.tail_cons, List.map_append,
    List.map_singleton, List.dropLast_concat, List.map_map, List.map_map]
  apply List.map_congr_left
  intro l hl
  rw [Function.comp, Function.comp, hf l hl, plain_row]
  simp

theorem inside_seen (hw : frameWidth ≤ w) (hborder : border.link = none)
    (htitle : ∀ t, title = some t → Legible t.text ∧ t.All (·.link = none))
    (hls : ∀ l ∈ ls, Runs.Clear l ∧ Runs.width l ≤ w - frameWidth) :
    inside (Runs.seen (Runs.text w (frame border w title ls))) =
      ls.map (Runs.padded (w - frameWidth)) := by
  rw [Runs.seen_text (clear_frame hborder htitle hls)]
  apply inside_map
  intro l hl
  rw [Runs.cropped_of_le (Nat.le_of_eq (width_row hw (hls l hl).2))]

end

end Panel

end Mend
