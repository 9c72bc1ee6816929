import Mend.Proofs.Pattern.Matching
import Mend.Text.Fold

/-! Phrasings: expressions of letters, gaps within a line, and alternatives. What a phrasing takes
depends on the text that is taken alone, and not on the case of its letters, so that the phrasing
is still found when more text stands around. -/

namespace Mend

namespace Text

def capitals : List Char := (List.range' 65 26).map Char.ofNat

theorem toLower_eq_self_or_mem (c : Char) : c.toLower = c ∨ c ∈ capitals := by
  by_cases h : 'A'.val ≤ c.val ∧ c.val ≤ 'Z'.val
  · have hlow : 65 ≤ c.toNat := UInt32.le_iff_toNat_le.1 h.1
    have hhigh : c.toNat ≤ 90 := UInt32.le_iff_toNat_le.1 h.2
    exact .inr (List.mem_map.2 ⟨c.toNat, List.mem_range'_1.2 (by omega), Char.ofNat_toNat c⟩)
  · exact .inl (dif_neg h)

theorem lowerChar_toLower (c : Char) : lowerChar c.toLower = lowerChar c := by
  have hcapitals : capitals.all (fun c => lowerChar c.toLower == lowerChar c) = true := by
    decide +kernel
  rcases toLower_eq_self_or_mem c with h | h
  · rw [h]
  · exact eq_of_beq (List.all_eq_true.1 hcapitals c h)

theorem lowerChar_congr {c d : Char} (h : c.toLower = d.toLower) : lowerChar c = lowerChar d := by
  rw [← lowerChar_toLower, h, lowerChar_toLower]

theorem foldChar_congr {c d : Char} (h : c.toLower = d.toLower) : foldChar c = foldChar d := by
  rw [foldChar, lowerChar_congr h, foldChar]

theorem sameLetters_congr {c d : Char} (h : c.toLower = d.toLower) :
    sameLetters c = sameLetters d := by
  rw [sameLetters, lowerChar_congr h, sameLetters]

theorem toLower_eq_newline_iff {c : Char} : c.toLower = '\n' ↔ c = '\n' := by
  have hcapitals : capitals.all (fun c => c.toLower != '\n' && c != '\n') = true := by
    decide +kernel
  rcases toLower_eq_self_or_mem c with h | h
  · rw [h]
  · have hc := List.all_eq_true.1 hcapitals c h
    rw [Bool.and_eq_true, bne_iff_ne, bne_iff_ne] at hc
    exact iff_of_false hc.1 hc.2

/-- Two texts that differ at most in the case of ASCII letters. -/
def SameButCase (cs ds : List Char) : Prop := cs.map Char.toLower = ds.map Char.toLower

instance (cs ds : List Char) : Decidable (SameButCase cs ds) :=
  inferInstanceAs (Decidable (cs.map Char.toLower = ds.map Char.toLower))

end Text

namespace Progress

def past (s : Progress) (w rest : List Char) : Progress :=
  { s with before := w.reverse ++ s.before, after := rest }

theorem past_append (s : Progress) (v w rest : List Char) :
    (s.past v (w ++ rest)).past w rest = s.past (v ++ w) rest := by
  simp [past]

end Progress

namespace CharSet

/-- A letter, or letters that are listed. -/
inductive IsLetters : CharSet → Prop
  | letter (c : Char) : IsLetters (.letter c)
  | listed {members : List Member} (h : ∀ m ∈ members, ∃ n, m = .code n) :
    IsLetters (.listed .full false members)

theorem IsLetters.has_congr {c : CharSet} (hc : c.IsLetters) {x y : Char}
    (h : x.toLower = y.toLower) : c.has x = c.has y := by
  cases hc with
  | letter c => rw [has, has, Text.sameLetter, Text.sameLetter, Text.foldChar_congr h]
  | @listed members hcodes =>
    have hany : members.any (·.has .full x) = members.any (·.has .full y) := by
      rw [Bool.eq_iff_iff, List.any_eq_true, List.any_eq_true]
      refine exists_congr fun m => and_congr_right fun hm => ?_
      obtain ⟨n, rfl⟩ := hcodes m hm
      simp only [Member.has, Folding.variants, Folding.lower, Text.sameLetters_congr h,
        Text.lowerChar_congr h]
    rw [has, has, hany]

end CharSet

namespace Expression

open Text (SameButCase)

inductive IsPhrasing : Expression → Prop
  | empty : IsPhrasing .empty
  | one {c : CharSet} (hc : c.IsLetters) : IsPhrasing (.one c)
  | gap : IsPhrasing .gap
  | seq {p q : Expression} (hp : IsPhrasing p) (hq : IsPhrasing q) : IsPhrasing (.seq p q)
  | alt {p q : Expression} (hp : IsPhrasing p) (hq : IsPhrasing q) : IsPhrasing (.alt p q)

/-- What a phrasing takes, wherever it stands. -/
inductive Says : Expression → List Char → Prop
  | empty : Says .empty []
  | one {c : CharSet} {x : Char} (hc : c.IsLetters) (h : c.has x = true) : Says (.one c) [x]
  | gap {w : List Char} (h : '\n' ∉ w) : Says .gap w
  | seq {p q : Expression} {v w : List Char} (hp : Says p v) (hq : Says q w) :
    Says (.seq p q) (v ++ w)
  | left {p q : Expression} {w : List Char} (h : Says p w) : Says (.alt p q) w
  | right {p q : Expression} {w : List Char} (h : Says q w) : Says (.alt p q) w

section
variable {p : Expression} {s t : Progress} {cs ds w w' : List Char}

theorem mem_ends_one {c : CharSet} : t ∈ (one c).ends s ↔
    ∃ x rest, s.after = x :: rest ∧ c.has x = true ∧ t = s.past [x] rest := by
  rw [ends, Option.mem_toList]
  constructor
  · exact Progress.past?_eq_some
  · rintro ⟨x, rest, hafter, hx, rfl⟩
    rw [Progress.past?, hafter]
    exact if_pos hx

theorem mem_ends_gap_iff : t ∈ gap.ends s ↔ t = s ∨ ∃ u ∈ (one .inLine).ends s, t ∈ gap.ends u := by
  have hmore {s : Progress} : t ∈ gap.ends s ↔ t ∈ Ends.more (ends (.one .inLine)) false none s := by
    change t ∈ [s].flatMap _ ↔ _
    rw [List.flatMap_singleton]
    rfl
  rw [hmore, Ends.mem_more]
  refine or_congr_right ⟨?_, ?_⟩
  · rintro ⟨-, u, hu, ⟨-, ht⟩ | ⟨hlt, -⟩⟩
    · exact ⟨u, hu, hmore.2 ht⟩
    · obtain ⟨x, rest, hafter, -, rfl⟩ := mem_ends_one.1 hu
      refine absurd ?_ hlt
      rw [hafter]
      exact Nat.lt_succ_self _
  · rintro ⟨u, hu, ht⟩
    refine ⟨nofun, u, hu, .inl ⟨?_, hmore.1 ht⟩⟩
    obtain ⟨x, rest, hafter, -, rfl⟩ := mem_ends_one.1 hu
    rw [hafter]
    exact Nat.lt_succ_self _

theorem mem_ends_gap : t ∈ gap.ends s ↔
    ∃ w rest, s.after = w ++ rest ∧ '\n' ∉ w ∧ t = s.past w rest := by
  constructor
  · intro h
    obtain ⟨before, after, begun, ended⟩ := s
    induction after generalizing before with
    | nil =>
      rcases mem_ends_gap_iff.1 h with rfl | ⟨u, hu, -⟩
      · exact ⟨[], [], rfl, List.not_mem_nil, rfl⟩
      · obtain ⟨x, rest, hafter, -⟩ := mem_ends_one.1 hu
        cases hafter
    | cons c cs ih =>
      rcases mem_ends_gap_iff.1 h with rfl | ⟨u, hu, ht⟩
      · exact ⟨[], c :: cs, rfl, List.not_mem_nil, rfl⟩
      · obtain ⟨x, rest, hafter, hx, rfl⟩ := mem_ends_one.1 hu
        cases hafter
        obtain ⟨w, rest', rfl, hw, rfl⟩ := ih _ ht
        refine ⟨c :: w, rest', rfl, ?_, by simp [Progress.past]⟩
        exact List.not_mem_cons_of_ne_of_not_mem (Ne.symm (bne_iff_ne.1 hx)) hw
  · rintro ⟨w, rest, hafter, hw, rfl⟩
    induction w generalizing s with
    | nil => exact mem_ends_gap_iff.2 (.inl (by rw [List.nil_append] at hafter; rw [← hafter]; rfl))
    | cons x w ih =>
      rw [List.mem_cons, not_or] at hw
      refine mem_ends_gap_iff.2 (.inr ⟨s.past [x] (w ++ rest), ?_, ?_⟩)
      · exact mem_ends_one.2 ⟨x, w ++ rest, hafter, bne_iff_ne.2 (Ne.symm hw.1), rfl⟩
      · have hend := ih (s := s.past [x] (w ++ rest)) rfl hw.2
        rwa [Progress.past_append] at hend

/-- A match of a phrasing ends behind what it takes. -/
theorem IsPhrasing.mem_ends (hp : p.IsPhrasing) : t ∈ p.ends s ↔
    ∃ w rest, s.after = w ++ rest ∧ p.Says w ∧ t = s.past w rest := by
  induction hp generalizing s t with
  | empty =>
    rw [ends, List.mem_singleton]
    constructor
    · rintro rfl
      exact ⟨[], t.after, rfl, .empty, rfl⟩
    · rintro ⟨w, rest, hafter, hw, rfl⟩
      cases hw
      cases hafter
      rfl
  | one hc =>
    rw [mem_ends_one]
    constructor
    · rintro ⟨x, rest, hafter, hx, rfl⟩
      exact ⟨[x], rest, hafter, .one hc hx, rfl⟩
    · rintro ⟨w, rest, hafter, hw, rfl⟩
      cases hw with
      | one _ hx => exact ⟨_, rest, hafter, hx, rfl⟩
  | gap =>
    rw [mem_ends_gap]
    constructor
    · rintro ⟨w, rest, hafter, hw, rfl⟩
      exact ⟨w, rest, hafter, .gap hw, rfl⟩
    · rintro ⟨w, rest, hafter, hw, rfl⟩
      cases hw with
      | gap hw => exact ⟨w, rest, hafter, hw, rfl⟩
  | @seq p q _ _ ihp ihq =>
    rw [ends, List.mem_flatMap]
    constructor
    · rintro ⟨u, hu, ht⟩
      obtain ⟨v, rest, hafter, hv, rfl⟩ := ihp.1 hu
      obtain ⟨w, rest', rfl, hw, rfl⟩ := ihq.1 ht
      exact ⟨v ++ w, rest', by rw [hafter, List.append_assoc], .seq hv hw, Progress.past_append ..⟩
    · rintro ⟨u, rest, hafter, hu, rfl⟩
      cases hu with
      | @seq _ _ v w hv hw =>
        rw [List.append_assoc] at hafter
        refine ⟨s.past v (w ++ rest), ihp.2 ⟨v, w ++ rest, hafter, hv, rfl⟩, ihq.2 ?_⟩
        exact ⟨w, rest, rfl, hw, (Progress.past_append ..).symm⟩
  | @alt p q _ _ ihp ihq =>
    rw [ends, List.mem_append, ihp, ihq]
    constructor
    · rintro (⟨w, rest, hafter, hw, rfl⟩ | ⟨w, rest, hafter, hw, rfl⟩)
      · exact ⟨w, rest, hafter, .left hw, rfl⟩
      · exact ⟨w, rest, hafter, .right hw, rfl⟩
    · rintro ⟨w, rest, hafter, hw, rfl⟩
      cases hw with
      | left hw => exact .inl ⟨w, rest, hafter, hw, rfl⟩
      | right hw => exact .inr ⟨w, rest, hafter, hw, rfl⟩

theorem IsPhrasing.found_iff (hp : p.IsPhrasing) :
    p.found cs = true ↔ ∃ a w b, cs = a ++ (w ++ b) ∧ p.Says w := by
  rw [Expression.found_iff]
  constructor
  · rintro ⟨a, rest, rfl, t, ht⟩
    obtain ⟨w, b, rfl, hw, -⟩ := hp.mem_ends.1 ht
    exact ⟨a, w, b, rfl, hw⟩
  · rintro ⟨a, w, b, rfl, hw⟩
    exact ⟨a, w ++ b, rfl, _, hp.mem_ends.2 ⟨w, b, rfl, hw, rfl⟩⟩

theorem Says.sameButCase (hw : p.Says w) (h : SameButCase w w') : p.Says w' := by
  induction hw generalizing w' with
  | empty =>
    rw [SameButCase, List.map_nil] at h
    rw [List.map_eq_nil_iff.1 h.symm]
    exact .empty
  | one hc hx =>
    obtain ⟨y, rfl, hy⟩ := List.map_eq_singleton_iff.1 (Eq.symm h)
    exact .one hc (hc.has_congr hy ▸ hx)
  | @gap w hw =>
    refine .gap fun hmem => hw ?_
    have hlower : '\n' ∈ w.map Char.toLower := by
      rw [h]
      exact List.mem_map.2 ⟨'\n', hmem, rfl⟩
    obtain ⟨x, hx, hnewline⟩ := List.mem_map.1 hlower
    rwa [← Text.toLower_eq_newline_iff.1 hnewline]
  | seq _ _ ihp ihq =>
    rw [SameButCase, List.map_append] at h
    obtain ⟨v', w', rfl, hv, hw⟩ := List.map_eq_append_iff.1 h.symm
    exact .seq (ihp hv.symm) (ihq hw.symm)
  | left _ ih => exact .left (ih h)
  | right _ ih => exact .right (ih h)

/-- A phrasing that is found in a text is found in every text that has the text in it, in
letters of any case. -/
theorem IsPhrasing.found (hp : p.IsPhrasing) (h : SameButCase cs ds) (hfound : p.found cs = true)
    (before after : List Char) : p.found (before ++ (ds ++ after)) = true := by
  obtain ⟨a, w, b, rfl, hw⟩ := hp.found_iff.1 hfound
  rw [SameButCase, List.map_append, List.map_append] at h
  obtain ⟨a', wb', rfl, -, hwb⟩ := List.map_eq_append_iff.1 h.symm
  obtain ⟨w', b', rfl, hsame, -⟩ := List.map_eq_append_iff.1 hwb
  exact hp.found_iff.2 ⟨before ++ a', w', b' ++ after, by simp, hw.sameButCase hsame.symm⟩

theorem IsPhrasing.found_congr (hp : p.IsPhrasing) (h : SameButCase cs ds) :
    p.found cs = p.found ds := by
  have hle {cs ds : List Char} (h : SameButCase cs ds) (hfound : p.found cs = true) :
      p.found ds = true := by
    simpa using hp.found h hfound [] []
  rw [Bool.eq_iff_iff]
  exact ⟨hle h, hle h.symm⟩

end

end Expression

end Mend
