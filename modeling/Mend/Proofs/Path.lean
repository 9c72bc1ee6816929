import Mathlib.Data.String.Basic
import Mend.Path
import Mend.Proofs.Text.Lines

namespace Mend

namespace Text

open String (ofList utf8Len)
open String.Pos.Raw (atEnd get next extract unoffsetBy)

section
variable {sep : Char} {m : List Char}

theorem atEnd_ofList (l r : List Char) : atEnd (ofList (l ++ r)) ⟨utf8Len l⟩ = r.isEmpty := by
  rw [Bool.eq_iff_iff, String.atEnd_iff, String.rawEndPos_ofList, List.isEmpty_iff,
    ← String.utf8Len_eq_zero, String.utf8Len_append, String.Pos.Raw.mk_le_mk]
  omega

theorem next_ofList (l : List Char) (c : Char) (r : List Char) :
    next (ofList (l ++ c :: r)) ⟨utf8Len l⟩ = ⟨utf8Len (l ++ [c])⟩ := by
  rw [String.next_of_valid, String.utf8Len_append]
  simp

theorem extract_ofList (l m r : List Char) :
    extract (ofList (l ++ m ++ r)) ⟨utf8Len l⟩ ⟨utf8Len (l ++ m)⟩ = ofList m := by
  rw [String.utf8Len_append]
  exact String.extract_of_valid l m r

/-- Splitting goes on behind the text `l ++ m`, of which `m` belongs to the piece that is read. -/
theorem splitOnAux_of_valid (l r : List Char) (hm : sep ∉ m) (acc : List String) :
    (ofList (l ++ m ++ r)).splitOnAux (ofList [sep]) ⟨utf8Len l⟩ ⟨utf8Len (l ++ m)⟩ 0 acc =
      acc.reverse ++ (Lines.split sep (m ++ r)).map ofList := by
  induction r generalizing l m acc with
  | nil =>
    rw [String.splitOnAux, if_pos (by rw [atEnd_ofList]; rfl), extract_ofList, List.append_nil,
      Lines.split_eq_singleton hm]
    exact List.reverse_cons
  | cons c r ih =>
    have hget : get (ofList (l ++ m ++ c :: r)) ⟨utf8Len (l ++ m)⟩ = c :=
      String.get_of_valid (l ++ m) (c :: r)
    have hsep : get (ofList [sep]) 0 = sep := String.get_of_valid [] [sep]
    have hstep : l ++ m ++ c :: r = l ++ m ++ [c] ++ r := by simp
    rw [String.splitOnAux, if_neg (by rw [atEnd_ofList]; exact Bool.false_ne_true), hget, hsep]
    by_cases hc : c = sep
    · -- the piece ends here, and the next one begins behind the separator
      subst hc
      have hone : next (ofList [c]) 0 = ⟨c.utf8Size⟩ := by simpa using next_ofList [] c []
      have hend : atEnd (ofList [c]) ⟨c.utf8Size⟩ = true := by simpa using atEnd_ofList [c] []
      have hback : unoffsetBy ⟨utf8Len (l ++ m ++ [c])⟩ ⟨c.utf8Size⟩ = ⟨utf8Len (l ++ m)⟩ := by
        rw [String.utf8Len_append _ [c]]
        simp [unoffsetBy]
      have hrest := ih (l ++ m ++ [c]) (List.not_mem_nil (a := c)) (ofList m :: acc)
      rw [List.append_nil, List.nil_append] at hrest
      rw [if_pos (beq_self_eq_true c), next_ofList, hone, if_pos hend, hback, extract_ofList, hstep,
        hrest, Lines.split_append_sep, Lines.split_eq_singleton hm]
      simp
    · have hback : unoffsetBy ⟨utf8Len (l ++ m)⟩ 0 = ⟨utf8Len (l ++ m)⟩ := rfl
      have hrest := ih l (m := m ++ [c]) (by simp [hm, Ne.symm hc]) acc
      rw [if_neg (by simpa using hc), hback, next_ofList, hstep]
      simpa using hrest

theorem splitOn_eq_split (s : String) (sep : Char) :
    s.splitOn (ofList [sep]) = (Lines.split sep s.toList).map ofList := by
  have h := splitOnAux_of_valid (m := []) [] s.toList (List.not_mem_nil (a := sep)) []
  rw [String.splitOn, if_neg (by simp)]
  simpa using h

end

end Text

namespace Path

theorem pieces_eq_split (s : String) : pieces s = (Lines.split '/' s.toList).map .ofList :=
  Text.splitOn_eq_split s '/'

theorem join_of_root_eq {p q : Path} (h : q.root = "") : p.join q = ⟨p.root, p.names ++ q.names⟩ :=
  if_pos h

end Path

end Mend
