import Mathlib.Data.List.Forall2
import Mathlib.Tactic.SplitIfs
import Mend.Complexity
import Mend.Proofs.Text.Lines

namespace Mend

namespace Lines

theorem length_split (sep : Char) (cs : List Char) : (split sep cs).length = cs.count sep + 1 := by
  induction cs with
  | nil => rfl
  | cons c cs ih =>
    rw [split]
    split
    · rename_i hc
      rw [List.length_cons, ih, hc, List.count_cons_self]
    · rename_i hc
      rw [List.count_cons_of_ne hc, ← ih]
      cases hsplit : split sep cs with
      | nil => exact absurd hsplit (split_ne_nil sep cs)
      | cons l ls => rfl

end Lines

namespace Edit

/-- The number of lines of the new code, none without new code. -/
def newLines (e : Edit) : Nat :=
  match e.newCode with
  | some s => s.toList.count '\n' + 1
  | none => 0

/-- The edit with text put before and behind its new code. -/
def extended (e : Edit) (before after : String) : Edit :=
  { e with newCode := some (before ++ e.newCode.getD "" ++ after) }

theorem newLines_le_extended (e : Edit) (before after : String) :
    e.newLines ≤ (e.extended before after).newLines := by
  unfold newLines extended
  cases e.newCode with
  | none => exact Nat.zero_le _
  | some s =>
    simp only [Option.getD_some, String.toList_append, List.count_append]
    omega

end Edit

namespace Complexity

def rank : Complexity → Nat
  | simple => 0
  | medium => 1
  | complex => 2

instance : LE Complexity := ⟨fun a b => a.rank ≤ b.rank⟩

instance (a b : Complexity) : Decidable (a ≤ b) := inferInstanceAs (Decidable (a.rank ≤ b.rank))

section
variable {es fs : List Edit} {e f : Edit} {m n : Nat}

theorem isLong_eq (e : Edit) : isLong e = decide (3 < e.newLines) := by
  unfold isLong Edit.newLines
  cases e.newCode with
  | none => rfl
  | some s =>
    dsimp only
    rw [Lines.ofText, Lines.length_split]
    -- a text without characters is a single line
    by_cases hs : s = ""
    · rw [hs]
      rfl
    · rw [bne_iff_ne.2 hs, Bool.true_and]

theorem weight_congr (hkind : e.kind = f.kind) (hlong : 3 < e.newLines ↔ 3 < f.newLines) :
    weight e = weight f := by
  rw [weight, weight, isLong_eq, isLong_eq, hkind, decide_eq_decide.2 hlong]

theorem weight_le_extended (e : Edit) (before after : String) :
    weight e ≤ weight (e.extended before after) := by
  have hlines := e.newLines_le_extended before after
  have hkind : (e.extended before after).kind = e.kind := rfl
  rw [weight, weight, isLong_eq, isLong_eq, hkind]
  apply Nat.add_le_add_left
  by_cases hlong : 3 < e.newLines
  · simp only [decide_eq_true hlong, decide_eq_true (Nat.lt_of_lt_of_le hlong hlines),
      Nat.le_refl]
  · rw [decide_eq_false hlong]
    exact Nat.zero_le _

theorem totalWeight_append (es fs : List Edit) :
    totalWeight (es ++ fs) = totalWeight es + totalWeight fs := by
  induction es with
  | nil => exact (Nat.zero_add _).symm
  | cons e es ih => rw [List.cons_append, totalWeight, totalWeight, ih, Nat.add_assoc]

theorem totalWeight_perm (h : es.Perm fs) : totalWeight es = totalWeight fs := by
  induction h with
  | nil => rfl
  | cons e _ ih => rw [totalWeight, totalWeight, ih]
  | swap e f es =>
    simp only [totalWeight]
    exact Nat.add_left_comm _ _ _
  | trans _ _ ih ih' => exact ih.trans ih'

theorem rank_ofScore (n : Nat) :
    (ofScore n).rank = if n ≤ 2 then 0 else if n ≤ 5 then 1 else 2 := by
  unfold ofScore
  split
  · rfl
  · split
    · rfl
    · rfl

theorem ofScore_mono (h : m ≤ n) : ofScore m ≤ ofScore n := by
  change (ofScore m).rank ≤ (ofScore n).rank
  rw [rank_ofScore, rank_ofScore]
  split_ifs <;> omega

theorem length_le_score (h : 1 < es.length) : es.length ≤ score es := by
  rw [score, if_pos h]
  exact Nat.le_add_left _ _

theorem score_mono (hweight : totalWeight es ≤ totalWeight fs) (hlength : es.length ≤ fs.length) :
    score es ≤ score fs := by
  unfold score
  split
  · rw [if_pos (by omega)]
    omega
  · omega

theorem assess_congr (hweight : totalWeight es = totalWeight fs)
    (hlength : es.length = fs.length) : assess es = assess fs := by
  rw [assess, assess, score, score, hweight, hlength]

theorem assess_mono (hweight : totalWeight es ≤ totalWeight fs)
    (hlength : es.length ≤ fs.length) : assess es ≤ assess fs :=
  ofScore_mono (score_mono hweight hlength)

theorem assess_perm (h : es.Perm fs) : assess es = assess fs :=
  assess_congr (totalWeight_perm h) h.length_eq

theorem assess_le_insert (e : Edit) (before after : List Edit) :
    assess (before ++ after) ≤ assess (before ++ e :: after) := by
  apply assess_mono
  · rw [totalWeight_append, totalWeight_append, totalWeight]
    omega
  · simp

theorem assess_le_extended (e : Edit) (start ending : String) (before after : List Edit) :
    assess (before ++ e :: after) ≤ assess (before ++ e.extended start ending :: after) := by
  apply assess_mono
  · have hweight := weight_le_extended e start ending
    rw [totalWeight_append, totalWeight_append, totalWeight, totalWeight]
    omega
  · simp

theorem assess_ne_simple (h : 3 ≤ es.length) : assess es ≠ simple := by
  have hscore : es.length ≤ score es := length_le_score (by omega)
  rw [assess, ofScore, if_neg (by omega)]
  split
  · exact nofun
  · exact nofun

theorem assess_eq_complex (h : 6 ≤ es.length) : assess es = complex := by
  have hscore : es.length ≤ score es := length_le_score (by omega)
  rw [assess, ofScore, if_neg (by omega), if_neg (by omega)]

theorem assess_of_alike
    (h : List.Forall₂ (fun e f => e.kind = f.kind ∧ (3 < e.newLines ↔ 3 < f.newLines)) es fs) :
    assess es = assess fs := by
  refine assess_congr ?_ h.length_eq
  induction h with
  | nil => rfl
  | cons hef _ ih => rw [totalWeight, totalWeight, weight_congr hef.1 hef.2, ih]

/-- The size of a repair does not depend on the order of its edits, and only on the kind of each
and on whether its new code has more than three lines; it grows with the edits and with their new
code. -/
theorem assess_of_edits (es : List Edit) :
    (∀ fs, es.Perm fs → assess es = assess fs) ∧
    (∀ before after e, es = before ++ after → assess es ≤ assess (before ++ e :: after)) ∧
    (∀ before after e start ending, es = before ++ e :: after →
      assess es ≤ assess (before ++ e.extended start ending :: after)) ∧
    (3 ≤ es.length → assess es ≠ simple) ∧
    (6 ≤ es.length → assess es = complex) ∧
    (∀ fs, List.Forall₂ (fun e f => e.kind = f.kind ∧ (3 < e.newLines ↔ 3 < f.newLines)) es fs →
      assess es = assess fs) := by
  refine ⟨fun _ => assess_perm, ?_, ?_, assess_ne_simple, assess_eq_complex,
    fun _ => assess_of_alike⟩
  · rintro before after e rfl
    exact assess_le_insert e before after
  · rintro before after e start ending rfl
    exact assess_le_extended e start ending before after

theorem assess_of_edits_three :
    let change : Edit := { kind := .modify, newCode := some "a\nb" }
    let deletion : Edit := { kind := .delete }
    let es := [change, deletion, change]
    es.Perm [deletion, change, change] ∧ assess es = assess [deletion, change, change] ∧
      assess es ≤ assess [change, deletion, deletion, change] ∧
      assess es ≤ assess [change.extended "" "\nc\nd", deletion, change] ∧
      3 ≤ es.length ∧ assess es ≠ simple ∧ assess es = medium := by
  intro change deletion es
  obtain ⟨hperm, hinsert, hextended, hthree, -⟩ := assess_of_edits es
  have hswap : es.Perm [deletion, change, change] := .swap deletion change [change]
  exact ⟨hswap, hperm _ hswap, hinsert [change, deletion] [change] deletion rfl,
    hextended [] [deletion, change] change "" "\nc\nd" rfl, by decide, hthree (by decide),
    by decide⟩

end

end Complexity

end Mend
