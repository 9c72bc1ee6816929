import Mathlib.Data.Int.Order.Basic
import Mathlib.Data.Prod.Lex
import Mend.Number.Basic
import Mend.Proofs.Number.Binary64

/-! The order of numbers. Whole numbers and doubles stand on one line, where infinities are the two
ends; what is not a number has no place there and compares with nothing. -/

namespace Mend.Number

variable {a b c : Number}

theorem le_iff : le a b = true ↔
    ∃ p q, a.place? = some p ∧ b.place? = some q ∧ toLex p ≤ toLex q := by
  simp only [Prod.Lex.toLex_le_toLex, le]
  cases a.place? with
  | none => simp
  | some p =>
    cases b.place? with
    | none => simp
    | some q => simp

theorem lt_iff : lt a b = true ↔
    ∃ p q, a.place? = some p ∧ b.place? = some q ∧ toLex p < toLex q := by
  simp only [Prod.Lex.toLex_lt_toLex, lt]
  cases a.place? with
  | none => simp
  | some p =>
    cases b.place? with
    | none => simp
    | some q => simp

def Placed (a : Number) : Prop := ∃ p, a.place? = some p

theorem placed_of_le_right (h : le a b = true) : Placed b := by
  obtain ⟨p, q, -, hq, -⟩ := le_iff.1 h
  exact ⟨q, hq⟩

theorem placed_of_lt_left (h : lt a b = true) : Placed a := by
  obtain ⟨p, q, hp, -, -⟩ := lt_iff.1 h
  exact ⟨p, hp⟩

theorem le_refl (h : Placed a) : le a a = true := by
  obtain ⟨p, hp⟩ := h
  exact le_iff.2 ⟨p, p, hp, hp, le_rfl⟩

theorem placed_iff_not_isNan : Placed a ↔ a.isNan = false := by
  cases a with
  | int n => exact iff_of_true ⟨_, rfl⟩ rfl
  | real x =>
    cases x with
    | nan => simp [Placed, place?, isNan]
    | inf s => exact iff_of_true ⟨_, rfl⟩ rfl
    | fin s u => exact iff_of_true ⟨_, rfl⟩ rfl

theorem le_trans (hab : le a b = true) (hbc : le b c = true) : le a c = true := by
  obtain ⟨p, q, hp, hq, hpq⟩ := le_iff.1 hab
  obtain ⟨q', r, hq', hr, hqr⟩ := le_iff.1 hbc
  rw [hq] at hq'
  cases hq'
  exact le_iff.2 ⟨p, r, hp, hr, hpq.trans hqr⟩

theorem lt_of_le_of_lt (hab : le a b = true) (hbc : lt b c = true) : lt a c = true := by
  obtain ⟨p, q, hp, hq, hpq⟩ := le_iff.1 hab
  obtain ⟨q', r, hq', hr, hqr⟩ := lt_iff.1 hbc
  rw [hq] at hq'
  cases hq'
  exact lt_iff.2 ⟨p, r, hp, hr, hpq.trans_lt hqr⟩

theorem le_of_lt (h : lt a b = true) : le a b = true := by
  obtain ⟨p, q, hp, hq, hpq⟩ := lt_iff.1 h
  exact le_iff.2 ⟨p, q, hp, hq, hpq.le⟩

theorem le_of_not_lt (ha : Placed a) (hb : Placed b) (h : ¬ lt a b = true) : le b a = true := by
  obtain ⟨p, hp⟩ := ha
  obtain ⟨q, hq⟩ := hb
  refine le_iff.2 ⟨q, p, hq, hp, le_of_not_gt fun hpq => ?_⟩
  exact h (lt_iff.2 ⟨p, q, hp, hq, hpq⟩)

theorem le_of_not_le (ha : Placed a) (hb : Placed b) (h : ¬ le a b = true) : le b a = true :=
  le_of_not_lt ha hb fun hlt => h (le_of_lt hlt)

theorem not_lt_of_le (h : le a b = true) : ¬ lt b a = true := by
  intro hlt
  obtain ⟨p, q, hp, hq, hpq⟩ := lt_iff.1 (lt_of_le_of_lt h hlt)
  rw [hp] at hq
  cases hq
  exact lt_irrefl _ hpq

theorem place?_eq_of_le_of_le (hab : le a b = true) (hba : le b a = true) :
    a.place? = b.place? := by
  obtain ⟨p, q, hp, hq, hpq⟩ := le_iff.1 hab
  obtain ⟨q', p', hq', hp', hqp⟩ := le_iff.1 hba
  rw [hq] at hq'
  rw [hp] at hp'
  cases hq'
  cases hp'
  rw [hp, hq, toLex.injective (hpq.antisymm hqp)]

theorem lt_iff_le_and_place?_ne : lt a b = true ↔ le a b = true ∧ a.place? ≠ b.place? := by
  constructor
  · intro h
    refine ⟨le_of_lt h, fun hplace => ?_⟩
    obtain ⟨p, q, hp, hq, hpq⟩ := lt_iff.1 h
    rw [hp, hq] at hplace
    cases hplace
    exact lt_irrefl _ hpq
  · rintro ⟨h, hplace⟩
    obtain ⟨p, q, hp, hq, hpq⟩ := le_iff.1 h
    refine lt_iff.2 ⟨p, q, hp, hq, lt_of_le_of_ne hpq fun heq => hplace ?_⟩
    rw [hp, hq, toLex.injective heq]

theorem le_int_iff {m n : Int} : le (int m) (int n) = true ↔ m ≤ n := by
  have hscale : (0 : Int) < Binary64.scale := Int.natCast_pos.2 Binary64.scale_pos
  rw [le_iff]
  constructor
  · rintro ⟨p, q, hp, hq, hle⟩
    cases hp
    cases hq
    rcases Prod.Lex.toLex_le_toLex.1 hle with h | ⟨-, h⟩
    · exact absurd h (lt_irrefl _)
    · exact Int.le_of_mul_le_mul_right h hscale
  · intro h
    refine ⟨_, _, rfl, rfl, Prod.Lex.toLex_le_toLex.2 (.inr ⟨rfl, ?_⟩)⟩
    exact Int.mul_le_mul_of_nonneg_right h (Int.le_of_lt hscale)

end Mend.Number
