import Mathlib.Algebra.Group.Nat.Defs
import Mend.Number.Binary64

namespace Mend

section
variable {num den n : Nat}

theorem roundDiv_le_succ (num den : Nat) : roundDiv num den ≤ num / den + 1 := by
  unfold roundDiv
  dsimp only
  split
  · exact Nat.le_succ _
  · split
    · exact Nat.le_refl _
    · split
      · exact Nat.le_succ _
      · exact Nat.le_refl _

theorem le_roundDiv (num den : Nat) : num / den ≤ roundDiv num den := by
  unfold roundDiv
  dsimp only
  split
  · exact Nat.le_refl _
  · split
    · exact Nat.le_succ _
    · split
      · exact Nat.le_refl _
      · exact Nat.le_succ _

theorem roundDiv_le (hden : 0 < den) (h : num ≤ n * den) : roundDiv num den ≤ n := by
  by_cases hlt : num / den < n
  · exact Nat.le_trans (roundDiv_le_succ num den) hlt
  · have hquot : n = num / den :=
      Nat.le_antisymm (Nat.le_of_not_lt hlt) (Nat.div_le_of_le_mul (Nat.mul_comm n den ▸ h))
    have hdiv := Nat.div_add_mod num den
    have hrem : num % den = 0 := by
      rw [← hquot, Nat.mul_comm] at hdiv
      omega
    have hround : roundDiv num den = num / den := by
      rw [roundDiv, hrem, if_pos (by omega)]
    omega

theorem roundDiv_lt_iff (hden : 0 < den) (hn : n % 2 = 0) :
    roundDiv num den < n ↔ 2 * num + den < 2 * (n * den) := by
  have hdiv := Nat.div_add_mod num den
  have hrem := Nat.mod_lt num hden
  rw [Nat.mul_comm] at hdiv
  have hle := le_roundDiv num den
  have hsucc := roundDiv_le_succ num den
  rcases Nat.lt_trichotomy n (num / den + 1) with hlt | heq | hgt
  · have hmul : n * den ≤ num / den * den := Nat.mul_le_mul_right den (by omega)
    omega
  · have hmul : n * den = num / den * den + den := by rw [heq, Nat.succ_mul]
    unfold roundDiv
    dsimp only
    split
    · omega
    · split
      · omega
      · rw [if_neg (by omega)]
        omega
  · have hmul : (num / den + 2) * den ≤ n * den := Nat.mul_le_mul_right den (by omega)
    rw [Nat.add_mul] at hmul
    omega

end

namespace Binary64

theorem roundUnits_eq (num : Nat) :
    roundUnits num 1 =
      roundDiv num (2 ^ (num.log2 + 1 - 53)) * 2 ^ (num.log2 + 1 - 53) := by
  rw [roundUnits, Nat.div_one, Nat.one_mul]
  rfl

theorem roundUnits_le (num : Nat) : roundUnits num 1 ≤ 2 ^ (num.log2 + 1) := by
  have hpow : 2 ^ (num.log2 + 1) =
      2 ^ (num.log2 + 1 - (num.log2 + 1 - 53)) * 2 ^ (num.log2 + 1 - 53) := by
    rw [← Nat.pow_add]
    congr 1
    omega
  have hlt : num < 2 ^ (num.log2 + 1) := Nat.lt_log2_self
  rw [roundUnits_eq, hpow]
  apply Nat.mul_le_mul_right
  apply roundDiv_le (Nat.two_pow_pos _)
  rw [← hpow]
  exact Nat.le_of_lt hlt

theorem le_roundUnits {num : Nat} (h : num ≠ 0) : 2 ^ num.log2 ≤ roundUnits num 1 := by
  have hpow : 2 ^ num.log2 =
      2 ^ (num.log2 - (num.log2 + 1 - 53)) * 2 ^ (num.log2 + 1 - 53) := by
    rw [← Nat.pow_add]
    congr 1
    omega
  have hle : 2 ^ num.log2 ≤ num := Nat.log2_self_le h
  rw [roundUnits_eq, hpow]
  apply Nat.mul_le_mul_right
  refine Nat.le_trans ?_ (le_roundDiv _ _)
  rw [Nat.le_div_iff_mul_le (Nat.two_pow_pos _), ← hpow]
  exact hle

theorem roundDiv_mul_lt_iff (num j : Nat) {m : Nat} (hm : m % 2 = 0) :
    roundDiv num (2 ^ (j + 1)) * 2 ^ (j + 1) < m * 2 ^ (j + 1) ↔
      num + 2 ^ j < m * 2 ^ (j + 1) := by
  have hstep : 2 ^ (j + 1) = 2 * 2 ^ j := by rw [Nat.pow_succ, Nat.mul_comm]
  rw [Nat.mul_lt_mul_right (Nat.two_pow_pos _), roundDiv_lt_iff (Nat.two_pow_pos _) hm]
  omega

/-- A whole number of units is rounded to the power of two that ends a range, or beyond it, from
the middle between that power and the last number of 53 binary digits below it on. -/
theorem roundUnits_lt_iff (num j : Nat) :
    roundUnits num 1 < 2 ^ (j + 54) ↔ num + 2 ^ j < 2 ^ (j + 54) := by
  have hhalf : 2 ^ (j + 54) = 2 * 2 ^ (j + 53) := by rw [Nat.pow_succ, Nat.mul_comm]
  have hsmall : 2 ^ j < 2 ^ (j + 53) := Nat.pow_lt_pow_right (by omega) (by omega)
  -- digits are rounded away in steps of `2 ^ (j + 1)` between the two powers, in smaller ones below
  rcases Nat.lt_or_ge num (2 ^ (j + 53)) with hlow | hlow
  · have hlog : num.log2 + 1 ≤ j + 53 := by
      by_cases hzero : num = 0
      · rw [hzero, Nat.log2_zero]
        omega
      · exact (Nat.log2_lt hzero).2 hlow
    have hle : 2 ^ (num.log2 + 1) ≤ 2 ^ (j + 53) := Nat.pow_le_pow_right (by omega) hlog
    have hround := roundUnits_le num
    omega
  · have hne : num ≠ 0 := by
      have hpos := Nat.two_pow_pos (j + 53)
      omega
    rcases Nat.lt_or_ge num (2 ^ (j + 54)) with hhigh | hhigh
    · have hlog : num.log2 = j + 53 := (Nat.log2_eq_iff hne).2 ⟨hlow, hhigh⟩
      have hround := roundDiv_mul_lt_iff num j (m := 2 ^ 53) (by decide)
      have hlimit : 2 ^ 53 * 2 ^ (j + 1) = 2 ^ (j + 54) := by
        rw [← Nat.pow_add, Nat.add_left_comm]
      rw [hlimit] at hround
      rw [roundUnits_eq, hlog, Nat.add_right_comm, Nat.add_sub_cancel, hround]
    · have hlog : j + 54 ≤ num.log2 := (Nat.le_log2 hne).2 hhigh
      have hle : 2 ^ (j + 54) ≤ 2 ^ num.log2 := Nat.pow_le_pow_right (by omega) hlog
      have hround := le_roundUnits hne
      have hpos := Nat.two_pow_pos j
      omega

theorem scale_eq : scale = 2 ^ 1074 := Nat.pow_eq

theorem scale_pos : 0 < scale := by
  rw [scale_eq]
  exact Nat.two_pow_pos _

theorem limit_eq : limit = 2 ^ (2044 + 54) := Nat.pow_eq

section
variable {negative : Bool} {num den : Nat}

theorem ofUnits_of_lt (h : roundUnits num den < limit) :
    ofUnits negative num den = .fin negative (roundUnits num den) := by
  rw [ofUnits, if_pos h]

theorem ofUnits_of_le (h : limit ≤ roundUnits num den) :
    ofUnits negative num den = .inf negative := by
  rw [ofUnits, if_neg (Nat.not_lt.2 h)]

end

/-- A whole number has a double unless it reaches the middle between the last double and the power
of two behind it. -/
theorem ofInt?_eq_none_iff (n : Int) : ofInt? n = none ↔ 2 ^ 1024 ≤ n.natAbs + 2 ^ 970 := by
  have hpow : (2 : Nat) ^ (2044 + 54) = 2 ^ 1024 * scale := by
    rw [scale_eq, ← Nat.pow_add]
  have hmiddle : (2 : Nat) ^ 2044 = 2 ^ 970 * scale := by
    rw [scale_eq, ← Nat.pow_add]
  have hround : roundUnits (n.natAbs * scale) 1 < limit ↔ n.natAbs + 2 ^ 970 < 2 ^ 1024 := by
    rw [limit_eq, roundUnits_lt_iff, hpow, hmiddle, ← Nat.add_mul, Nat.mul_lt_mul_right scale_pos]
  rw [← Nat.not_lt, ← hround, ofInt?, ofRatio]
  rcases Nat.lt_or_ge (roundUnits (n.natAbs * scale) 1) limit with h | h
  · rw [ofUnits_of_lt h, finite?_fin]
    exact iff_of_false (Option.some_ne_none _) fun hn => hn h
  · rw [ofUnits_of_le h, finite?_inf]
    exact iff_of_true rfl (Nat.not_lt.2 h)

end Binary64

end Mend
