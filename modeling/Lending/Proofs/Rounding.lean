import Mathlib.Algebra.Order.Field.Rat
import Mathlib.Tactic.FieldSimp
import Mathlib.Tactic.Linarith
import Mathlib.Tactic.Ring
import Lending.Rounding

/-!
# Rounding rationals

Rounding half to even, seen from outside: the whole number is within half a unit of the rational, and even
if it is half a unit away. That determines it, follows the order and the sign of the rationals, and keeps
whole numbers, which is all that the arithmetic of decimals and of doubles needs to know.
-/

namespace Lending

/-- The whole number nearest to `x`, the even one of two. -/
structure RoundsTo (x : ℚ) (n : ℤ) : Prop where
  near : |x - n| ≤ 1 / 2
  even : |x - n| = 1 / 2 → Even n

namespace RoundsTo

variable {x y : ℚ} {m n : ℤ}

theorem neg (h : RoundsTo x n) : RoundsTo (-x) (-n) := by
  have habs : |-x - ((-n : ℤ) : ℚ)| = |x - n| := by
    rw [← abs_neg]
    push_cast
    ring_nf
  refine ⟨habs ▸ h.near, fun hhalf => ?_⟩
  exact (h.even (habs ▸ hhalf)).neg

theorem intCast (n : ℤ) : RoundsTo n n := by
  refine ⟨?_, fun hhalf => ?_⟩
  · rw [sub_self, abs_zero]
    norm_num
  · rw [sub_self, abs_zero] at hhalf
    norm_num at hhalf

theorem le (hm : RoundsTo x m) (hn : RoundsTo y n) (hle : x ≤ y) : m ≤ n := by
  by_contra! hlt
  have hsucc : (n : ℚ) + 1 ≤ m := by exact_mod_cast hlt
  obtain ⟨hlow, -⟩ := abs_le.1 hm.near
  obtain ⟨-, hhigh⟩ := abs_le.1 hn.near
  -- there is room for the two only half a unit away from both, where both had to be even
  have heven : Even m := hm.even (by rw [abs_of_nonpos (by linarith)]; linarith)
  have heven' : Even n := hn.even (by rw [abs_of_nonneg (by linarith)]; linarith)
  have hnext : m = n + 1 := by
    have : (m : ℚ) = (n + 1 : ℤ) := by
      push_cast
      linarith
    exact_mod_cast this
  rw [hnext] at heven
  exact (Int.even_add_one.1 heven) heven'

theorem eq (hm : RoundsTo x m) (hn : RoundsTo x n) : m = n :=
  le_antisymm (hm.le hn le_rfl) (hn.le hm le_rfl)

theorem le_intCast (h : RoundsTo x n) (hle : x ≤ m) : n ≤ m := h.le (intCast m) hle

theorem intCast_le (h : RoundsTo x n) (hle : (m : ℚ) ≤ x) : m ≤ n := (intCast m).le h hle

/-- A tie goes to an even bound, so what is half a unit above it still rounds to it. -/
theorem le_iff_of_even (h : RoundsTo x n) (hm : Even m) : n ≤ m ↔ x ≤ m + 1 / 2 := by
  obtain ⟨hlow, hhigh⟩ := abs_le.1 h.near
  constructor
  · intro hle
    have : (n : ℚ) ≤ m := by exact_mod_cast hle
    linarith
  · intro hx
    by_contra! hlt
    have hsucc : (m : ℚ) + 1 ≤ n := by exact_mod_cast hlt
    have heven : Even n := h.even (by rw [abs_of_nonpos (by linarith)]; linarith)
    have hnext : n = m + 1 := by
      have : (n : ℚ) = (m + 1 : ℤ) := by
        push_cast
        linarith
      exact_mod_cast this
    rw [hnext] at heven
    exact Int.even_add_one.1 heven hm

end RoundsTo

theorem even_roundHalfEven (num : ℕ) {den : ℕ} (hden : 0 < den)
    (htie : 2 * num = (2 * roundHalfEven num den + 1) * den ∨
      2 * roundHalfEven num den * den = 2 * num + den) : Even (roundHalfEven num den) := by
  have hsplit := Nat.div_add_mod num den
  have hlt := Nat.mod_lt num hden
  rw [Nat.even_iff]
  simp only [roundHalfEven] at htie ⊢
  generalize num / den = q at *
  generalize num % den = r at *
  have hexpand : ∀ n, 2 * n * den = 2 * (den * n) := fun n => by ring
  split at htie
  · rename_i hdown
    rw [if_pos hdown]
    rw [Nat.add_mul, hexpand] at htie
    omega
  · rename_i hup
    rw [if_neg hup]
    rw [Nat.add_mul, hexpand, Nat.mul_succ] at htie
    omega

theorem roundsTo_roundHalfEven (num : ℕ) {den : ℕ} (hden : 0 < den) :
    RoundsTo ((num : ℚ) / den) (roundHalfEven num den : ℕ) := by
  have hpos : (0 : ℚ) < den := by exact_mod_cast hden
  have hupper : 2 * (num : ℚ) ≤ (2 * roundHalfEven num den + 1) * den := by
    exact_mod_cast two_mul_le_roundHalfEven num hden
  have hlower : 2 * (roundHalfEven num den : ℚ) * den ≤ 2 * num + den := by
    exact_mod_cast roundHalfEven_le_two_mul num hden
  have heven := even_roundHalfEven num hden
  generalize roundHalfEven num den = n at *
  have hdiff : ((num : ℚ) / den - ((n : ℕ) : ℤ)) * den = num - n * den := by
    push_cast
    field_simp
  refine ⟨?_, fun htie => ?_⟩
  · rw [abs_le]
    constructor
    · refine le_of_mul_le_mul_right ?_ hpos
      linarith
    · refine le_of_mul_le_mul_right ?_ hpos
      linarith
  · refine (Int.even_coe_nat n).2 (heven ?_)
    rcases (abs_eq (by norm_num : (0 : ℚ) ≤ 1 / 2)).1 htie with htie | htie
    · refine Or.inl ?_
      rw [htie] at hdiff
      have : 2 * (num : ℚ) = (2 * n + 1) * den := by linarith
      exact_mod_cast this
    · refine Or.inr ?_
      rw [htie] at hdiff
      have : 2 * (n : ℚ) * den = 2 * num + den := by linarith
      exact_mod_cast this

end Lending
