import Lending.Power

/-!
# Rounding a quotient

A quotient of naturals rounded to a whole number. Every inexact operation of the library is one of
these two functions on a suitably scaled quotient, so the laws here are the only facts about rounding
that later arguments need: the result is within half a unit, exact quotients are kept, and a larger
quotient never rounds to a smaller number.
-/

namespace Lending

/-- The natural nearest to `num / den`; a half goes to the even neighbour. -/
def roundHalfEven (num den : Nat) : Nat :=
  let quotient := num / den
  let twice := 2 * (num % den)
  if twice < den ∨ (twice = den ∧ quotient % 2 = 0) then quotient else quotient + 1

/-- The natural nearest to `num / den`; a half goes up. -/
def roundHalfUp (num den : Nat) : Nat :=
  (2 * num + den) / (2 * den)

theorem roundHalfUp_le (num : Nat) {den : Nat} (hden : 0 < den) : roundHalfUp num den ≤ num := by
  refine Nat.le_of_lt_succ (Nat.div_lt_of_lt_mul ?_)
  have hmul : num ≤ den * num := Nat.le_mul_of_pos_left num hden
  rw [Nat.mul_assoc, Nat.mul_succ]
  omega

theorem le_roundHalfUp_iff {n num den : Nat} (hden : 0 < den) :
    n ≤ roundHalfUp num den ↔ n * (2 * den) ≤ 2 * num + den :=
  Nat.le_div_iff_mul_le (Nat.mul_pos (by decide) hden)

theorem roundHalfEven_mul (n : Nat) {den : Nat} (hden : 0 < den) :
    roundHalfEven (n * den) den = n := by
  simp [roundHalfEven, Nat.mul_div_cancel _ hden, hden]

theorem two_mul_le_roundHalfEven (num : Nat) {den : Nat} (hden : 0 < den) :
    2 * num ≤ (2 * roundHalfEven num den + 1) * den := by
  have hsplit := Nat.div_add_mod num den
  have hlt := Nat.mod_lt num hden
  generalize hq : num / den = q at hsplit
  generalize hr : num % den = r at hsplit hlt
  simp only [roundHalfEven, hq, hr]
  split
  · have : (2 * q + 1) * den = 2 * (den * q) + den := by
      rw [Nat.add_mul, Nat.one_mul, Nat.mul_assoc, Nat.mul_comm q den]
    omega
  · have : (2 * (q + 1) + 1) * den = 2 * (den * q) + 3 * den := by
      rw [Nat.mul_add, Nat.add_mul, Nat.add_mul, Nat.mul_assoc, Nat.mul_comm q den]
      omega
    omega

theorem roundHalfEven_le_two_mul (num : Nat) {den : Nat} (hden : 0 < den) :
    2 * roundHalfEven num den * den ≤ 2 * num + den := by
  have hsplit := Nat.div_add_mod num den
  generalize hq : num / den = q at hsplit
  generalize hr : num % den = r at hsplit
  simp only [roundHalfEven, hq, hr]
  split
  · have : 2 * q * den = 2 * (den * q) := by rw [Nat.mul_assoc, Nat.mul_comm q den]
    omega
  · have : 2 * (q + 1) * den = 2 * (den * q) + 2 * den := by
      rw [Nat.mul_add, Nat.add_mul, Nat.mul_assoc, Nat.mul_comm q den]
    omega

theorem roundHalfEven_le (num : Nat) {den : Nat} (hden : 0 < den) : roundHalfEven num den ≤ num := by
  have hle := roundHalfEven_le_two_mul num hden
  refine Nat.le_of_not_lt fun hlt => ?_
  have hmul := Nat.mul_le_mul_right den (Nat.mul_le_mul_left 2 (Nat.succ_le_of_lt hlt))
  have hexpand : 2 * (num + 1) * den = 2 * (num * den) + 2 * den := by
    rw [Nat.mul_add, Nat.add_mul, Nat.mul_assoc]
  have hnum : num ≤ num * den := Nat.le_mul_of_pos_right num hden
  have : Nat.succ num = num + 1 := rfl
  rw [this, hexpand] at hmul
  omega

theorem roundHalfEven_mono {a b : Nat} (den : Nat) (hab : a ≤ b) :
    roundHalfEven a den ≤ roundHalfEven b den := by
  have hq := Nat.div_le_div_right (c := den) hab
  have ha := Nat.div_add_mod a den
  have hb := Nat.div_add_mod b den
  rcases Nat.lt_or_eq_of_le hq with hlt | heq
  · have hle : roundHalfEven a den ≤ a / den + 1 := by
      simp only [roundHalfEven]; split <;> omega
    have hge : b / den ≤ roundHalfEven b den := by
      simp only [roundHalfEven]; split <;> omega
    omega
  · have hr : a % den ≤ b % den := by
      rw [heq] at ha
      omega
    simp only [roundHalfEven, heq]
    split <;> split <;> omega

theorem roundHalfUp_mono {a b : Nat} (den : Nat) (hab : a ≤ b) :
    roundHalfUp a den ≤ roundHalfUp b den :=
  Nat.div_le_div_right (Nat.add_le_add_right (Nat.mul_le_mul_left 2 hab) den)

end Lending
