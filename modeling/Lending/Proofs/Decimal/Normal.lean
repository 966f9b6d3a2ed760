import Mathlib.Tactic.Ring
import Lending.Amount.Basic

/-!
# One number, one normal form

Decimals in normal form are equal exactly if they are the same number, whatever scales they were written
with. Amounts are in normal form, so equality of amounts is numeric equality.
-/

namespace Lending

namespace Decimal

variable {a b : Decimal}

theorem natAbs_signed (a : Decimal) : a.signed.natAbs = a.mantissa := by
  unfold signed
  split
  · rw [Int.natAbs_neg, Int.natAbs_natCast]
  · rw [Int.natAbs_natCast]

theorem Same.mantissa_mul (h : Same a b) : a.mantissa * 10 ^ b.scale = b.mantissa * 10 ^ a.scale := by
  have habs : (a.signed * 10 ^ b.scale).natAbs = (b.signed * 10 ^ a.scale).natAbs :=
    congrArg Int.natAbs h
  rwa [Int.natAbs_mul, Int.natAbs_mul, Int.natAbs_pow, Int.natAbs_pow, natAbs_signed, natAbs_signed]
    at habs

theorem Normal.scale_le (hb : b.Normal) (h : a.mantissa * 10 ^ b.scale = b.mantissa * 10 ^ a.scale) :
    b.scale ≤ a.scale := by
  by_contra hlt
  obtain ⟨k, hk⟩ : ∃ k, b.scale = a.scale + (k + 1) := ⟨b.scale - a.scale - 1, by omega⟩
  have hpow : 0 < 10 ^ a.scale := Nat.pow_pos (by decide)
  have hmantissa : b.mantissa = a.mantissa * 10 ^ k * 10 := by
    refine Nat.eq_of_mul_eq_mul_right hpow ?_
    rw [← h, hk, pow_add, pow_succ]
    ring
  rcases hb.1 with hzero | hdigit
  · omega
  · rw [hmantissa, Nat.mul_mod_left] at hdigit
    exact hdigit rfl

theorem Normal.eq_of_same (ha : a.Normal) (hb : b.Normal) (h : Same a b) : a = b := by
  have hmul := h.mantissa_mul
  have hscale : a.scale = b.scale := Nat.le_antisymm (ha.scale_le hmul.symm) (hb.scale_le hmul)
  have hpow : 0 < 10 ^ b.scale := Nat.pow_pos (by decide)
  have hmantissa : a.mantissa = b.mantissa := by
    rw [hscale] at hmul
    exact Nat.eq_of_mul_eq_mul_right hpow hmul
  have hsigned : a.signed = b.signed := by
    have hsame : a.signed * 10 ^ b.scale = b.signed * 10 ^ a.scale := h
    rw [hscale] at hsame
    exact Int.eq_of_mul_eq_mul_right (Int.ne_of_gt (Int.pow_pos (by decide))) hsame
  by_cases hzero : a.mantissa = 0
  · exact ext_fields ((ha.2 hzero).trans (hb.2 (hmantissa ▸ hzero)).symm) hmantissa hscale
  · refine ext_fields ?_ hmantissa hscale
    unfold signed at hsigned
    rw [← hmantissa] at hsigned
    cases hneg : a.negative <;> cases hneg' : b.negative <;> simp only [hneg, hneg'] at hsigned ⊢ <;>
      simp only [if_true, Bool.false_eq_true, if_false] at hsigned <;> omega

end Decimal

namespace Amount

theorem eq_iff_same {a b : Amount} : a = b ↔ Decimal.Same a.value b.value := by
  constructor
  · rintro rfl
    exact rfl
  · intro h
    exact ext_value (a.normal.eq_of_same b.normal h)

end Amount
end Lending
