import Lending.Proofs.Decimal.Value

/-!
# Thresholds

A number that fits at all 28 places is rounded to a whole number of units of the last one. Compared with an
even number of these units, the decimal is on the same side as the number, except where the number is beyond
by no more than half a unit: there it is rounded to the threshold itself.
-/

namespace Lending.Decimal

variable {x : ℚ} {d : Decimal} {k : ℤ}

namespace Rounds

theorem neg (h : Rounds x d) : Rounds (-x) d.negate := by
  obtain ⟨c, hc, hnearest⟩ := h
  exact ⟨c.negate, by rw [toRat_negate, toRat_negate, hc], hnearest.neg⟩

theorem exists_units (h : Rounds x d) (hsmall : |x| * 10 ^ 28 + 1 / 2 < 2 ^ 96) :
    ∃ n : ℤ, d.toRat = n / 10 ^ 28 ∧ RoundsTo (x * 10 ^ 28) n := by
  obtain ⟨c, hc, hnearest⟩ := h
  rw [← hc]
  have hplaces := c.scale_le
  rcases hnearest.full with hexact | hover
  · obtain ⟨n, hunits⟩ := exists_toRat_mul_pow hplaces
    refine ⟨n, ?_, ?_⟩
    · rw [← hunits, mul_div_cancel_right₀ _ (by positivity)]
    · rw [← hexact, hunits]
      exact RoundsTo.intCast n
  · have hscale : c.scale = 28 := by
      by_contra hne
      exact (hover 28 (by omega) le_rfl).not_gt hsmall
    exact ⟨c.signed, by rw [toRat, hscale], hscale ▸ hnearest.roundsTo⟩

theorem le_units_iff (h : Rounds x d) (hk : Even k) (hroom : |k| + 1 < 2 ^ 96) :
    d.toRat ≤ k / 10 ^ 28 ↔ x ≤ (k + 1 / 2) / 10 ^ 28 := by
  have hpos : (0 : ℚ) < 10 ^ 28 := by positivity
  have hlower := neg_abs_le k
  have hupper := le_abs_self k
  rcases le_or_gt (x * 10 ^ 28) (k : ℚ) with hlow | hlow
  · obtain ⟨c, hc⟩ := exists_toRat_eq k (by omega) le_rfl
    refine iff_of_true ?_ ?_
    · rw [← hc]
      exact h.le_toRat (by rwa [hc, le_div_iff₀ hpos])
    · rw [le_div_iff₀ hpos]
      linarith
  rcases le_or_gt (k + 1 : ℚ) (x * 10 ^ 28) with hhigh | hhigh
  · obtain ⟨c, hc⟩ := exists_toRat_eq (k + 1) (by omega) le_rfl
    push_cast at hc
    have hle : c.toRat ≤ d.toRat := h.toRat_le (by rwa [hc, div_le_iff₀ hpos])
    have hlt : (k : ℚ) / 10 ^ 28 < c.toRat := by
      rw [hc, div_lt_div_iff_of_pos_right hpos]
      linarith
    have hbeyond : (k + 1 / 2 : ℚ) / 10 ^ 28 < x := by
      rw [div_lt_iff₀ hpos]
      linarith
    exact iff_of_false (hlt.trans_le hle).not_ge hbeyond.not_ge
  · -- less than a unit above the threshold, the number surely fits at all places
    have hsmall : |x| * 10 ^ 28 + 1 / 2 < 2 ^ 96 := by
      have hroom' : |(k : ℚ)| + 1 + 1 ≤ 2 ^ 96 := by exact_mod_cast hroom
      have habs : |x * 10 ^ 28| < |(k : ℚ)| + 1 := by
        rcases abs_cases (x * 10 ^ 28) with ⟨heq, -⟩ | ⟨heq, -⟩
        · linarith [le_abs_self (k : ℚ)]
        · linarith [neg_abs_le (k : ℚ)]
      rw [abs_mul, abs_of_pos hpos] at habs
      linarith
    obtain ⟨n, hn, hround⟩ := h.exists_units hsmall
    rw [hn, div_le_div_iff_of_pos_right hpos, Int.cast_le, hround.le_iff_of_even hk, le_div_iff₀ hpos]

theorem units_le_iff (h : Rounds x d) (hk : Even k) (hroom : |k| + 1 < 2 ^ 96) :
    k / 10 ^ 28 ≤ d.toRat ↔ (k - 1 / 2) / 10 ^ 28 ≤ x := by
  have hneg := h.neg.le_units_iff hk.neg (by rwa [abs_neg])
  push_cast at hneg
  rw [toRat_negate, neg_div, neg_le_neg_iff] at hneg
  rw [hneg, ← neg_le_neg_iff, neg_neg, ← neg_div, neg_add, neg_neg, ← sub_eq_add_neg]

end Rounds

/-- Nothing that a decimal can be lies between two numbers of units that follow each other. -/
theorem le_pred_of_lt (h : d.toRat < k / 10 ^ 28) : d.toRat ≤ (k - 1) / 10 ^ 28 := by
  have hpos : (0 : ℚ) < 10 ^ 28 := by positivity
  obtain ⟨n, hunits⟩ := exists_toRat_mul_pow d.scale_le
  rw [lt_div_iff₀ hpos, hunits] at h
  have hpred : n ≤ k - 1 := Int.le_sub_one_of_lt (by exact_mod_cast h)
  rw [le_div_iff₀ hpos, hunits]
  exact_mod_cast hpred

end Lending.Decimal
