import Lending.Decimal.Conversion
import Lending.Proofs.Binary64.Nearest
import Lending.Proofs.Decimal.Value

/-!
# Short decimals become the nearest doubles

A decimal with places is converted in two parts, with a rounding at each of four steps. For a decimal of few
digits all these errors together stay below half a unit of its last place, so the rounding to its places
that follows finds the decimal itself again, and what remains is one division: the result is the double
nearest to the decimal.

A decimal of two places therefore becomes the double nearest to its number of hundredths. Doubles are close
enough together to tell these numbers apart, so their order is kept.
-/

namespace Lending

namespace Binary64

theorem absRat_zero : absRat zero = 0 := by
  rw [absRat_eq, significand, if_pos (by decide)]
  simp [zero]

theorem numerator_eq {x : Binary64} {n : ℕ} (h : x.absRat = n) : x.numerator = n * x.denominator := by
  have hpos : (0 : ℚ) < x.denominator := by exact_mod_cast x.denominator_pos
  rw [absRat, div_eq_iff hpos.ne'] at h
  exact_mod_cast h

theorem ofNat_dividedBy_ofNat {n m : ℕ} (hn : n < 2 ^ 53) (hm : m < 2 ^ 53) (hpos : 0 < m) :
    (ofNat n).dividedBy (ofNat m) = ofQuotient false n m := by
  have hnum := numerator_eq (absRat_ofNat hn)
  have hden := numerator_eq (absRat_ofNat hm)
  refine ofQuotient_congr ?_ hpos ?_
  · rw [hden]
    exact Nat.mul_pos (denominator_pos _) (Nat.mul_pos hpos (denominator_pos _))
  · rw [hnum, hden]
    ring

theorem absRat_plus_near {x y : Binary64} (hsmall : x.absRat + y.absRat ≤ 2 ^ 128) :
    |(x.plus y).absRat - (x.absRat + y.absRat)| ≤ (x.absRat + y.absRat + 1) / 2 ^ 53 := by
  have hx : (0 : ℚ) < x.denominator := by exact_mod_cast x.denominator_pos
  have hy : (0 : ℚ) < y.denominator := by exact_mod_cast y.denominator_pos
  have hsum : x.absRat + y.absRat = ((x.numerator * y.denominator + y.numerator * x.denominator : ℕ) : ℚ)
      / (x.denominator * y.denominator : ℕ) := by
    rw [absRat, absRat, div_add_div _ _ hx.ne' hy.ne']
    push_cast
    ring
  rw [hsum] at hsmall ⊢
  exact absRat_ofQuotient_near _ (Nat.mul_pos x.denominator_pos y.denominator_pos) hsmall

theorem absRat_times_near {x y : Binary64} (hsmall : x.absRat * y.absRat ≤ 2 ^ 128) :
    |(x.times y).absRat - x.absRat * y.absRat| ≤ (x.absRat * y.absRat + 1) / 2 ^ 53 := by
  have hproduct : x.absRat * y.absRat
      = ((x.numerator * y.numerator : ℕ) : ℚ) / (x.denominator * y.denominator : ℕ) := by
    rw [absRat, absRat, div_mul_div_comm]
    push_cast
    rfl
  rw [hproduct] at hsmall ⊢
  exact absRat_ofQuotient_near _ (Nat.mul_pos x.denominator_pos y.denominator_pos) hsmall

/-- A number less than half a unit away from a natural is rounded to it. -/
theorem rounded_eq {x : Binary64} {n : ℕ} (h : |x.absRat - n| < 1 / 2) :
    x.rounded = ofQuotient x.negative n 1 := by
  have hpos : (0 : ℚ) < x.denominator := by exact_mod_cast x.denominator_pos
  have hround : roundHalfUp x.numerator x.denominator = n := by
    rw [absRat, abs_lt, lt_sub_iff_add_lt, sub_lt_iff_lt_add, lt_div_iff₀ hpos, div_lt_iff₀ hpos] at h
    obtain ⟨hlow, hhigh⟩ := h
    refine Nat.div_eq_of_lt_le ?_ ?_
    · have : ((n * (2 * x.denominator) : ℕ) : ℚ) ≤ (2 * x.numerator + x.denominator : ℕ) := by
        push_cast
        linarith
      exact_mod_cast this
    · have : ((2 * x.numerator + x.denominator : ℕ) : ℚ) < ((n + 1) * (2 * x.denominator) : ℕ) := by
        push_cast
        linarith
      exact_mod_cast this
  rw [rounded, hround]

/-! ### Hundredths -/

def ofHundredths (n : ℤ) : Binary64 := ofQuotient (decide (n < 0)) n.natAbs 100

/-- Different numbers of hundredths are too far apart for one double. -/
theorem magnitude_hundredths_lt (negative negative' : Bool) {m n : ℕ} (hlt : m < n) (hn : n < 2 ^ 40) :
    (ofQuotient negative m 100).magnitude < (ofQuotient negative' n 100).magnitude :=
  magnitude_ofQuotient_lt negative negative' (by norm_num) (by norm_num) (by omega) (by omega)

theorem ofHundredths_lt {m n : ℤ} (hlt : m < n) (hm : m.natAbs < 2 ^ 40) (hn : n.natAbs < 2 ^ 40) :
    ofHundredths m < ofHundredths n := by
  refine ⟨not_isNaN_ofQuotient _ _ _, not_isNaN_ofQuotient _ _ _, ?_⟩
  have hmagnitude : ∀ {a b : ℤ}, a.natAbs < b.natAbs → b.natAbs < 2 ^ 40 →
      (ofHundredths a).magnitude < (ofHundredths b).magnitude :=
    fun h hb => magnitude_hundredths_lt _ _ h hb
  have hsigned : ∀ a : ℤ, (ofHundredths a).signed =
      if a < 0 then -((ofHundredths a).magnitude : ℤ) else (ofHundredths a).magnitude := by
    intro a
    rw [signed]
    exact if_congr decide_eq_true_iff rfl rfl
  rw [hsigned, hsigned]
  rcases lt_or_ge m 0 with hmneg | hmpos
  · rw [if_pos hmneg]
    split
    · have := hmagnitude (a := n) (b := m) (by omega) hm
      omega
    · have := hmagnitude (a := 0) (b := m) (by omega) hm
      omega
  · rw [if_neg (by omega), if_neg (by omega)]
    exact_mod_cast hmagnitude (by omega) hn

theorem ofHundredths_le {m n : ℤ} (hle : m ≤ n) (hm : m.natAbs < 2 ^ 40) (hn : n.natAbs < 2 ^ 40) :
    ofHundredths m ≤ ofHundredths n := by
  rcases hle.eq_or_lt with rfl | hlt
  · exact ⟨not_isNaN_ofQuotient _ _ _, not_isNaN_ofQuotient _ _ _, le_rfl⟩
  · obtain ⟨hnum, hnum', hsigned⟩ := ofHundredths_lt hlt hm hn
    exact ⟨hnum, hnum', hsigned.le⟩

theorem magnitude_ofHundredths_pos {n : ℤ} (hne : n ≠ 0) (hn : n.natAbs < 2 ^ 40) :
    0 < (ofHundredths n).magnitude :=
  Nat.zero_lt_of_lt (magnitude_hundredths_lt false _ (Int.natAbs_pos.2 hne) hn)

theorem ofHundredths_hundred_mul (n : ℕ) : ofHundredths (100 * n) = ofNat n := by
  rw [ofHundredths, decide_eq_false (by omega), ofNat]
  exact ofQuotient_congr (by norm_num) (by norm_num) (by omega)

end Binary64

namespace Decimal

open Binary64

/-- Fraction and sum add at most what they compute, and one more each, in units of `2 ^ -53`. -/
theorem plus_near {whole fraction : Binary64} {mantissa rest ten : ℚ} (hten : 1 ≤ ten) (hrest : rest ≤ ten)
    (hmantissa : mantissa < 2 ^ 50) (hsplit : whole.absRat * ten + rest = mantissa)
    (hfraction : |fraction.absRat - rest / ten| ≤ (rest / ten + 1) / 2 ^ 53) :
    |(whole.plus fraction).absRat - mantissa / ten| ≤ (mantissa / ten + 4) / 2 ^ 53 := by
  have htenPos : 0 < ten := by linarith
  have hwholeNonneg := whole.absRat_nonneg
  have hfractionNonneg := fraction.absRat_nonneg
  have hquotientLe : rest / ten ≤ 1 := (div_le_one htenPos).2 hrest
  have hquotient : whole.absRat + rest / ten = mantissa / ten := by
    rw [← hsplit]
    field_simp
  have hlarge : mantissa / ten ≤ 2 ^ 50 := (div_le_iff₀ htenPos).2 (by nlinarith)
  obtain ⟨hlow, hhigh⟩ := abs_le.1 hfraction
  have hsum := absRat_plus_near (x := whole) (y := fraction) (by linarith)
  rw [abs_le] at hsum ⊢
  constructor <;> linarith

/-- The product brings the error up to units of the last place, where it stays below one half. -/
theorem times_near {sum unit : Binary64} {mantissa ten : ℚ} (hten : 1 ≤ ten) (hten' : ten ≤ 10 ^ 14)
    (hmantissa : mantissa < 2 ^ 50) (hunit : unit.absRat = ten)
    (hsum : |sum.absRat - mantissa / ten| ≤ (mantissa / ten + 4) / 2 ^ 53) :
    |(sum.times unit).absRat - mantissa| < 1 / 2 := by
  have htenPos : 0 < ten := by linarith
  have hscaled : |sum.absRat * ten - mantissa| ≤ (mantissa + 4 * ten) / 2 ^ 53 :=
    calc |sum.absRat * ten - mantissa|
      _ = |(sum.absRat - mantissa / ten) * ten| := by
          congr 1
          field_simp
      _ = |sum.absRat - mantissa / ten| * ten := by rw [abs_mul, abs_of_pos htenPos]
      _ ≤ (mantissa / ten + 4) / 2 ^ 53 * ten := mul_le_mul_of_nonneg_right hsum htenPos.le
      _ = (mantissa + 4 * ten) / 2 ^ 53 := by field_simp
  obtain ⟨hlow, hhigh⟩ := abs_le.1 hscaled
  have hproduct := absRat_times_near (x := sum) (y := unit) (by rw [hunit]; linarith)
  rw [hunit] at hproduct
  obtain ⟨hlow', hhigh'⟩ := abs_le.1 hproduct
  rw [abs_lt]
  constructor <;> linarith

theorem times_plus_near {whole fraction unit : Binary64} {mantissa places : ℕ}
    (hmantissa : mantissa < 2 ^ 50) (hplaces : places ≤ 14)
    (hwhole : whole.absRat = (mantissa / 10 ^ places : ℕ)) (hunit : unit.absRat = (10 ^ places : ℕ))
    (hfraction : |fraction.absRat - (mantissa % 10 ^ places : ℕ) / (10 ^ places : ℕ)|
      ≤ ((mantissa % 10 ^ places : ℕ) / (10 ^ places : ℕ) + 1) / 2 ^ 53) :
    |((whole.plus fraction).times unit).absRat - mantissa| < 1 / 2 := by
  have hten : (1 : ℚ) ≤ (10 ^ places : ℕ) := by exact_mod_cast Nat.one_le_pow _ _ (by norm_num)
  have hten' : ((10 ^ places : ℕ) : ℚ) ≤ 10 ^ 14 := by
    exact_mod_cast Nat.pow_le_pow_right (by norm_num) hplaces
  have hmantissa' : (mantissa : ℚ) < 2 ^ 50 := by exact_mod_cast hmantissa
  have hrest : ((mantissa % 10 ^ places : ℕ) : ℚ) ≤ (10 ^ places : ℕ) := by
    exact_mod_cast (Nat.mod_lt mantissa (Nat.pow_pos (by norm_num))).le
  have hsplit : whole.absRat * (10 ^ places : ℕ) + (mantissa % 10 ^ places : ℕ) = mantissa := by
    rw [hwhole]
    exact_mod_cast Nat.div_add_mod' mantissa (10 ^ places)
  exact times_near hten hten' hmantissa' hunit (plus_near hten hrest hmantissa' hsplit hfraction)

theorem placedBinary64_eq {mantissa places : ℕ} (hmantissa : mantissa < 2 ^ 50) (hplaces : places ≤ 14) :
    placedBinary64 mantissa places = ofQuotient false mantissa (10 ^ places) := by
  have hten : 10 ^ places < 2 ^ 53 :=
    (Nat.pow_le_pow_right (by norm_num) hplaces).trans_lt (by norm_num)
  have htenPos : 0 < 10 ^ places := Nat.pow_pos (by norm_num)
  have hrest : mantissa % 10 ^ places < 2 ^ 53 := (Nat.mod_lt _ htenPos).trans hten
  have hwhole : mantissa / 10 ^ places < 2 ^ 53 :=
    (Nat.div_le_self _ _).trans_lt (hmantissa.trans (by norm_num))
  have hquotient : ((mantissa % 10 ^ places : ℕ) : ℚ) / (10 ^ places : ℕ) ≤ 1 :=
    (div_le_one (by exact_mod_cast htenPos)).2 (by exact_mod_cast (Nat.mod_lt _ htenPos).le)
  have hfraction := absRat_ofQuotient_near false htenPos (hquotient.trans (by norm_num))
  rw [placedBinary64, powerOfTen, ofNat_dividedBy_ofNat hrest hten htenPos]
  split
  · rename_i hzero
    have hexact : mantissa % 10 ^ places = 0 := by
      have htenLe : ((10 ^ places : ℕ) : ℚ) ≤ 10 ^ 14 := by
        exact_mod_cast Nat.pow_le_pow_right (by norm_num) hplaces
      rw [hzero, absRat_zero, zero_sub, abs_neg, abs_of_nonneg (by positivity)] at hfraction
      have hsmall : ((mantissa % 10 ^ places : ℕ) : ℚ) / (10 ^ places : ℕ) ≤ 2 / 2 ^ 53 := by linarith
      rw [div_le_iff₀ (by exact_mod_cast htenPos)] at hsmall
      have : ((mantissa % 10 ^ places : ℕ) : ℚ) < 1 := by linarith
      exact Nat.lt_one_iff.1 (by exact_mod_cast this)
    refine ofQuotient_congr Nat.one_pos htenPos ?_
    rw [Nat.mul_one, Nat.div_mul_cancel (Nat.dvd_of_mod_eq_zero hexact)]
  · have hnear := times_plus_near hmantissa hplaces (absRat_ofNat hwhole) (absRat_ofNat hten) hfraction
    rw [rounded_eq hnear]
    exact ofNat_dividedBy_ofNat (hmantissa.trans (by norm_num)) hten htenPos

theorem Proper.toBinary64_eq {d : Decimal} (h : d.Proper) (hmantissa : d.mantissa < 2 ^ 50)
    (hscale : d.scale ≤ 14) :
    d.toBinary64 = ofQuotient d.negative d.mantissa (10 ^ d.scale) := by
  rw [toBinary64]
  split
  · rename_i hwhole
    have hsign : (d.negative && !d.isZero) = d.negative := by
      cases hzero : d.isZero with
      | false => rw [Bool.not_false, Bool.and_true]
      | true => rw [h (beq_iff_eq.1 hzero), Bool.false_and]
    rw [hsign, hwhole, pow_zero]
  · rw [placedBinary64_eq hmantissa hscale]
    rfl

/-- A decimal of at most two places becomes the double nearest to its number of hundredths. -/
theorem Proper.toBinary64_eq_ofHundredths {d : Decimal} {n : ℤ} (h : d.Proper) (hscale : d.scale ≤ 2)
    (hvalue : d.toRat = n / 100) (hsmall : n.natAbs < 2 ^ 50) : d.toBinary64 = ofHundredths n := by
  have hsigned : d.signed * 100 = n * 10 ^ d.scale := by
    rw [toRat, div_eq_div_iff (by positivity) (by norm_num)] at hvalue
    exact_mod_cast hvalue
  have hmantissa : d.mantissa * 100 = n.natAbs * 10 ^ d.scale := by
    have habs := congrArg Int.natAbs hsigned
    rwa [Int.natAbs_mul, Int.natAbs_mul, Int.natAbs_pow, natAbs_signed] at habs
  have hle : d.mantissa ≤ n.natAbs := by
    have hten : 10 ^ d.scale ≤ 10 ^ 2 := Nat.pow_le_pow_right (by norm_num) hscale
    have hproduct := Nat.mul_le_mul_left n.natAbs hten
    omega
  have hsign : d.negative = decide (n < 0) := by
    have hiff : d.toRat < 0 ↔ n < 0 := by
      rw [hvalue, div_lt_iff₀ (by norm_num), zero_mul]
      exact_mod_cast Iff.rfl
    rw [h.negative_eq]
    exact decide_eq_decide.2 hiff
  rw [h.toBinary64_eq (hle.trans_lt hsmall) (hscale.trans (by norm_num)), hsign]
  exact ofQuotient_congr (by positivity) (by norm_num) hmantissa

theorem not_isNaN_toBinary64 (d : Decimal) : ¬ d.toBinary64.IsNaN := by
  rw [toBinary64]
  split
  · exact not_isNaN_ofQuotient _ _ _
  · rw [placedBinary64]
    split
    · exact not_isNaN_ofQuotient _ _ _
    · exact not_isNaN_ofQuotient _ _ _

theorem toBinary64_of_nonneg {d : Decimal} (h : d.negative = false) : d.toBinary64.negative = false := by
  rw [toBinary64]
  split
  · exact (congrArg (· && !d.isZero) h).trans (Bool.false_and _)
  · exact h

end Decimal
end Lending
