import Lending.Proofs.Decimal.Threshold
import Lending.Proofs.Scoring.Features

/-!
# Points for the ratio to the revenue

The requested amount is sized by its ratio to the revenue, a quotient that is rounded at 28 places before it is
compared with the tenths of the scale. The points are therefore those of the exact comparison with every
threshold raised by half a unit of the last place. That is never to the disadvantage of the applicant, and it
makes no difference for amounts with few enough digits.
-/

namespace Lending

namespace Scoring

variable {ratio : Decimal} {amount revenue : Amount}

/-- The points for an amount out of a revenue when the two are compared without rounding, with a margin above
each threshold. -/
def pointsWithin (margin amount revenue : ℚ) : ℕ :=
  if 10 * amount ≤ (1 + margin) * revenue then 15
  else if 10 * amount ≤ (2 + margin) * revenue then 12
  else if 10 * amount ≤ (3 + margin) * revenue then 9
  else if 10 * amount ≤ (5 + margin) * revenue then 6
  else 3

/-- What rounding at 28 places leaves unnoticed, in tenths. -/
def roundingMargin : ℚ := 5 / 10 ^ 28

theorem toRat_tenths {n : ℕ} (h : n < 2 ^ 96) : (Decimal.tenths n).toRat = n / 10 := by
  rw [Decimal.tenths, dif_pos h, Decimal.toRat_of_nonneg rfl, pow_one]

theorem ratioScale_points (ratio : Decimal) : ratioScale.points ratio =
    if ratio ≤ .tenths 1 then 15 else if ratio ≤ .tenths 2 then 12
    else if ratio ≤ .tenths 3 then 9 else if ratio ≤ .tenths 5 then 6 else 3 := by
  simp only [ratioScale, Scale.points_cons, Scale.points_nil, decide_eq_true_eq]

theorem ratio_le_tenths_iff (h : revenue.isZero = false) (hratio : amount.ratio? revenue = some ratio)
    {n : ℕ} (hn : n < 8) : ratio ≤ .tenths n ↔
      10 * amount.value.toRat ≤ (n + roundingMargin) * revenue.value.toRat := by
  have hpos := Amount.toRat_pos h
  have hrounds := (Amount.ratio?_computes h amount).rounds ratio hratio
  have heven : Even (n * 10 ^ 27 : ℤ) := (by decide : Even (10 ^ 27 : ℤ)).mul_left n
  have htenths : (Decimal.tenths n).toRat = ((n * 10 ^ 27 : ℤ) : ℚ) / 10 ^ 28 := by
    rw [toRat_tenths (by omega)]
    push_cast
    ring
  rw [Decimal.le_iff_toRat_le, htenths, hrounds.le_units_iff heven (by rw [abs_of_nonneg (by omega)]; omega),
    div_le_div_iff₀ hpos (by positivity), roundingMargin]
  push_cast
  constructor <;> intro hle <;> linarith

/-- A ratio that is too large to be known is beyond every threshold. -/
theorem lt_of_ratio?_eq_none (h : revenue.isZero = false) (hratio : amount.ratio? revenue = none) :
    revenue.value.toRat < amount.value.toRat := by
  by_contra! hle
  obtain ⟨ratio, hsome, -⟩ := Amount.exists_ratio? h (Amount.le_iff_toRat_le.2 hle)
  rw [hratio] at hsome
  cases hsome

theorem ratioPoints_eq (h : revenue.isZero = false) :
    ratioScale.pointsAt (ratioPosition (amount.ratio? revenue)) =
      pointsWithin roundingMargin amount.value.toRat revenue.value.toRat := by
  cases hratio : amount.ratio? revenue with
  | some ratio =>
      have htier := fun n hn => ratio_le_tenths_iff h hratio (n := n) hn
      show ratioScale.points ratio = _
      rw [ratioScale_points, pointsWithin]
      simp only [htier 1 (by decide), htier 2 (by decide), htier 3 (by decide), htier 5 (by decide),
        Nat.cast_one, Nat.cast_ofNat]
  | none =>
      have hpos := Amount.toRat_pos h
      have hlt := lt_of_ratio?_eq_none h hratio
      have hbeyond : ∀ n : ℚ, n ≤ 5 →
          ¬ 10 * amount.value.toRat ≤ (n + roundingMargin) * revenue.value.toRat := by
        intro n hn hle
        have hmargin : n + roundingMargin ≤ 10 := by
          rw [roundingMargin]
          linarith
        have := mul_le_mul_of_nonneg_right hmargin hpos.le
        linarith
      rw [pointsWithin, if_neg (hbeyond 1 (by norm_num)), if_neg (hbeyond 2 (by norm_num)),
        if_neg (hbeyond 3 (by norm_num)), if_neg (hbeyond 5 (by norm_num))]
      rfl

/-! ### With and without a margin -/

theorem pointsWithin_zero_le {margin amount revenue : ℚ} (hmargin : 0 ≤ margin) (hrevenue : 0 ≤ revenue) :
    pointsWithin 0 amount revenue ≤ pointsWithin margin amount revenue := by
  have hwithin : ∀ n : ℚ, 10 * amount ≤ (n + 0) * revenue → 10 * amount ≤ (n + margin) * revenue := by
    intro n hle
    have := mul_nonneg hmargin hrevenue
    linarith
  have h1 := hwithin 1
  have h2 := hwithin 2
  have h3 := hwithin 3
  have h5 := hwithin 5
  unfold pointsWithin
  grind

/-- With few digits, the margin is less than a unit of the last place. -/
theorem pointsWithin_roundingMargin_eq {places : ℕ}
    (hplaces : max amount.value.scale revenue.value.scale ≤ places)
    (hdigits : revenue.value.toRat * 10 ^ places < 2 * 10 ^ 27) :
    pointsWithin roundingMargin amount.value.toRat revenue.value.toRat =
      pointsWithin 0 amount.value.toRat revenue.value.toRat := by
  have hpow : (0 : ℚ) < 10 ^ places := by positivity
  obtain ⟨q, hamount⟩ := Decimal.exists_toRat_mul_pow ((Nat.le_max_left _ _).trans hplaces)
  obtain ⟨v, hrevenue⟩ := Decimal.exists_toRat_mul_pow ((Nat.le_max_right _ _).trans hplaces)
  have hnonneg := mul_nonneg revenue.toRat_nonneg hpow.le
  rw [hrevenue] at hdigits hnonneg
  have hbrought : ∀ (n : ℕ) (margin : ℚ),
      10 * amount.value.toRat ≤ (n + margin) * revenue.value.toRat ↔ (10 * q : ℚ) ≤ (n + margin) * v := by
    intro n margin
    rw [← mul_le_mul_iff_of_pos_right hpow, mul_assoc, mul_assoc, hamount, hrevenue]
  have hsame : ∀ n : ℕ, 10 * amount.value.toRat ≤ (n + roundingMargin) * revenue.value.toRat ↔
      10 * amount.value.toRat ≤ (n + 0) * revenue.value.toRat := by
    intro n
    rw [hbrought, hbrought, roundingMargin]
    constructor
    · intro hle
      have hlt : (10 * q - n * v : ℚ) < 1 := by linarith
      have hlt' : 10 * q - n * v < 1 := by exact_mod_cast hlt
      have hle' : 10 * q ≤ n * v := by omega
      rw [add_zero]
      exact_mod_cast hle'
    · intro hle
      linarith
  simp only [pointsWithin]
  have h1 := hsame 1
  have h2 := hsame 2
  have h3 := hsame 3
  have h5 := hsame 5
  push_cast at h1 h2 h3 h5
  simp only [h1, h2, h3, h5]

end Scoring

namespace Features

open Scoring

/-- **The points for the ratio follow the true ratio up to a margin.** For every request by a business with a
revenue, the overall score contains, beside the points for business age, revenue and credit history, those of
the exact comparison of the requested amount with the revenue within the margin that rounding leaves. They are
never fewer than without any margin, and the same if the revenue has few enough units of the last place. -/
theorem score_ratio_points (profile : Profile) (request : Request) (h : profile.revenue.isZero = false) :
    let f := Features.ofRequest profile request
    let amount := request.amount.value.toRat
    let revenue := profile.revenue.value.toRat
    let places := max request.amount.value.scale profile.revenue.value.scale
    f.score = ageScale.points f.years + revenueScale.points f.revenue + creditScale.points f.credit +
      pointsWithin roundingMargin amount revenue ∧
    pointsWithin 0 amount revenue ≤ pointsWithin roundingMargin amount revenue ∧
    (revenue * 10 ^ places < 2 * 10 ^ 27 →
      pointsWithin roundingMargin amount revenue = pointsWithin 0 amount revenue) := by
  intro f amount revenue places
  have hpoints : ratioScale.pointsAt (ratioPosition f.ratio?) =
      pointsWithin roundingMargin amount revenue := ratioPoints_eq h
  refine ⟨?_, pointsWithin_zero_le (by norm_num [roundingMargin]) profile.revenue.toRat_nonneg,
    fun hdigits => pointsWithin_roundingMargin_eq le_rfl hdigits⟩
  rw [score_eq_add, hpoints]

/-- One hundredth more than a tenth of a million costs the points of the first tier. -/
theorem score_ratio_points_hundredth :
    let revenue : Amount := ⟨⟨false, 1000000, 0, by decide, by decide⟩, rfl, by decide⟩
    let amount : Amount := ⟨⟨false, 10000001, 2, by decide, by decide⟩, rfl, by decide⟩
    let profile : Profile := { Profile.empty with revenue? := some revenue }
    let f := Features.ofRequest profile ⟨amount, .workingCapital, none, none⟩
    profile.revenue.isZero = false ∧
    f.score = ageScale.points f.years + revenueScale.points f.revenue + creditScale.points f.credit + 12 := by
  intro revenue amount profile f
  have hpositive : profile.revenue.isZero = false := by decide
  obtain ⟨hscore, -, hexact⟩ := score_ratio_points profile ⟨amount, .workingCapital, none, none⟩ hpositive
  have hrevenue : profile.revenue.value.toRat = 1000000 := by
    rw [Decimal.toRat_of_nonneg rfl]
    norm_num [profile, revenue, Profile.revenue]
  have hamount : amount.value.toRat = 10000001 / 100 := by
    rw [Decimal.toRat_of_nonneg rfl]
    norm_num [amount]
  have hplaces : max amount.value.scale profile.revenue.value.scale = 2 := rfl
  rw [hplaces] at hexact
  refine ⟨hpositive, ?_⟩
  rw [hscore, hexact (by rw [hrevenue]; norm_num), hrevenue, hamount]
  norm_num [pointsWithin, f]

/-- More than a tenth of the revenue is requested, and rounding gives the points of a tenth. -/
theorem ratio_points_unnoticed :
    let revenue : Amount :=
      ⟨⟨false, 29999999999999999999999999999, 28, by decide, by decide⟩, rfl, by decide⟩
    let amount : Amount := ⟨⟨false, 3, 1, by decide, by decide⟩, rfl, by decide⟩
    let profile : Profile := { Profile.empty with revenue? := some revenue }
    let f := Features.ofRequest profile ⟨amount, .workingCapital, none, none⟩
    revenue.value.toRat < 10 * amount.value.toRat ∧ pointsWithin 0 amount.value.toRat revenue.value.toRat = 12 ∧
    ratioScale.pointsAt (ratioPosition f.ratio?) = 15 := by
  intro revenue amount profile f
  have hrevenue : revenue.value.toRat = 29999999999999999999999999999 / 10 ^ 28 := Decimal.toRat_of_nonneg rfl
  have hamount : amount.value.toRat = 3 / 10 ^ 1 := Decimal.toRat_of_nonneg rfl
  rw [hrevenue, hamount]
  refine ⟨by norm_num, by norm_num [pointsWithin], by decide +kernel⟩

end Features
end Lending
