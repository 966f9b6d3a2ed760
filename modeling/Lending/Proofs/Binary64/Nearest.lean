import Mathlib.Tactic.FieldSimp
import Mathlib.Tactic.Linarith
import Mathlib.Tactic.NormNum
import Mathlib.Tactic.Positivity
import Mathlib.Tactic.Ring
import Lending.Binary64.Arithmetic
import Lending.Proofs.Rounding

/-!
# Doubles nearest to a rational

The double nearest to a quotient depends on the number only, not on how the quotient is written. It follows
the order of the numbers, it is the number itself for whole numbers of at most 53 bits, and otherwise it
is off by at most half a unit in the last of 53 bits. Quotients of small denominators are far enough apart
for doubles to keep their order strictly.
-/

namespace Lending.Binary64

variable {q q' : ℚ} {shift shift' significand significand' : ℕ}

/-! ### Significand and shift of a number -/

/-- In units of the smallest double, the number has a significand of at most 53 bits under the shift, of
exactly so many where there is a shift. -/
structure Encodes (q : ℚ) (shift significand : ℕ) : Prop where
  below : q * 2 ^ unitPlaces < 2 ^ (shift + 53)
  above : 0 < shift → 2 ^ (shift + 52) ≤ q * 2 ^ unitPlaces
  rounds : RoundsTo (q * 2 ^ unitPlaces / 2 ^ shift) significand

/-- The binary logarithms of numerator and denominator, and which of the two leads, place a quotient
between neighbouring powers of two. -/
theorem exists_shiftOf_eq {num den : ℕ} (hnum : num ≠ 0) (hden : den ≠ 0) :
    ∃ top, shiftOf num den = top - den.log2 ∧
      den * 2 ^ (top + 52) ≤ num * 2 ^ (den.log2 + unitPlaces) ∧
      num * 2 ^ (den.log2 + unitPlaces) < den * 2 ^ (top + 53) := by
  have hnumLow : 2 ^ num.log2 ≤ num := Nat.log2_self_le hnum
  have hnumHigh : num < 2 ^ (num.log2 + 1) := Nat.lt_log2_self
  have hdenLow : 2 ^ den.log2 ≤ den := Nat.log2_self_le hden
  have hdenHigh : den < 2 ^ (den.log2 + 1) := Nat.lt_log2_self
  have hunit : unitPlaces = 1074 := rfl
  rw [shiftOf, if_neg hnum]
  generalize num.log2 = a at *
  generalize den.log2 = b at *
  refine ⟨_, rfl, ?_⟩
  split
  · rename_i hlead
    constructor
    · rw [show a + 1022 + 52 = a + unitPlaces by omega, Nat.pow_add, Nat.pow_add, ← Nat.mul_assoc,
        ← Nat.mul_assoc]
      exact Nat.mul_le_mul_right _ hlead
    · calc num * 2 ^ (b + unitPlaces)
        _ < 2 ^ (a + 1) * 2 ^ (b + unitPlaces) :=
            Nat.mul_lt_mul_of_pos_right hnumHigh (Nat.two_pow_pos _)
        _ = 2 ^ b * 2 ^ (a + 1022 + 53) := by
            rw [← Nat.pow_add, ← Nat.pow_add,
              show a + 1 + (b + unitPlaces) = b + (a + 1022 + 53) by omega]
        _ ≤ den * 2 ^ (a + 1022 + 53) := Nat.mul_le_mul_right _ hdenLow
  · rename_i htrail
    constructor
    · calc den * 2 ^ (a + 1021 + 52)
        _ ≤ 2 ^ (b + 1) * 2 ^ (a + 1021 + 52) := Nat.mul_le_mul_right _ hdenHigh.le
        _ = 2 ^ a * 2 ^ (b + unitPlaces) := by
            rw [← Nat.pow_add, ← Nat.pow_add,
              show b + 1 + (a + 1021 + 52) = a + (b + unitPlaces) by omega]
        _ ≤ num * 2 ^ (b + unitPlaces) := Nat.mul_le_mul_right _ hnumLow
    · rw [show a + 1021 + 53 = a + unitPlaces by omega, Nat.pow_add, Nat.pow_add, ← Nat.mul_assoc,
        ← Nat.mul_assoc]
      exact Nat.mul_lt_mul_of_pos_right (Nat.lt_of_not_le htrail) (Nat.two_pow_pos _)

theorem lt_of_shiftOf (num : ℕ) {den : ℕ} (hden : 0 < den) :
    num * 2 ^ unitPlaces < den * 2 ^ (shiftOf num den + 53) ∧
      (0 < shiftOf num den → den * 2 ^ (shiftOf num den + 52) ≤ num * 2 ^ unitPlaces) := by
  by_cases hnum : num = 0
  · subst hnum
    refine ⟨?_, fun hshift => absurd hshift (by simp [shiftOf])⟩
    rw [Nat.zero_mul]
    exact Nat.mul_pos hden (Nat.two_pow_pos _)
  obtain ⟨top, hshift, hlow, hhigh⟩ := exists_shiftOf_eq hnum (Nat.ne_of_gt hden)
  generalize shiftOf num den = shift at *
  generalize den.log2 = b at *
  rw [Nat.pow_add 2 b, Nat.mul_comm (2 ^ b), ← Nat.mul_assoc] at hlow hhigh
  refine ⟨Nat.lt_of_mul_lt_mul_right (a := 2 ^ b) ?_, fun hpos =>
    Nat.le_of_mul_le_mul_right (c := 2 ^ b) ?_ (Nat.two_pow_pos b)⟩
  · refine Nat.lt_of_lt_of_le hhigh ?_
    rw [Nat.mul_assoc, ← Nat.pow_add]
    exact Nat.mul_le_mul_left _ (Nat.pow_le_pow_right (by norm_num) (by omega))
  · refine Nat.le_trans ?_ hlow
    rw [Nat.mul_assoc, ← Nat.pow_add]
    exact Nat.mul_le_mul_left _ (Nat.pow_le_pow_right (by norm_num) (by omega))

theorem exists_encodes (negative : Bool) (num : ℕ) {den : ℕ} (hden : 0 < den) :
    ∃ shift significand, Encodes ((num : ℚ) / den) shift significand ∧
      (ofQuotient negative num den).magnitude
        = min (shift * 2 ^ 52 + significand) infiniteMagnitude := by
  have hpos : (0 : ℚ) < den := by exact_mod_cast hden
  obtain ⟨hbelow, habove⟩ := lt_of_shiftOf num hden
  refine ⟨shiftOf num den, _, ⟨?_, fun hshift => ?_, ?_⟩, rfl⟩
  · rw [div_mul_eq_mul_div, div_lt_iff₀ hpos, mul_comm _ (den : ℚ)]
    exact_mod_cast hbelow
  · rw [div_mul_eq_mul_div, le_div_iff₀ hpos, mul_comm _ (den : ℚ)]
    exact_mod_cast habove hshift
  · have hround := roundsTo_roundHalfEven (num * 2 ^ unitPlaces)
      (Nat.mul_pos hden (Nat.two_pow_pos (shiftOf num den)))
    push_cast at hround
    rwa [← div_div, mul_div_right_comm] at hround

namespace Encodes

theorem significand_le (h : Encodes q shift significand) : significand ≤ 2 ^ 53 := by
  have hle : q * 2 ^ unitPlaces / 2 ^ shift ≤ ((2 ^ 53 : ℤ) : ℚ) := by
    rw [div_le_iff₀ (by positivity), Int.cast_pow, Int.cast_ofNat, ← pow_add, Nat.add_comm]
    exact h.below.le
  exact_mod_cast h.rounds.le_intCast hle

theorem le_significand (h : Encodes q shift significand) (hshift : 0 < shift) :
    2 ^ 52 ≤ significand := by
  have hle : ((2 ^ 52 : ℤ) : ℚ) ≤ q * 2 ^ unitPlaces / 2 ^ shift := by
    rw [le_div_iff₀ (by positivity), Int.cast_pow, Int.cast_ofNat, ← pow_add, Nat.add_comm]
    exact h.above hshift
  exact_mod_cast h.rounds.intCast_le hle

theorem shift_le (h : Encodes q shift significand) (h' : Encodes q' shift' significand') (hle : q ≤ q') :
    shift ≤ shift' := by
  by_contra! hlt
  have hscaled : q * 2 ^ unitPlaces ≤ q' * 2 ^ unitPlaces :=
    mul_le_mul_of_nonneg_right hle (by positivity)
  have hpow : (2 : ℚ) ^ (shift' + 53) ≤ 2 ^ (shift + 52) :=
    pow_le_pow_right₀ (by norm_num) (by omega)
  have := h.above (Nat.zero_lt_of_lt hlt)
  have := h'.below
  linarith

theorem code_le (h : Encodes q shift significand) (h' : Encodes q' shift' significand') (hle : q ≤ q') :
    shift * 2 ^ 52 + significand ≤ shift' * 2 ^ 52 + significand' := by
  rcases Nat.eq_or_lt_of_le (h.shift_le h' hle) with rfl | hlt
  · have hscaled : q * 2 ^ unitPlaces / 2 ^ shift ≤ q' * 2 ^ unitPlaces / 2 ^ shift :=
      div_le_div_of_nonneg_right (mul_le_mul_of_nonneg_right hle (by positivity)) (by positivity)
    have : (significand : ℤ) ≤ significand' := h.rounds.le h'.rounds hscaled
    omega
  · have := h.significand_le
    have := h'.le_significand (Nat.zero_lt_of_lt hlt)
    omega

end Encodes

/-! ### The number that a double is -/

variable {x : Binary64}

/-- The number that a finite double is, without its sign. -/
def absRat (x : Binary64) : ℚ := x.numerator / x.denominator

theorem denominator_pos (x : Binary64) : 0 < x.denominator := Nat.two_pow_pos _

theorem absRat_nonneg (x : Binary64) : 0 ≤ x.absRat := by
  unfold absRat
  positivity

theorem absRat_eq (x : Binary64) : x.absRat = x.significand * 2 ^ x.shift / 2 ^ unitPlaces := by
  rw [absRat, numerator, denominator, div_eq_div_iff (by positivity) (by positivity)]
  push_cast
  rw [mul_assoc, mul_assoc, ← pow_add, ← pow_add,
    show x.shift - unitPlaces + unitPlaces = x.shift + (unitPlaces - x.shift) by omega]

theorem absRat_of_code (hcode : x.magnitude = shift * 2 ^ 52 + significand)
    (hle : significand ≤ 2 ^ 53) (hge : 0 < shift → 2 ^ 52 ≤ significand) :
    x.absRat = significand * 2 ^ shift / 2 ^ unitPlaces := by
  have hparts : x.significand * 2 ^ x.shift = significand * 2 ^ shift := by
    rw [Binary64.significand, Binary64.shift, hcode]
    by_cases hcarry : significand = 2 ^ 53
    · -- rounding up to the next power of two has carried into the exponent
      subst hcarry
      rw [if_neg (by omega), show (shift * 2 ^ 52 + 2 ^ 53) % 2 ^ 52 + 2 ^ 52 = 2 ^ 52 by omega,
        show (shift * 2 ^ 52 + 2 ^ 53) / 2 ^ 52 - 1 = shift + 1 by omega]
      ring
    · split
      · obtain rfl : shift = 0 := by omega
        rw [show (0 * 2 ^ 52 + significand) / 2 ^ 52 - 1 = 0 by omega, Nat.zero_mul, Nat.zero_add]
      · rw [show (shift * 2 ^ 52 + significand) % 2 ^ 52 + 2 ^ 52 = significand by omega,
          show (shift * 2 ^ 52 + significand) / 2 ^ 52 - 1 = shift by omega]
  rw [absRat_eq]
  congr 1
  exact_mod_cast hparts

namespace Encodes

theorem absRat_eq (h : Encodes q shift significand)
    (hcode : x.magnitude = shift * 2 ^ 52 + significand) :
    x.absRat = significand * 2 ^ shift / 2 ^ unitPlaces :=
  absRat_of_code hcode h.significand_le h.le_significand

/-- Half a unit in the last place is at most the number over `2 ^ 53`, or half the smallest double. -/
theorem near (h : Encodes q shift significand) (hcode : x.magnitude = shift * 2 ^ 52 + significand)
    (hq : 0 ≤ q) : |x.absRat - q| ≤ (q + 1) / 2 ^ 53 := by
  have hunit : (2 : ℚ) ^ 52 ≤ 2 ^ unitPlaces := pow_le_pow_right₀ (by norm_num) (by decide)
  have hshift : (2 : ℚ) ^ shift * 2 ^ 52 ≤ (q + 1) * 2 ^ unitPlaces := by
    rcases Nat.eq_zero_or_pos shift with rfl | hpos
    · rw [pow_zero, one_mul, add_mul, one_mul]
      exact hunit.trans (le_add_of_nonneg_left (by positivity))
    · rw [← pow_add]
      refine (h.above hpos).trans (mul_le_mul_of_nonneg_right ?_ (by positivity))
      linarith
  have hscale : (0 : ℚ) < 2 ^ shift / 2 ^ unitPlaces := by positivity
  have hdiff : q - x.absRat
      = (q * 2 ^ unitPlaces / 2 ^ shift - (significand : ℤ)) * (2 ^ shift / 2 ^ unitPlaces) := by
    rw [h.absRat_eq hcode]
    push_cast
    field_simp
  rw [abs_sub_comm, hdiff, abs_mul, abs_of_pos hscale]
  calc |q * 2 ^ unitPlaces / 2 ^ shift - (significand : ℤ)| * (2 ^ shift / 2 ^ unitPlaces)
    _ ≤ 1 / 2 * (2 ^ shift / 2 ^ unitPlaces) := mul_le_mul_of_nonneg_right h.rounds.near hscale.le
    _ = 2 ^ shift * 2 ^ 52 / (2 ^ 53 * 2 ^ unitPlaces) := by ring
    _ ≤ (q + 1) * 2 ^ unitPlaces / (2 ^ 53 * 2 ^ unitPlaces) :=
        div_le_div_of_nonneg_right hshift (by positivity)
    _ = (q + 1) / 2 ^ 53 := mul_div_mul_right _ _ (by positivity)

theorem absRat_eq_natCast {n : ℕ} (h : Encodes n shift significand)
    (hcode : x.magnitude = shift * 2 ^ 52 + significand) (hn : n < 2 ^ 53) : x.absRat = n := by
  have hshift : shift ≤ unitPlaces := by
    by_contra! hlt
    have hlarge := h.above (Nat.zero_lt_of_lt hlt)
    have hsmall : (n : ℚ) * 2 ^ unitPlaces < 2 ^ 53 * 2 ^ unitPlaces :=
      mul_lt_mul_of_pos_right (by exact_mod_cast hn) (by positivity)
    rw [← pow_add] at hsmall
    have hpow : (2 : ℚ) ^ (53 + unitPlaces) ≤ 2 ^ (shift + 52) :=
      pow_le_pow_right₀ (by norm_num) (by omega)
    linarith
  obtain ⟨k, hk⟩ := Nat.exists_eq_add_of_le hshift
  have hwhole : (n : ℚ) * 2 ^ unitPlaces / 2 ^ shift = ((n * 2 ^ k : ℕ) : ℤ) := by
    rw [hk, pow_add]
    push_cast
    field_simp
  have hrounds := h.rounds
  rw [hwhole] at hrounds
  have hsignificand : (significand : ℚ) = n * 2 ^ k := by
    exact_mod_cast hrounds.eq (RoundsTo.intCast _)
  rw [h.absRat_eq hcode, hsignificand, hk, pow_add]
  field_simp

end Encodes

/-! ### The double nearest to a quotient -/

variable {negative : Bool} {num den num' den' : ℕ}

/-- What is no larger than a decimal can be is far from the infinities. -/
theorem exists_code (negative : Bool) (hden : 0 < den) (hsmall : (num : ℚ) / den ≤ 2 ^ 128) :
    ∃ shift significand, Encodes ((num : ℚ) / den) shift significand ∧
      (ofQuotient negative num den).magnitude = shift * 2 ^ 52 + significand := by
  obtain ⟨shift, significand, hencodes, hcode⟩ := exists_encodes negative num hden
  refine ⟨shift, significand, hencodes, ?_⟩
  have hshift : shift ≤ 76 + unitPlaces := by
    by_contra! hlt
    have hlarge := hencodes.above (Nat.zero_lt_of_lt hlt)
    have hscaled : (num : ℚ) / den * 2 ^ unitPlaces ≤ 2 ^ 128 * 2 ^ unitPlaces :=
      mul_le_mul_of_nonneg_right hsmall (by positivity)
    have hpow : (2 : ℚ) ^ (128 + unitPlaces) < 2 ^ (shift + 52) :=
      pow_lt_pow_right₀ (by norm_num) (by omega)
    rw [pow_add] at hpow
    linarith
  have hle := hencodes.significand_le
  have hunit : unitPlaces = 1074 := rfl
  rw [hcode, infiniteMagnitude]
  omega

theorem ext_fields {x y : Binary64} (hsign : x.negative = y.negative)
    (hmagnitude : x.magnitude = y.magnitude) : x = y := by
  cases x; cases y; simp_all

theorem not_isNaN_ofQuotient (negative : Bool) (num den : ℕ) : ¬ (ofQuotient negative num den).IsNaN :=
  Nat.not_lt.2 (Nat.min_le_right _ _)

theorem magnitude_ofQuotient_le {negative negative' : Bool} (hden : 0 < den) (hden' : 0 < den')
    (hle : num * den' ≤ num' * den) :
    (ofQuotient negative num den).magnitude ≤ (ofQuotient negative' num' den').magnitude := by
  obtain ⟨shift, significand, hencodes, hcode⟩ := exists_encodes negative num hden
  obtain ⟨shift', significand', hencodes', hcode'⟩ := exists_encodes negative' num' hden'
  have hq : (num : ℚ) / den ≤ num' / den' := by
    rw [div_le_div_iff₀ (by positivity) (by positivity)]
    exact_mod_cast hle
  rw [hcode, hcode']
  exact min_le_min_right _ (hencodes.code_le hencodes' hq)

theorem ofQuotient_congr (hden : 0 < den) (hden' : 0 < den') (h : num * den' = num' * den) :
    ofQuotient negative num den = ofQuotient negative num' den' :=
  ext_fields rfl (Nat.le_antisymm (magnitude_ofQuotient_le hden hden' h.le)
    (magnitude_ofQuotient_le hden' hden h.ge))

theorem absRat_ofQuotient_near (negative : Bool) (hden : 0 < den) (hsmall : (num : ℚ) / den ≤ 2 ^ 128) :
    |(ofQuotient negative num den).absRat - num / den| ≤ (num / den + 1) / 2 ^ 53 := by
  obtain ⟨shift, significand, hencodes, hcode⟩ := exists_code negative hden hsmall
  exact hencodes.near hcode (by positivity)

theorem absRat_congr {x y : Binary64} (h : x.magnitude = y.magnitude) : x.absRat = y.absRat := by
  rw [absRat_eq, absRat_eq, Binary64.significand, Binary64.significand, Binary64.shift, Binary64.shift, h]

/-- Numbers with one nearest double are as close together as each of them is to it. -/
theorem sub_le_of_magnitude_eq {negative negative' : Bool} (hden : 0 < den) (hden' : 0 < den')
    (heq : (ofQuotient negative num den).magnitude = (ofQuotient negative' num' den').magnitude)
    (hsmall : (num : ℚ) / den ≤ 2 ^ 128) (hsmall' : (num' : ℚ) / den' ≤ 2 ^ 128) :
    (num' : ℚ) / den' - num / den ≤ (num / den + num' / den' + 2) / 2 ^ 53 := by
  obtain ⟨-, hhigh⟩ := abs_le.1 (absRat_ofQuotient_near negative hden hsmall)
  obtain ⟨hlow, -⟩ := abs_le.1 (absRat_ofQuotient_near negative' hden' hsmall')
  rw [absRat_congr heq] at hhigh
  linarith

/-- Doubles tell quotients apart whose denominators are small. -/
theorem magnitude_ofQuotient_lt (negative negative' : Bool) (hden : 0 < den) (hden' : 0 < den')
    (hlt : num * den' < num' * den) (hsmall : den * (num' + den') < 2 ^ 52) :
    (ofQuotient negative num den).magnitude < (ofQuotient negative' num' den').magnitude := by
  refine Nat.lt_of_le_of_ne (magnitude_ofQuotient_le hden hden' hlt.le) fun heq => ?_
  have hpos : (0 : ℚ) < den := by exact_mod_cast hden
  have hpos' : (0 : ℚ) < den' := by exact_mod_cast hden'
  have hunits : (1 : ℚ) ≤ den * den' := by exact_mod_cast Nat.mul_pos hden hden'
  have hclose := sub_le_of_magnitude_eq hden hden' heq
  have hnum : (num : ℚ) / den * den = num := div_mul_cancel₀ _ hpos.ne'
  have hnum' : (num' : ℚ) / den' * den' = num' := div_mul_cancel₀ _ hpos'.ne'
  have hnonneg : (0 : ℚ) ≤ num' / den' := by positivity
  generalize (num : ℚ) / den = q at *
  generalize (num' : ℚ) / den' = q' at *
  -- in units of both denominators the numbers differ by one at least, and one double stands for less
  have hgap : 1 ≤ (q' - q) * (den * den') := by
    have hsucc : (num * den' + 1 : ℚ) ≤ num' * den := by exact_mod_cast hlt
    rw [← hnum, ← hnum'] at hsucc
    linarith
  have hroom : (q' + 1) * (den * den') < 2 ^ 52 := by
    have hbound : (den * (num' + den') : ℚ) < 2 ^ 52 := by exact_mod_cast hsmall
    rw [← hnum'] at hbound
    linarith
  have horder : q ≤ q' := by
    by_contra! hgt
    have := mul_nonpos_of_nonpos_of_nonneg (sub_nonpos.2 hgt.le) (mul_pos hpos hpos').le
    linarith
  have hlarge : q' + 1 ≤ (q' + 1) * (den * den') := le_mul_of_one_le_right (by linarith) hunits
  have hsmallest : q' - q ≤ (q' + 1) / 2 ^ 52 := by
    linarith [hclose (by linarith) (by linarith)]
  have hscaled := mul_le_mul_of_nonneg_right hsmallest (mul_pos hpos hpos').le
  linarith

/-- Next to whole numbers the order of the doubles is that of the numbers. -/
theorem ofNat_le_ofQuotient_iff {n : ℕ} (hden : 0 < den) (hsmall : den * (n + 1) < 2 ^ 52) :
    ofNat n ≤ ofQuotient false num den ↔ n * den ≤ num := by
  constructor
  · rintro ⟨-, -, hsigned⟩
    by_contra! hlt
    have hmagnitude : (ofQuotient false num den).magnitude < (ofNat n).magnitude :=
      magnitude_ofQuotient_lt false false hden Nat.one_pos (by rwa [Nat.mul_one]) hsmall
    have hle : (ofNat n).magnitude ≤ (ofQuotient false num den).magnitude := Int.ofNat_le.1 hsigned
    exact absurd hmagnitude (Nat.not_lt.2 hle)
  · intro hle
    refine ⟨not_isNaN_ofQuotient _ _ _, not_isNaN_ofQuotient _ _ _, ?_⟩
    refine Int.ofNat_le.2 (magnitude_ofQuotient_le Nat.one_pos hden ?_)
    rwa [Nat.mul_one]

theorem absRat_ofNat {n : ℕ} (h : n < 2 ^ 53) : (ofNat n).absRat = n := by
  have hsmall : (n : ℚ) / (1 : ℕ) ≤ 2 ^ 128 := by
    have : (n : ℚ) < 2 ^ 53 := by exact_mod_cast h
    rw [Nat.cast_one, div_one]
    exact this.le.trans (by norm_num)
  obtain ⟨shift, significand, hencodes, hcode⟩ := exists_code false Nat.one_pos hsmall
  rw [Nat.cast_one, div_one] at hencodes
  exact hencodes.absRat_eq_natCast hcode h

end Lending.Binary64
