import Mathlib.Tactic.FieldSimp
import Mathlib.Tactic.Linarith
import Mathlib.Tactic.NormNum
import Mathlib.Tactic.Positivity
import Mathlib.Tactic.Ring
import Lending.Decimal.Arithmetic
import Lending.Proofs.Decimal.Normal
import Lending.Proofs.Rounding

/-!
# Decimals round exact results

A decimal is a rational, and every operation gives its exact result rounded to a decimal: half to even, at
the largest number of places at which it fits, unless no rounding is needed at all. What later arguments use
of it is little: the rounding follows the order of the exact results, it keeps what is a decimal already, and
there is a result wherever the exact one is not too large. Nothing that is computed is a zero with a sign.
-/

namespace Lending.Decimal

variable {a b c d : Decimal} {x y : ℚ}

/-! ### The number that a decimal is -/

def toRat (d : Decimal) : ℚ := d.signed / 10 ^ d.scale

theorem toRat_mul_pow (d : Decimal) : d.toRat * 10 ^ d.scale = d.signed :=
  div_mul_cancel₀ _ (by positivity)

/-- Brought to more places, a decimal is a whole number of units of the last one. -/
theorem toRat_mul_pow_of_le {places : ℕ} (h : d.scale ≤ places) :
    d.toRat * 10 ^ places = (d.signed * 10 ^ (places - d.scale) : ℤ) := by
  obtain ⟨k, rfl⟩ := Nat.exists_eq_add_of_le h
  rw [pow_add, ← mul_assoc, toRat_mul_pow, Nat.add_sub_cancel_left]
  push_cast
  rfl

theorem exists_toRat_mul_pow {places : ℕ} (h : d.scale ≤ places) : ∃ n : ℤ, d.toRat * 10 ^ places = n :=
  ⟨_, toRat_mul_pow_of_le h⟩

theorem le_iff_toRat_le : a ≤ b ↔ a.toRat ≤ b.toRat := by
  rw [le_def, toRat, toRat, div_le_div_iff₀ (by positivity) (by positivity)]
  exact_mod_cast Iff.rfl

theorem lt_iff_toRat_lt : a < b ↔ a.toRat < b.toRat := by
  rw [← Decimal.not_le, le_iff_toRat_le, lt_iff_not_ge]

theorem same_iff_toRat_eq : Same a b ↔ a.toRat = b.toRat := by
  rw [same_iff_le, le_iff_toRat_le, le_iff_toRat_le, ← le_antisymm_iff]

theorem toRat_normalize (d : Decimal) : d.normalize.toRat = d.toRat :=
  same_iff_toRat_eq.1 d.normalize_same

theorem signed_negate (d : Decimal) : d.negate.signed = -d.signed := by
  cases h : d.negative <;> simp [signed, negate, h]

theorem toRat_negate (d : Decimal) : d.negate.toRat = -d.toRat := by
  rw [toRat, signed_negate, Int.cast_neg, neg_div]
  rfl

theorem signed_of_nonneg (h : d.negative = false) : d.signed = d.mantissa := by
  rw [signed, h, if_neg Bool.false_ne_true]

theorem toRat_of_nonneg (h : d.negative = false) : d.toRat = d.mantissa / 10 ^ d.scale := by
  rw [toRat, signed_of_nonneg h, Int.cast_natCast]

theorem toRat_nonneg (h : d.negative = false) : 0 ≤ d.toRat := by
  rw [toRat_of_nonneg h]
  positivity

theorem toRat_zero : zero.toRat = 0 := by
  rw [toRat_of_nonneg rfl, zero, Nat.cast_zero, zero_div]

theorem ofNat_nonneg (n : ℕ) : (ofNat n).negative = false := by
  rw [ofNat]
  split <;> rfl

theorem scale_ofNat (n : ℕ) : (ofNat n).scale = 0 := by
  rw [ofNat]
  split <;> rfl

theorem toRat_ofNat {n : ℕ} (h : n < 2 ^ 96) : (ofNat n).toRat = n := by
  rw [ofNat, dif_pos h, toRat_of_nonneg rfl, pow_zero, div_one]

theorem isZero_iff_toRat_eq_zero : d.isZero = true ↔ d.toRat = 0 := by
  have hpos : (10 : ℚ) ^ d.scale ≠ 0 := by positivity
  rw [isZero, beq_iff_eq, toRat, div_eq_zero_iff, or_iff_left hpos, Int.cast_eq_zero, signed]
  split
  · rw [neg_eq_zero, Int.natCast_eq_zero]
  · rw [Int.natCast_eq_zero]

/-! ### Rounding -/

/-- The decimal is the number itself, or the number rounded at the largest number of places at which the
mantissa fits. -/
structure Nearest (x : ℚ) (d : Decimal) : Prop where
  roundsTo : RoundsTo (x * 10 ^ d.scale) d.signed
  full : d.toRat = x ∨ ∀ n, d.scale < n → n ≤ 28 → 2 ^ 96 ≤ |x| * 10 ^ n + 1 / 2

theorem abs_signed_lt (d : Decimal) : |d.signed| < 2 ^ 96 := by
  rw [Int.abs_eq_natAbs, natAbs_signed]
  exact_mod_cast d.mantissa_lt

namespace Nearest

theorem of_eq (h : d.toRat = x) : Nearest x d := by
  refine ⟨?_, Or.inl h⟩
  rw [← h, toRat_mul_pow]
  exact RoundsTo.intCast _

theorem neg (h : Nearest x d) : Nearest (-x) d.negate := by
  constructor
  · rw [signed_negate, neg_mul]
    exact h.roundsTo.neg
  · rw [toRat_negate, neg_inj, abs_neg]
    exact h.full

theorem abs_mul_pow_eq (x : ℚ) (n : ℕ) : |x| * 10 ^ n = |x * 10 ^ n| := by
  rw [abs_mul, abs_of_pos (a := (10 : ℚ) ^ n) (by positivity)]

/-- What rounds to a decimal is less than half a unit above the largest mantissa. -/
theorem abs_mul_pow_lt (h : Nearest x d) : |x| * 10 ^ d.scale + 1 / 2 < 2 ^ 96 := by
  have hmantissa : |d.signed| ≤ 2 ^ 96 - 1 := Int.le_sub_one_of_lt (abs_signed_lt d)
  have hcast : |(d.signed : ℚ)| ≤ 2 ^ 96 - 1 := by exact_mod_cast hmantissa
  have htriangle := abs_sub_abs_le_abs_sub (x * 10 ^ d.scale) d.signed
  have hnear := h.roundsTo.near
  rw [abs_mul_pow_eq]
  by_contra! hlarge
  -- only the tie above the largest mantissa is left, and that mantissa is odd
  have heven : Even d.signed := h.roundsTo.even (by linarith)
  have hlargest : |d.signed| = 2 ^ 96 - 1 := by
    have : |(d.signed : ℚ)| = 2 ^ 96 - 1 := by linarith
    exact_mod_cast this
  rw [← even_abs, hlargest] at heven
  exact absurd heven (by decide)

/-- Below zero, where one place more would have been too much, it is too much for every mantissa. -/
theorem signed_mul_ten_le (h : Nearest x d) (hx : x < 0)
    (hover : 2 ^ 96 ≤ |x| * 10 ^ (d.scale + 1) + 1 / 2) : d.signed * 10 ≤ -2 ^ 96 := by
  rw [abs_of_neg hx, pow_succ (10 : ℚ)] at hover
  obtain ⟨hnear, -⟩ := abs_le.1 h.roundsTo.near
  have hten : d.signed * 20 ≤ -2 ^ 97 + 11 := by
    have : (d.signed * 20 : ℚ) ≤ -2 ^ 97 + 11 := by linarith
    exact_mod_cast this
  -- 2 ^ 96 ends in the digit 6, so that the half that is missing does no harm
  omega

/-- Where the decimal with fewer places is not exact, one place more would be too much for it, and all that
a mantissa could hold there is on one side of it. -/
theorem le_of_scale_le (hd : Nearest x d) (hc : Nearest y c) (hle : x ≤ y) (hscale : d.scale ≤ c.scale) :
    d.toRat ≤ c.toRat := by
  obtain ⟨k, hk⟩ := Nat.exists_eq_add_of_le hscale
  have hpow : (0 : ℚ) < 10 ^ c.scale := by positivity
  have hscaled : x * 10 ^ c.scale ≤ y * 10 ^ c.scale := mul_le_mul_of_nonneg_right hle hpow.le
  have hgoal : d.signed * 10 ^ k ≤ c.signed → d.toRat ≤ c.toRat := by
    intro hsigned
    refine le_of_mul_le_mul_right ?_ hpow
    rw [toRat_mul_pow, hk, pow_add, ← mul_assoc, toRat_mul_pow]
    exact_mod_cast hsigned
  rcases hd.full with hexact | hover
  · refine hgoal (hc.roundsTo.intCast_le ?_)
    push_cast
    rwa [← toRat_mul_pow, hexact, mul_assoc, ← pow_add, ← hk]
  · cases k with
    | zero =>
        rw [Nat.add_zero] at hk
        rw [pow_zero, mul_one] at hgoal
        rw [hk] at hscaled
        exact hgoal (hd.roundsTo.le (hk ▸ hc.roundsTo) hscaled)
    | succ k =>
        rcases le_or_gt 0 x with hx | hx
        · have hlarge := hover c.scale (by omega) c.scale_le
          have hsmall := hc.abs_mul_pow_lt
          rw [abs_of_nonneg hx] at hlarge
          rw [abs_of_nonneg (hx.trans hle)] at hsmall
          linarith
        · have hplaces := c.scale_le
          have hten := hd.signed_mul_ten_le hx (hover (d.scale + 1) (Nat.lt_succ_self _) (by omega))
          refine hgoal ?_
          calc d.signed * 10 ^ (k + 1)
            _ = d.signed * 10 * 10 ^ k := by ring
            _ ≤ -2 ^ 96 * 10 ^ k := mul_le_mul_of_nonneg_right hten (by positivity)
            _ ≤ -2 ^ 96 := mul_le_of_one_le_right (by norm_num) (one_le_pow₀ (by norm_num))
            _ ≤ c.signed := (abs_lt.1 (abs_signed_lt c)).1.le

theorem le (hd : Nearest x d) (hc : Nearest y c) (hle : x ≤ y) : d.toRat ≤ c.toRat := by
  rcases Nat.le_total d.scale c.scale with hscale | hscale
  · exact hd.le_of_scale_le hc hle hscale
  · have hneg := hc.neg.le_of_scale_le hd.neg (neg_le_neg hle) hscale
    rwa [toRat_negate, toRat_negate, neg_le_neg_iff] at hneg

end Nearest

/-- In one of its forms the decimal is the number rounded. -/
def Rounds (x : ℚ) (d : Decimal) : Prop := ∃ c : Decimal, c.toRat = d.toRat ∧ Nearest x c

namespace Rounds

theorem of_eq (h : d.toRat = x) : Rounds x d := ⟨d, rfl, Nearest.of_eq h⟩

theorem normalize (h : Rounds x d) : Rounds x d.normalize := by
  obtain ⟨c, hc, hnearest⟩ := h
  exact ⟨c, hc.trans (toRat_normalize d).symm, hnearest⟩

theorem le (hd : Rounds x d) (hc : Rounds y c) (hle : x ≤ y) : d.toRat ≤ c.toRat := by
  obtain ⟨d', hd', hnearest⟩ := hd
  obtain ⟨c', hc', hnearest'⟩ := hc
  rw [← hd', ← hc']
  exact hnearest.le hnearest' hle

theorem le_toRat (hd : Rounds x d) (hle : x ≤ c.toRat) : d.toRat ≤ c.toRat := hd.le (of_eq rfl) hle

theorem toRat_le (hd : Rounds x d) (hle : c.toRat ≤ x) : c.toRat ≤ d.toRat := (of_eq rfl).le hd hle

theorem abs_lt (h : Rounds x d) : |x| + 1 / 2 < 2 ^ 96 := by
  obtain ⟨c, -, hnearest⟩ := h
  have hlt := hnearest.abs_mul_pow_lt
  have hle : |x| ≤ |x| * 10 ^ c.scale :=
    le_mul_of_one_le_right (abs_nonneg x) (one_le_pow₀ (by norm_num))
  linarith

end Rounds

/-! ### Fitting -/

/-- The decimal is the quotient rounded at the largest number of places at which it fits. -/
structure Fitted (num den places : ℕ) (d : Decimal) : Prop where
  mantissa_eq : d.mantissa = roundHalfEven (num * 10 ^ d.scale) den
  scale_le : d.scale ≤ places
  overflow : ∀ n, d.scale < n → n ≤ places → 2 ^ 96 ≤ roundHalfEven (num * 10 ^ n) den

variable {negative : Bool} {num den places : ℕ} {hplaces : places ≤ 28}

theorem fit?_eq_some (h : fit? negative num den places hplaces = some d) :
    d.negative = negative ∧ Fitted num den places d := by
  induction places with
  | zero =>
      rw [fit?] at h
      split at h
      · obtain rfl := Option.some.inj h
        exact ⟨rfl, by simp, Nat.le_refl _, by omega⟩
      · cases h
  | succ places ih =>
      rw [fit?] at h
      split at h
      · obtain rfl := Option.some.inj h
        exact ⟨rfl, rfl, Nat.le_refl _, fun n hlt hle => absurd hlt (Nat.not_lt.2 hle)⟩
      · rename_i hover
        obtain ⟨hsign, hfit⟩ := ih h
        refine ⟨hsign, hfit.mantissa_eq, Nat.le_succ_of_le hfit.scale_le, fun n hlt hle => ?_⟩
        rcases Nat.le_succ_iff.1 hle with hle | rfl
        · exact hfit.overflow n hlt hle
        · exact Nat.le_of_not_lt hover

theorem exists_fit? (negative : Bool) (hplaces : places ≤ 28) (h : roundHalfEven num den < 2 ^ 96) :
    ∃ d, fit? negative num den places hplaces = some d := by
  induction places with
  | zero => exact ⟨_, by rw [fit?, dif_pos h]⟩
  | succ places ih =>
      rw [fit?]
      split
      · exact ⟨_, rfl⟩
      · exact ih _

/-- Places beyond those that the quotient needs would not help either. -/
theorem Fitted.nearest (h : Fitted num den places d) (hden : 0 < den)
    (hplaces : den ∣ num * 10 ^ places ∨ places = 28) (hsign : d.negative = false) :
    Nearest ((num : ℚ) / den) d := by
  have hpos : (0 : ℚ) < den := by exact_mod_cast hden
  have hscaled : ∀ n, RoundsTo ((num : ℚ) / den * 10 ^ n) (roundHalfEven (num * 10 ^ n) den : ℕ) := by
    intro n
    have hround := roundsTo_roundHalfEven (num * 10 ^ n) hden
    push_cast at hround
    rwa [mul_div_right_comm] at hround
  constructor
  · rw [signed_of_nonneg hsign, h.mantissa_eq]
    exact hscaled d.scale
  · by_cases hexact : d.scale = places ∧ den ∣ num * 10 ^ places
    · obtain ⟨rfl, k, hk⟩ := hexact
      refine Or.inl ?_
      rw [toRat_of_nonneg hsign, h.mantissa_eq, hk, mul_comm den k, roundHalfEven_mul k hden,
        div_eq_div_iff (by positivity) hpos.ne']
      rw [mul_comm den k] at hk
      exact_mod_cast hk.symm
    · refine Or.inr fun n hlt hle => ?_
      have hlarge : 2 ^ 96 ≤ roundHalfEven (num * 10 ^ n) den := by
        rcases Nat.le_total n places with hn | hn
        · exact h.overflow n hlt hn
        · have hshort : d.scale < places := by
            have := h.scale_le
            rcases hplaces with hdvd | rfl
            · exact lt_of_le_of_ne this fun heq => hexact ⟨heq, hdvd⟩
            · omega
          refine (h.overflow places hshort (Nat.le_refl _)).trans ?_
          exact roundHalfEven_mono den (Nat.mul_le_mul_left _ (Nat.pow_le_pow_right (by norm_num) hn))
      have hcast : (2 ^ 96 : ℚ) ≤ (roundHalfEven (num * 10 ^ n) den : ℕ) := by exact_mod_cast hlarge
      obtain ⟨hnear, -⟩ := abs_le.1 (hscaled n).near
      rw [abs_of_nonneg (by positivity)]
      push_cast at hnear
      linarith

/-! ### Operations -/

/-- What an operation gives whose exact result is `x`: the result rounded, and nothing only where it is
half a unit above the largest decimal. -/
structure Computes (x : ℚ) (outcome : Option Decimal) : Prop where
  rounds : ∀ d, outcome = some d → Rounds x d
  defined : |x| + 1 / 2 < 2 ^ 96 → ∃ d, outcome = some d

namespace Computes

theorem of_some (h : d.toRat = x) : Computes x (some d) where
  rounds _ hd := Option.some.inj hd ▸ Rounds.of_eq h
  defined _ := ⟨d, rfl⟩

/-- Where the exact result is no larger than one that has been rounded, there is a result, and it is no
larger either. -/
theorem exists_le {outcome : Option Decimal} (h : Computes x outcome) (hc : Rounds y c) (hnonneg : 0 ≤ x)
    (hle : x ≤ y) : ∃ d, outcome = some d ∧ d.toRat ≤ c.toRat := by
  have habs : |x| ≤ |y| := by rwa [abs_of_nonneg hnonneg, abs_of_nonneg (hnonneg.trans hle)]
  obtain ⟨d, hd⟩ := h.defined ((add_le_add_left habs _).trans_lt hc.abs_lt)
  exact ⟨d, hd, (h.rounds d hd).le hc hle⟩

theorem of_fit? (negative : Bool) (hplaces : places ≤ 28) (hden : 0 < den)
    (hexact : den ∣ num * 10 ^ places ∨ places = 28) :
    Computes ((if negative then -1 else 1) * (num / den)) (fit? negative num den places hplaces) := by
  have hnonneg : (0 : ℚ) ≤ num / den := by positivity
  constructor
  · intro d hd
    obtain ⟨hsign, hfit⟩ := fit?_eq_some hd
    cases negative with
    | false =>
        rw [if_neg Bool.false_ne_true, one_mul]
        exact ⟨d, rfl, hfit.nearest hden hexact hsign⟩
    | true =>
        have hfit' : Fitted num den places d.negate := ⟨hfit.mantissa_eq, hfit.scale_le, hfit.overflow⟩
        have hnearest := (hfit'.nearest hden hexact (by simp [negate, hsign])).neg
        rw [← neg_one_mul] at hnearest
        exact ⟨_, by rw [toRat_negate, toRat_negate, neg_neg], hnearest⟩
  · intro hsmall
    have habs : |(if negative then -1 else 1) * ((num : ℚ) / den)| = num / den := by
      rw [abs_mul, abs_of_nonneg hnonneg]
      cases negative <;> norm_num
    rw [habs] at hsmall
    refine exists_fit? negative hplaces ?_
    obtain ⟨hnear, -⟩ := abs_le.1 (roundsTo_roundHalfEven num hden).near
    have : ((roundHalfEven num den : ℕ) : ℚ) < 2 ^ 96 := by
      push_cast at hnear ⊢
      linarith
    exact_mod_cast this

theorem normalize {outcome : Option Decimal} (h : Computes x outcome) :
    Computes x (outcome.map Decimal.normalize) := by
  refine ⟨fun d hd => ?_, fun hsmall => ?_⟩
  · obtain ⟨c, hc, rfl⟩ := Option.map_eq_some_iff.1 hd
    exact (h.rounds c hc).normalize
  · obtain ⟨c, hc⟩ := h.defined hsmall
    exact ⟨c.normalize, by rw [hc, Option.map_some]⟩

end Computes

theorem toRat_eq_sign_mul (d : Decimal) :
    d.toRat = (if d.negative then -1 else 1) * (d.mantissa / 10 ^ d.scale) := by
  rw [toRat, signed]
  split
  · rw [Int.cast_neg, Int.cast_natCast, neg_div, neg_one_mul]
  · rw [Int.cast_natCast, one_mul]

theorem mul?_computes (a b : Decimal) : Computes (a.toRat * b.toRat) (mul? a b) := by
  unfold mul?
  split
  · rename_i hzero
    refine Computes.of_some (toRat_zero.trans ?_)
    rcases Bool.or_eq_true_iff.1 hzero with ha | hb
    · rw [isZero_iff_toRat_eq_zero.1 ha, zero_mul]
    · rw [isZero_iff_toRat_eq_zero.1 hb, mul_zero]
  · have hvalue : a.toRat * b.toRat = (if a.negative != b.negative then -1 else 1) *
        (((a.mantissa * b.mantissa : ℕ) : ℚ) / (10 ^ (a.scale + b.scale) : ℕ)) := by
      rw [toRat_eq_sign_mul a, toRat_eq_sign_mul b]
      push_cast
      rw [pow_add, mul_div_mul_comm]
      cases a.negative <;> cases b.negative <;> simp
    rw [hvalue]
    refine Computes.of_fit? _ _ (by positivity) ?_
    rcases Nat.le_total (a.scale + b.scale) 28 with hle | hge
    · rw [Nat.min_eq_left hle]
      exact Or.inl (Nat.dvd_mul_left _ _)
    · exact Or.inr (Nat.min_eq_right hge)

theorem exists_percentage (hsign : d.negative = false) (hle : d.toRat ≤ 1) :
    ∃ c, mul? d (ofNat 100) = some c ∧ c.toRat ≤ 100 := by
  have hhundred : (ofNat 100).toRat = 100 := toRat_ofNat (by norm_num)
  have hcomputes := mul?_computes d (ofNat 100)
  have hnonneg := toRat_nonneg hsign
  rw [hhundred] at hcomputes
  obtain ⟨c, hc, hcle⟩ := hcomputes.exists_le (Rounds.of_eq hhundred) (by linarith) (by linarith)
  exact ⟨c, hc, hcle.trans_eq hhundred⟩

theorem div?_computes (a : Decimal) (hb : b.toRat ≠ 0) : Computes (a.toRat / b.toRat) (div? a b) := by
  have hpos : b.isZero = false := by
    rwa [Bool.eq_false_iff, ne_eq, isZero_iff_toRat_eq_zero]
  have hmantissa : 0 < b.mantissa := Nat.pos_of_ne_zero (beq_eq_false_iff_ne.1 hpos)
  unfold div?
  rw [hpos, if_neg Bool.false_ne_true]
  split
  · rename_i hzero
    refine Computes.of_some (toRat_zero.trans ?_)
    rw [isZero_iff_toRat_eq_zero.1 hzero, zero_div]
  · have hvalue : a.toRat / b.toRat = (if a.negative != b.negative then -1 else 1) *
        (((a.mantissa * 10 ^ b.scale : ℕ) : ℚ) / (b.mantissa * 10 ^ a.scale : ℕ)) := by
      rw [toRat_eq_sign_mul a, toRat_eq_sign_mul b]
      push_cast
      rw [mul_div_mul_comm, div_div_div_eq, mul_comm ((10 : ℚ) ^ a.scale)]
      cases a.negative <;> cases b.negative <;> simp
    rw [hvalue]
    exact Computes.of_fit? _ _ (Nat.mul_pos hmantissa (by positivity)) (Or.inr rfl)

/-- The mantissa that a decimal has under its sign with more places. -/
theorem toRat_eq_brought (h : d.scale ≤ places) :
    d.toRat = ((if d.negative then -((d.mantissa * 10 ^ (places - d.scale) : ℕ) : ℤ)
      else (d.mantissa * 10 ^ (places - d.scale) : ℕ) : ℤ) : ℚ) / 10 ^ places := by
  rw [eq_div_iff (by positivity), toRat_mul_pow_of_le h, signed]
  split <;> push_cast <;> ring

theorem Computes.of_total (total : ℤ) (hplaces : places ≤ 28) :
    Computes (total / 10 ^ places)
      (fit? (decide (total < 0)) total.natAbs (10 ^ places) places hplaces) := by
  have hvalue : (total : ℚ) / 10 ^ places = (if decide (total < 0) then -1 else 1) *
      ((total.natAbs : ℚ) / (10 ^ places : ℕ)) := by
    rcases lt_or_ge total 0 with hneg | hnonneg
    · rw [if_pos (decide_eq_true hneg), Nat.cast_natAbs, abs_of_neg hneg]
      push_cast
      ring
    · rw [if_neg (by simpa using hnonneg), Nat.cast_natAbs, abs_of_nonneg hnonneg]
      push_cast
      ring
  rw [hvalue]
  exact Computes.of_fit? _ hplaces (by positivity) (Or.inl (Nat.dvd_mul_left _ _))

theorem add?_computes (a b : Decimal) : Computes (a.toRat + b.toRat) (add? a b) := by
  unfold add?
  split
  · rename_i hzero
    refine Computes.of_some ?_
    rw [isZero_iff_toRat_eq_zero.1 hzero, zero_add]
  · split
    · rename_i hzero
      refine Computes.of_some ?_
      rw [isZero_iff_toRat_eq_zero.1 hzero, add_zero]
    · rw [toRat_eq_brought (Nat.le_max_left a.scale b.scale),
        toRat_eq_brought (Nat.le_max_right a.scale b.scale), ← add_div, ← Int.cast_add]
      exact Computes.of_total _ _

theorem sub?_computes (a b : Decimal) : Computes (a.toRat - b.toRat) (sub? a b) := by
  unfold sub?
  split
  · rename_i hzero
    refine Computes.of_some ?_
    rw [isZero_iff_toRat_eq_zero.1 hzero, zero_sub]
    split
    · rename_i hzero'
      rw [isZero_iff_toRat_eq_zero.1 hzero', neg_zero]
    · exact toRat_negate b
  · rw [sub_eq_add_neg, ← toRat_negate]
    exact add?_computes a b.negate

/-! ### Saturation -/

theorem toRat_le_largest (d : Decimal) : d.toRat ≤ largest.toRat := by
  have hsigned : d.signed ≤ 2 ^ 96 - 1 := Int.le_sub_one_of_lt (abs_lt.1 (abs_signed_lt d)).2
  rw [← le_iff_toRat_le, le_def]
  show d.signed * 10 ^ 0 ≤ (2 ^ 96 - 1) * 10 ^ d.scale
  calc d.signed * 10 ^ 0
    _ = d.signed := by rw [pow_zero, mul_one]
    _ ≤ 2 ^ 96 - 1 := hsigned
    _ ≤ (2 ^ 96 - 1) * 10 ^ d.scale := le_mul_of_one_le_right (by norm_num) (one_le_pow₀ (by norm_num))

theorem addSaturating_eq (ha : a.negative = false) (b : Decimal) :
    a.addSaturating b = (add? a b).getD largest := by
  simp [addSaturating, ha, largest]

/-- To add what is not negative never leads below, however the sum is rounded or cut off. -/
theorem le_addSaturating (ha : a.negative = false) (hb : b.negative = false) : a ≤ a.addSaturating b := by
  rw [addSaturating_eq ha, le_iff_toRat_le]
  cases hsum : add? a b with
  | none => exact toRat_le_largest a
  | some sum =>
      have hle : a.toRat ≤ a.toRat + b.toRat := le_add_of_nonneg_right (toRat_nonneg hb)
      exact ((add?_computes a b).rounds sum hsum).toRat_le hle

theorem addSaturating_mono (ha : a.negative = false) (hb : b.negative = false) (hle : b ≤ c) :
    a.addSaturating b ≤ a.addSaturating c := by
  rw [le_iff_toRat_le] at hle
  rw [addSaturating_eq ha, addSaturating_eq ha, le_iff_toRat_le]
  cases hlarger : add? a c with
  | none => exact toRat_le_largest _
  | some larger =>
      have hnonneg : 0 ≤ a.toRat + b.toRat := add_nonneg (toRat_nonneg ha) (toRat_nonneg hb)
      have hsums : a.toRat + b.toRat ≤ a.toRat + c.toRat := add_le_add le_rfl hle
      obtain ⟨sum, hsum, hsumLe⟩ :=
        (add?_computes a b).exists_le ((add?_computes a c).rounds larger hlarger) hnonneg hsums
      rw [hsum]
      exact hsumLe

/-! ### Signs -/

/-- Zero takes no sign. -/
def Proper (d : Decimal) : Prop := d.mantissa = 0 → d.negative = false

theorem mantissa_eq_zero_iff : d.mantissa = 0 ↔ d.toRat = 0 :=
  beq_iff_eq.symm.trans isZero_iff_toRat_eq_zero

/-- Every whole number of units of a place that fits is a decimal. -/
theorem exists_toRat_eq (n : ℤ) (hn : n.natAbs < 2 ^ 96) (hplaces : places ≤ 28) :
    ∃ d : Decimal, d.toRat = n / 10 ^ places := by
  refine ⟨⟨decide (n < 0), n.natAbs, places, hn, hplaces⟩, ?_⟩
  have hsigned : (if decide (n < 0) then -(n.natAbs : ℤ) else n.natAbs) = n := by
    split <;> rename_i hsign <;> rw [decide_eq_true_eq] at hsign <;> omega
  rw [toRat, signed, hsigned]

theorem mul?_nonneg (ha : a.negative = false) (hb : b.negative = false) (h : mul? a b = some d) :
    d.negative = false := by
  unfold mul? at h
  split at h
  · exact Option.some.inj h ▸ rfl
  · rw [(fit?_eq_some h).1, ha, hb, bne_self_eq_false]

theorem div?_nonneg (ha : a.negative = false) (hb : b.negative = false) (h : div? a b = some d) :
    d.negative = false := by
  unfold div? at h
  split at h
  · cases h
  · split at h
    · exact Option.some.inj h ▸ rfl
    · rw [(fit?_eq_some h).1, ha, hb, bne_self_eq_false]

namespace Proper

theorem of_nonneg (h : d.negative = false) : d.Proper := fun _ => h

theorem negative_eq (h : d.Proper) : d.negative = decide (d.toRat < 0) := by
  cases hsign : d.negative with
  | false => rw [eq_comm, decide_eq_false_iff_not, lt_iff_not_ge, not_not]; exact toRat_nonneg hsign
  | true =>
      have hmantissa : d.mantissa ≠ 0 := fun hzero => by rw [h hzero] at hsign; cases hsign
      have hpos : (0 : ℚ) < d.mantissa := by exact_mod_cast Nat.pos_of_ne_zero hmantissa
      rw [eq_comm, decide_eq_true_eq, toRat_eq_sign_mul, hsign, if_pos rfl, neg_one_mul, neg_lt_zero]
      positivity

theorem negate (h : d.isZero = false) : d.negate.Proper :=
  fun hzero => absurd hzero (beq_eq_false_iff_ne.1 h)

/-- A sum below zero does not vanish when it is rounded. -/
theorem of_total {total : ℤ} {hplaces : places ≤ 28}
    (h : fit? (decide (total < 0)) total.natAbs (10 ^ places) places hplaces = some d) : d.Proper := by
  intro hzero
  rw [(fit?_eq_some h).1, decide_eq_false_iff_not]
  intro hneg
  obtain ⟨c, hc⟩ := exists_toRat_eq (-1) (by norm_num) hplaces
  have htotal : (total : ℚ) ≤ -1 := by exact_mod_cast Int.le_sub_one_of_lt hneg
  have hle : (total : ℚ) / 10 ^ places ≤ c.toRat := by
    rw [hc]
    exact div_le_div_of_nonneg_right (by exact_mod_cast htotal) (by positivity)
  have hlt : c.toRat < 0 := by
    rw [hc]
    exact div_neg_of_neg_of_pos (by norm_num) (by positivity)
  have hrounds := ((Computes.of_total total hplaces).rounds d h).le_toRat hle
  rw [mantissa_eq_zero_iff.1 hzero] at hrounds
  linarith

theorem add? (ha : a.Proper) (hb : b.Proper) (h : Decimal.add? a b = some d) : d.Proper := by
  unfold Decimal.add? at h
  split at h
  · exact Option.some.inj h ▸ hb
  · split at h
    · exact Option.some.inj h ▸ ha
    · exact of_total h

theorem sub? (ha : a.Proper) (hb : b.Proper) (h : Decimal.sub? a b = some d) : d.Proper := by
  unfold Decimal.sub? at h
  cases hzero : b.isZero with
  | false =>
      rw [hzero, if_neg Bool.false_ne_true] at h
      split at h
      · exact Option.some.inj h ▸ negate hzero
      · exact ha.add? (negate hzero) h
  | true =>
      rw [hzero, if_pos rfl] at h
      split at h
      · exact Option.some.inj h ▸ hb
      · rename_i hpos
        have hnegate : b.negate.isZero = true := hzero
        rw [Decimal.add?, if_neg hpos, if_pos hnegate] at h
        exact Option.some.inj h ▸ ha

theorem roundTo (h : d.Proper) (places : ℕ) : (d.roundTo places).Proper := by
  unfold Decimal.roundTo
  split
  · exact h
  · intro hzero
    have hzero' : (roundHalfEven d.mantissa (10 ^ (d.scale - places)) != 0) = false :=
      bne_eq_false_iff_eq.2 hzero
    show (d.negative && _) = false
    rw [hzero', Bool.and_false]

end Proper

/-! ### Rounding to places -/

theorem scale_roundTo_le (places : ℕ) (d : Decimal) : (d.roundTo places).scale ≤ places := by
  rw [roundTo]
  split
  · assumption
  · exact Nat.le_refl _

theorem exists_toRat_roundTo (places : ℕ) (d : Decimal) :
    ∃ n : ℤ, (d.roundTo places).toRat = n / 10 ^ places ∧ RoundsTo (d.toRat * 10 ^ places) n := by
  unfold roundTo
  split
  · rename_i hshort
    have hscaled := toRat_mul_pow_of_le hshort
    refine ⟨d.signed * 10 ^ (places - d.scale), ?_, ?_⟩
    · rw [← hscaled, mul_div_cancel_right₀ _ (by positivity)]
    · rw [hscaled]
      exact RoundsTo.intCast _
  · rename_i hlong
    have hround := roundsTo_roundHalfEven d.mantissa
      (Nat.pow_pos (n := d.scale - places) (by norm_num : 0 < 10))
    have hsplit : d.scale = places + (d.scale - places) := by omega
    have hscaled : d.toRat * 10 ^ places =
        (if d.negative then -1 else 1) * ((d.mantissa : ℚ) / (10 ^ (d.scale - places) : ℕ)) := by
      rw [toRat_eq_sign_mul]
      conv_lhs => rw [hsplit, pow_add]
      push_cast
      field_simp
    rw [hscaled]
    simp only [toRat, signed]
    generalize roundHalfEven d.mantissa (10 ^ (d.scale - places)) = r at *
    cases d.negative with
    | false => exact ⟨r, by simp, by simpa using hround⟩
    | true =>
        refine ⟨-r, ?_, by simpa using hround.neg⟩
        by_cases hr : r = 0 <;> simp [hr]

end Lending.Decimal
