import Lending.Amount.Basic
import Lending.Proofs.Decimal.Value

/-!
# Ratios of amounts keep the order

The order of amounts is that of the numbers. A quotient is rounded at a number of places that depends on its
size, and where it is too large there is none. Nevertheless the ratio of less to more is never the larger
decimal, and it is known wherever the other one is.
-/

namespace Lending.Amount

variable {a b a' b' : Amount} {q q' : Decimal}

theorem le_refl (a : Amount) : a ≤ a := Decimal.le_refl a.value

theorem le_trans {a b c : Amount} (hab : a ≤ b) (hbc : b ≤ c) : a ≤ c := Decimal.le_trans hab hbc

theorem le_iff_toRat_le : a ≤ b ↔ a.value.toRat ≤ b.value.toRat := Decimal.le_iff_toRat_le

theorem toRat_nonneg (a : Amount) : 0 ≤ a.value.toRat := Decimal.toRat_nonneg a.not_negative

theorem isZero_iff_toRat_eq_zero : a.isZero = true ↔ a.value.toRat = 0 :=
  Decimal.isZero_iff_toRat_eq_zero

theorem toRat_pos (h : a.isZero = false) : 0 < a.value.toRat := by
  refine a.toRat_nonneg.lt_of_ne' fun hzero => ?_
  exact Bool.eq_false_iff.1 h (isZero_iff_toRat_eq_zero.2 hzero)

/-! ### The smaller amount -/

theorem min_le_right (a b : Amount) : min a b ≤ b := by
  show (if b < a then b else a) ≤ b
  split
  · exact le_refl b
  · rename_i hlt
    exact Decimal.not_lt.1 hlt

theorem le_min {c : Amount} (ha : c ≤ a) (hb : c ≤ b) : c ≤ min a b := by
  show c ≤ if b < a then b else a
  split
  · exact hb
  · exact ha

theorem min_le_left (a b : Amount) : min a b ≤ a := by
  show (if b < a then b else a) ≤ a
  split
  · rename_i hlt
    exact (Decimal.le_total b.value a.value).resolve_right (Decimal.not_le.2 hlt)
  · exact le_refl a

theorem min_le_min_left (hle : a ≤ a') (b : Amount) : min a b ≤ min a' b :=
  le_min (le_trans (min_le_left a b) hle) (min_le_right a b)

/-! ### Ratios -/

theorem ratio?_of_isZero (h : b.isZero = true) (a : Amount) : a.ratio? b = none := by
  have hvalue : b.value.isZero = true := h
  rw [ratio?, Decimal.div?, if_pos hvalue, Option.map_none]

theorem ratio?_nonneg (h : a.ratio? b = some q) : q.negative = false := by
  obtain ⟨quotient, hquotient, rfl⟩ := Option.map_eq_some_iff.1 h
  rw [Decimal.normalize, Decimal.div?_nonneg a.not_negative b.not_negative hquotient, Bool.false_and]

/-- By an amount that is not zero the exact ratio is rounded, and lost only where it is too large. -/
theorem ratio?_computes (h : b.isZero = false) (a : Amount) :
    Decimal.Computes (a.value.toRat / b.value.toRat) (a.ratio? b) :=
  (Decimal.div?_computes a.value (toRat_pos h).ne').normalize

theorem exists_ratio? (h : b.isZero = false) (hle : a ≤ b) :
    ∃ q, a.ratio? b = some q ∧ q.toRat ≤ 1 := by
  have hpos := toRat_pos h
  have hone : (Decimal.ofNat 1).toRat = 1 := by exact_mod_cast Decimal.toRat_ofNat (by norm_num)
  obtain ⟨q, hq, hqle⟩ := (ratio?_computes h a).exists_le (Decimal.Rounds.of_eq hone)
    (div_nonneg a.toRat_nonneg hpos.le) ((div_le_one hpos).2 (le_iff_toRat_le.1 hle))
  exact ⟨q, hq, hqle.trans_eq hone⟩

theorem ratio?_mono (hle : a ≤ a') (hge : b' ≤ b) (h : a'.ratio? b' = some q') :
    ∃ q, a.ratio? b = some q ∧ q ≤ q' := by
  cases hzero' : b'.isZero with
  | true => rw [ratio?_of_isZero hzero'] at h; cases h
  | false =>
      have hpos' := toRat_pos hzero'
      rw [le_iff_toRat_le] at hle hge
      have hpos : 0 < b.value.toRat := hpos'.trans_le hge
      have hzero : b.isZero = false :=
        Bool.eq_false_iff.2 fun hzero => hpos.ne' (isZero_iff_toRat_eq_zero.1 hzero)
      have hquotient : a.value.toRat / b.value.toRat ≤ a'.value.toRat / b'.value.toRat :=
        div_le_div₀ a'.toRat_nonneg hle hpos' hge
      have hnonneg : 0 ≤ a.value.toRat / b.value.toRat := div_nonneg a.toRat_nonneg hpos.le
      obtain ⟨q, hq, hqle⟩ :=
        (ratio?_computes hzero a).exists_le ((ratio?_computes hzero' a').rounds q' h) hnonneg hquotient
      exact ⟨q, hq, Decimal.le_iff_toRat_le.2 hqle⟩

end Lending.Amount
