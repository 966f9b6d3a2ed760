import Lending.Offer.Build
import Lending.Proofs.Decimal.Threshold
import Lending.Proofs.Engine.Recommendation
import Lending.Proofs.Offer.Score

/-!
# The remark on funding

Every offer has exactly one remark on funding: that the partner can fund everything, or which percentage of it.
Which of the two is decided by a quotient that is rounded at 28 places. So the remark is right wherever the
amounts have few enough digits, and what is missing goes unnoticed where it is no more than the part in
2·10^28 of the requested amount that the rounding takes away.
-/

namespace Lending

/-! ### What is noticed to be missing -/

namespace Offer

variable {estimated requested : Amount} {ratio coverage : Decimal}

theorem one_eq_units : ((10 ^ 28 : ℤ) : ℚ) / 10 ^ 28 = 1 := by norm_num

/-- A percentage is less than a hundred if the ratio is less than one, however it is rounded. -/
theorem percentage_lt_iff (h : Decimal.mul? ratio hundred = some coverage) :
    coverage.toRat < 100 ↔ ratio.toRat < 1 := by
  have hrounds := (Decimal.mul?_computes ratio hundred).rounds coverage h
  rw [toRat_hundred] at hrounds
  constructor
  · intro hlt
    by_contra! hge
    have hle := hrounds.toRat_le (c := hundred) (by rw [toRat_hundred]; linarith)
    rw [toRat_hundred] at hle
    linarith
  · intro hlt
    have hpred := Decimal.le_pred_of_lt (hlt.trans_eq one_eq_units.symm)
    -- a hundred times the largest ratio below one is a decimal, so rounding does not get beyond it
    obtain ⟨c, hc⟩ := Decimal.exists_toRat_eq (10 ^ 28 - 1) (by norm_num) (by norm_num : 26 ≤ 28)
    have hvalue : c.toRat = ((10 ^ 28 : ℤ) - 1) / 10 ^ 28 * 100 := by
      rw [hc]
      norm_num
    have hle := hrounds.le_toRat (c := c) (by linarith)
    have hless : c.toRat < 100 := by
      rw [hc]
      norm_num
    exact hle.trans_lt hless

theorem one_le_ratio_iff (h : requested.isZero = false) (hratio : estimated.ratio? requested = some ratio) :
    1 ≤ ratio.toRat ↔
      2 * 10 ^ 28 * (requested.value.toRat - estimated.value.toRat) ≤ requested.value.toRat := by
  have hpos := Amount.toRat_pos h
  have hrounds := (Amount.ratio?_computes h estimated).rounds ratio hratio
  rw [← one_eq_units, hrounds.units_le_iff (k := 10 ^ 28) (by decide) (by norm_num),
    div_le_div_iff₀ (by positivity) hpos]
  constructor <;> intro hle <;> push_cast at * <;> linarith

/-- What is missing is not noticed where it is no more than this part of the requested amount. -/
theorem shortfall?_eq_none_iff (h : requested.isZero = false) :
    shortfall? estimated requested = none ↔
      2 * 10 ^ 28 * (requested.value.toRat - estimated.value.toRat) ≤ requested.value.toRat := by
  rw [Option.eq_none_iff_forall_ne_some]
  constructor
  · intro hnone
    by_contra hmissing
    have hpos := Amount.toRat_pos h
    have hle : estimated ≤ requested := by
      rw [Amount.le_iff_toRat_le]
      linarith
    obtain ⟨ratio, hratio, hratioLe⟩ := Amount.exists_ratio? h hle
    obtain ⟨coverage, hmul, -⟩ := Decimal.exists_percentage (Amount.ratio?_nonneg hratio) hratioLe
    have hless : ratio.toRat < 1 := lt_of_not_ge ((one_le_ratio_iff h hratio).not.2 hmissing)
    exact hnone coverage (shortfall?_eq_some_iff.2 ⟨ratio, hratio, hmul, (percentage_lt_iff hmul).2 hless⟩)
  · intro hle coverage hsome
    obtain ⟨ratio, hratio, hmul, hless⟩ := shortfall?_eq_some_iff.1 hsome
    exact ((percentage_lt_iff hmul).1 hless).not_ge ((one_le_ratio_iff h hratio).2 hle)

/-- Of a requested amount with few digits, everything that is missing is noticed. -/
theorem eq_of_shortfall?_eq_none {places : ℕ} (h : requested.isZero = false) (hle : estimated ≤ requested)
    (hplaces : max requested.value.scale estimated.value.scale ≤ places)
    (hdigits : requested.value.toRat * 10 ^ places < 2 * 10 ^ 28)
    (hnone : shortfall? estimated requested = none) : estimated = requested := by
  have hmissing := mul_le_mul_of_nonneg_right ((shortfall?_eq_none_iff h).1 hnone)
    (by positivity : (0 : ℚ) ≤ 10 ^ places)
  rw [mul_assoc, sub_mul] at hmissing
  rw [Amount.le_iff_toRat_le] at hle
  rw [Amount.eq_iff_same, Decimal.same_iff_toRat_eq]
  obtain ⟨m, hunits⟩ := Decimal.exists_toRat_mul_pow ((Nat.le_max_left _ _).trans hplaces)
  obtain ⟨n, hunits'⟩ := Decimal.exists_toRat_mul_pow ((Nat.le_max_right _ _).trans hplaces)
  have hpow : (0 : ℚ) < 10 ^ places := by positivity
  refine le_antisymm hle (le_of_mul_le_mul_right ?_ hpow)
  rw [hunits] at hmissing hdigits ⊢
  rw [hunits'] at hmissing ⊢
  have hlt : (m : ℚ) - n < 1 := by linarith
  have hle' : m - n < 1 := by exact_mod_cast hlt
  exact_mod_cast (by omega : m ≤ n)

end Offer

/-! ### What is said about it -/

namespace Remark

variable {remark : Remark} {remarks : List Remark}

def text : Remark → String
  | strength text | consideration text => text

def IsOnFunding (remark : Remark) : Prop := "Can fund ".toList <+: remark.text.toList

theorem onFunding_of_none {estimated requested : Amount} (h : Offer.shortfall? estimated requested = none) :
    onFunding estimated requested = strength "Can fund the full requested amount" := by
  rw [onFunding, h]

theorem onFunding_of_some {estimated requested : Amount} {coverage : Decimal}
    (h : Offer.shortfall? estimated requested = some coverage) :
    onFunding estimated requested =
      consideration ("Can fund about " ++ (coverage.roundTo 0).text ++ "% of the requested amount") := by
  rw [onFunding, h]

theorem isOnFunding_full : (strength "Can fund the full requested amount").IsOnFunding := by
  simp [IsOnFunding, text]

theorem isOnFunding_partly (percent : String) :
    (consideration ("Can fund about " ++ percent ++ "% of the requested amount")).IsOnFunding := by
  simp [IsOnFunding, text, String.toList_append]

theorem not_isOnFunding_onProbability (probability : ℕ) : ¬ (onProbability probability).IsOnFunding := by
  unfold onProbability
  repeat' split
  all_goals simp [IsOnFunding, text, String.toList_append]

theorem not_isOnFunding_onRate (rate : Decimal) : ∀ remark ∈ onRate rate, ¬ remark.IsOnFunding := by
  unfold onRate
  repeat' split
  all_goals simp [IsOnFunding, text, String.toList_append]

theorem not_isOnFunding_onApprovalTime (time : ApprovalTime) :
    ∀ remark ∈ onApprovalTime time, ¬ remark.IsOnFunding := by
  unfold onApprovalTime
  repeat' split
  all_goals simp [IsOnFunding, text, String.toList_append]

theorem not_isOnFunding_onOutcome (outcome : Outcome) : ∀ remark ∈ onOutcome outcome, ¬ remark.IsOnFunding := by
  unfold onOutcome
  repeat' split
  all_goals simp [IsOnFunding, text, String.toList_append]

theorem mem_strengths_iff {said : String} :
    said ∈ remarks.filterMap strength? ↔ strength said ∈ remarks := by
  rw [List.mem_filterMap]
  constructor
  · rintro ⟨remark, hmem, hsaid⟩
    cases remark with
    | strength text => exact Option.some.inj hsaid ▸ hmem
    | consideration text => cases hsaid
  · intro hmem
    exact ⟨_, hmem, rfl⟩

theorem mem_considerations_iff {said : String} :
    said ∈ remarks.filterMap consideration? ↔ consideration said ∈ remarks := by
  rw [List.mem_filterMap]
  constructor
  · rintro ⟨remark, hmem, hsaid⟩
    cases remark with
    | strength text => cases hsaid
    | consideration text => exact Option.some.inj hsaid ▸ hmem
  · intro hmem
    exact ⟨_, hmem, rfl⟩

end Remark

namespace Candidate

variable {c : Candidate} {remark : Remark} {estimated requested : Amount} {rate : Decimal}
  {time : ApprovalTime}

/-- No other remark can be mistaken for the one on funding. -/
theorem mem_remarks_iff (h : remark.IsOnFunding) :
    remark ∈ c.remarks estimated rate time requested ↔ remark = Remark.onFunding estimated requested := by
  simp only [remarks, List.mem_append, List.mem_cons]
  constructor
  · rintro (((rfl | hrate) | htime) | heq | houtcome)
    · exact absurd h (Remark.not_isOnFunding_onProbability _)
    · exact absurd h (Remark.not_isOnFunding_onRate rate remark hrate)
    · exact absurd h (Remark.not_isOnFunding_onApprovalTime time remark htime)
    · exact heq
    · exact absurd h (Remark.not_isOnFunding_onOutcome c.outcome remark houtcome)
  · intro heq
    exact Or.inr (Or.inl heq)

theorem mem_strengths_iff (product : Product) :
    "Can fund the full requested amount" ∈ (c.offer product requested).strengths ↔
      Offer.shortfall? (c.offer product requested).amount requested = none := by
  refine Remark.mem_strengths_iff.trans ((mem_remarks_iff Remark.isOnFunding_full).trans ?_)
  show _ = Remark.onFunding (c.offer product requested).amount requested ↔ _
  cases hshort : Offer.shortfall? (c.offer product requested).amount requested with
  | none => exact iff_of_true (Remark.onFunding_of_none hshort).symm rfl
  | some coverage =>
      refine iff_of_false (fun heq => ?_) (Option.some_ne_none coverage)
      rw [Remark.onFunding_of_some hshort] at heq
      cases heq

theorem mem_considerations_iff (product : Product) :
    (∃ percent, "Can fund about " ++ percent ++ "% of the requested amount" ∈
        (c.offer product requested).considerations) ↔
      Offer.shortfall? (c.offer product requested).amount requested ≠ none := by
  constructor
  · rintro ⟨percent, hsaid⟩ hnone
    have hmem := Remark.mem_considerations_iff.1 hsaid
    have heq := (mem_remarks_iff (Remark.isOnFunding_partly percent)).1 hmem
    have hfull := Remark.onFunding_of_none hnone
    cases heq.trans hfull
  · intro hsome
    obtain ⟨coverage, hshort⟩ := Option.ne_none_iff_exists'.1 hsome
    refine ⟨(coverage.roundTo 0).text, Remark.mem_considerations_iff.2 ?_⟩
    exact (mem_remarks_iff (Remark.isOnFunding_partly _)).2 (Remark.onFunding_of_some hshort).symm

/-- **Every offer has one remark on funding, and it is right up to 28 places.** For every candidate and every
requested amount that is not zero, the offer says either that the partner can fund everything or which part,
and never both. It says everything exactly if no more is missing than this part of the requested amount: always
if nothing is missing, and only then if the requested amount has fewer units of the last place. -/
theorem offer_funding_remark (c : Candidate) (product : Product) (requested : Amount)
    (h : requested.isZero = false) :
    let offer := c.offer product requested
    let full := "Can fund the full requested amount" ∈ offer.strengths
    let partly := ∃ percent, "Can fund about " ++ percent ++ "% of the requested amount" ∈ offer.considerations
    let missing := requested.value.toRat - offer.amount.value.toRat
    let places := max requested.value.scale offer.amount.value.scale
    0 ≤ missing ∧ (full ↔ ¬ partly) ∧ (full ↔ 2 * 10 ^ 28 * missing ≤ requested.value.toRat) ∧
    (offer.amount = requested → full) ∧
    (requested.value.toRat * 10 ^ places < 2 * 10 ^ 28 → (full ↔ offer.amount = requested)) := by
  intro offer full partly missing places
  have hle : offer.amount ≤ requested := Offer.figures_amount_le c.outcome requested
  have hfull : full ↔ Offer.shortfall? offer.amount requested = none := mem_strengths_iff product
  have hpartly : partly ↔ Offer.shortfall? offer.amount requested ≠ none := mem_considerations_iff product
  have hall : offer.amount = requested → full := by
    intro heq
    exact hfull.2 (Offer.shortfall?_eq_none (Or.inr (heq ▸ Amount.le_refl requested)))
  refine ⟨?_, ?_, hfull.trans (Offer.shortfall?_eq_none_iff h), hall, fun hdigits => ⟨?_, hall⟩⟩
  · exact sub_nonneg.2 (Amount.le_iff_toRat_le.1 hle)
  · rw [hfull, hpartly, not_not]
  · intro hsaid
    exact Offer.eq_of_shortfall?_eq_none h hle le_rfl hdigits (hfull.1 hsaid)

/-- One hundredth that is missing of a million is noticed. -/
theorem offer_funding_remark_hundredth :
    let requested : Amount := ⟨⟨false, 1000000, 0, by decide, by decide⟩, rfl, by decide⟩
    let maximum : Amount := ⟨⟨false, 99999999, 2, by decide, by decide⟩, rfl, by decide⟩
    let c : Candidate := ⟨"A", "A Finance", 85, .answered ⟨true, some maximum, none, none, []⟩⟩
    let offer := c.offer .workingCapital requested
    requested.isZero = false ∧ "Can fund the full requested amount" ∉ offer.strengths ∧
    ∃ percent, "Can fund about " ++ percent ++ "% of the requested amount" ∈ offer.considerations := by
  intro requested maximum c
  have hpositive : requested.isZero = false := by decide
  obtain ⟨-, hone, -, -, hfull⟩ := offer_funding_remark c .workingCapital requested hpositive
  have hplaces : max requested.value.scale (c.offer .workingCapital requested).amount.value.scale = 2 := by
    decide +kernel
  have hless : (c.offer .workingCapital requested).amount ≠ requested := by decide +kernel
  rw [hplaces] at hfull
  have hdigits : requested.value.toRat * 10 ^ 2 < 2 * 10 ^ 28 := by
    rw [Decimal.toRat_of_nonneg rfl]
    norm_num [requested]
  have hnot := (hfull hdigits).not.2 hless
  exact ⟨hpositive, hnot, not_not.1 (hone.not.1 hnot)⟩

/-- What is missing of five is lost in the rounding, and the remark is wrong. -/
theorem offer_funding_unnoticed :
    let maximum : Amount :=
      ⟨⟨false, 49999999999999999999999999998, 28, by decide, by decide⟩, rfl, by decide⟩
    let c : Candidate := ⟨"A", "A Finance", 85, .answered ⟨true, some maximum, none, none, []⟩⟩
    let offer := c.offer .workingCapital (.ofNat 5)
    offer.amount = maximum ∧ maximum < .ofNat 5 ∧
    "Can fund the full requested amount" ∈ offer.strengths ∧ offer.considerations = [] := by
  decide +kernel

end Candidate
end Lending
