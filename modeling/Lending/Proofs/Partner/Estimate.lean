import Lending.Partner.Policy
import Lending.Proofs.Decimal.Order

/-!
# Estimates keep to the advertised terms

A partner by policy estimates what it would fund, and at which rate. The product of revenue and multiple is
rounded and may be too large, and so is the sum of rate and spread. An estimate never beats the terms that are
advertised to everyone all the same, and it never gets worse for a better applicant: every step follows the
order of its operands, and where one of them finds no result, what stands in for it is the best or the worst
that there is.
-/

namespace Lending

/-! ### Estimates and terms -/

namespace Eligibility

/-- The answer promises no more than the terms do. -/
structure KeepsTo (answer : Eligibility) (terms : PartnerTerms) : Prop where
  maximum : ∃ amount, answer.maximum? = some amount ∧ amount ≤ terms.maxAmount
  rate : ∃ rate, answer.rate? = some rate ∧ terms.minRate ≤ rate
  approvalTime : answer.approvalTime? = some terms.typicalApproval

/-- The other answer promises no less, and asks for no more. -/
structure NoBetter (answer other : Eligibility) : Prop where
  maximum : ∃ amount more, answer.maximum? = some amount ∧ other.maximum? = some more ∧ amount ≤ more
  rate : ∃ rate less, answer.rate? = some rate ∧ other.rate? = some less ∧ less ≤ rate

end Eligibility

namespace Policy

variable {p : Policy} {profile other : Profile}

/-! ### The amount -/

theorem fundingLimit_le (p : Policy) (revenue : Amount) : p.fundingLimit revenue ≤ p.maxAmount := by
  unfold fundingLimit
  split
  · exact Amount.min_le_right _ _
  · exact Amount.le_refl _

/-- The product of a revenue and a multiple that is not negative is an amount. -/
theorem fundingLimit_of_mul? (hmultiple : p.revenueMultiple.negative = false) {revenue : Amount}
    {product : Decimal} (h : Decimal.mul? revenue.value p.revenueMultiple = some product) :
    ∃ amount : Amount, amount.value.toRat = product.toRat ∧
      p.fundingLimit revenue = min amount p.maxAmount := by
  have hsign : product.normalize.negative = false := by
    rw [Decimal.normalize, Decimal.mul?_nonneg revenue.not_negative hmultiple h, Bool.false_and]
  refine ⟨⟨product.normalize, hsign, product.normalize_normal⟩, product.toRat_normalize, ?_⟩
  simp [fundingLimit, h, Amount.ofDecimal?, hsign]

theorem fundingLimit_mono (hmultiple : p.revenueMultiple.negative = false) {revenue more : Amount}
    (hle : revenue ≤ more) : p.fundingLimit revenue ≤ p.fundingLimit more := by
  have hfactor : 0 ≤ p.revenueMultiple.toRat := Decimal.toRat_nonneg hmultiple
  have hnonneg : 0 ≤ revenue.value.toRat * p.revenueMultiple.toRat :=
    mul_nonneg revenue.toRat_nonneg hfactor
  have hproducts : revenue.value.toRat * p.revenueMultiple.toRat ≤
      more.value.toRat * p.revenueMultiple.toRat :=
    mul_le_mul_of_nonneg_right (Amount.le_iff_toRat_le.1 hle) hfactor
  cases hlarger : Decimal.mul? more.value p.revenueMultiple with
  | none =>
      have hcap : p.fundingLimit more = p.maxAmount := by simp [fundingLimit, hlarger]
      rw [hcap]
      exact p.fundingLimit_le revenue
  | some larger =>
      have hrounds := (Decimal.mul?_computes more.value p.revenueMultiple).rounds larger hlarger
      obtain ⟨product, hproduct, hproductLe⟩ :=
        (Decimal.mul?_computes revenue.value p.revenueMultiple).exists_le hrounds hnonneg hproducts
      obtain ⟨amount, hamount, heq⟩ := fundingLimit_of_mul? hmultiple hproduct
      obtain ⟨amount', hamount', heq'⟩ := fundingLimit_of_mul? hmultiple hlarger
      rw [heq, heq']
      apply Amount.min_le_min_left
      rwa [Amount.le_iff_toRat_le, hamount, hamount']

/-! ### The rate -/

theorem spread_nonneg (credit : Nat) : (spread credit).negative = false := by
  unfold spread
  split_ifs <;> rfl

theorem spread_antitone {credit better : Nat} (hle : credit ≤ better) : spread better ≤ spread credit := by
  unfold spread
  split_ifs
  all_goals first | decide | omega

theorem minRate_le_rate (hrate : p.minRate.negative = false) (credit : Nat) :
    p.minRate ≤ p.rate credit :=
  Decimal.le_addSaturating hrate (spread_nonneg credit)

theorem rate_antitone (hrate : p.minRate.negative = false) {credit better : Nat} (hle : credit ≤ better) :
    p.rate better ≤ p.rate credit :=
  Decimal.addSaturating_mono hrate (spread_nonneg better) (spread_antitone hle)

/-! ### The answer -/

/-- The business is old enough for the partner, and its credit good enough. -/
def Wants (p : Policy) (profile : Profile) : Prop :=
  ¬ profile.years < p.minYears ∧ p.minCredit ≤ profile.credit

/-- The answer to an applicant whom the partner wants. -/
def estimate (p : Policy) (profile : Profile) : Eligibility :=
  ⟨true, some (p.fundingLimit profile.revenue), some (p.rate profile.credit), some p.approvalTime, []⟩

theorem check_of_wants (henabled : p.enabled = true) (h : p.Wants profile) :
    p.check profile = .ok (p.estimate profile) := by
  obtain ⟨hyears, hcredit⟩ := h
  rw [check, ensureEnabled, if_pos henabled, if_neg hyears, if_neg (Nat.not_lt.2 hcredit)]
  rfl

theorem check_of_not_wants (henabled : p.enabled = true) (h : ¬ p.Wants profile) :
    ∃ reason, p.check profile = .ok (.refusal reason) := by
  rw [check, ensureEnabled, if_pos henabled]
  by_cases hyears : profile.years < p.minYears
  · rw [if_pos hyears]
    exact ⟨_, rfl⟩
  · have hcredit : profile.credit < p.minCredit := by
      by_contra hcredit
      exact h ⟨hyears, Nat.not_lt.1 hcredit⟩
    rw [if_neg hyears, if_pos hcredit]
    exact ⟨_, rfl⟩

theorem wants_of_eligible (henabled : p.enabled = true) {answer : Eligibility}
    (hcheck : p.check profile = .ok answer) (heligible : answer.eligible = true) : p.Wants profile := by
  by_contra hwants
  obtain ⟨reason, hrefusal⟩ := check_of_not_wants henabled hwants
  rw [hcheck] at hrefusal
  cases hrefusal
  cases heligible

theorem Wants.mono (h : p.Wants profile) (hyears : profile.years ≤ other.years)
    (hcredit : profile.credit ≤ other.credit) : p.Wants other := by
  refine ⟨?_, Nat.le_trans h.2 hcredit⟩
  intro hyoung
  exact h.1 (Binary64.lt_of_le_of_lt hyears hyoung)

theorem estimate_keepsTo (hrate : p.minRate.negative = false) (profile : Profile) :
    (p.estimate profile).KeepsTo p.terms where
  maximum := ⟨_, rfl, p.fundingLimit_le profile.revenue⟩
  rate := ⟨_, rfl, minRate_le_rate hrate profile.credit⟩
  approvalTime := rfl

theorem estimate_noBetter (hrate : p.minRate.negative = false)
    (hmultiple : p.revenueMultiple.negative = false) (hcredit : profile.credit ≤ other.credit)
    (hrevenue : profile.revenue ≤ other.revenue) :
    (p.estimate profile).NoBetter (p.estimate other) where
  maximum := ⟨_, _, rfl, rfl, fundingLimit_mono hmultiple hrevenue⟩
  rate := ⟨_, _, rfl, rfl, rate_antitone hrate hcredit⟩

/-- **Estimates keep to the terms and follow the applicants.** A valid policy that is enabled answers every
applicant. To those who are eligible it promises no more than it advertises to everyone. And if an applicant
is eligible, so is every other one who is as old, as creditworthy and as well off or more, with an amount
that is no smaller and a rate that is no higher. -/
theorem answers_follow_applicants (hvalid : p.fault? = none) (henabled : p.enabled = true) :
    (∀ profile, ∃ answer, p.check profile = .ok answer ∧
      (answer.eligible = true → answer.KeepsTo p.terms)) ∧
    ∀ profile other answer, profile.years ≤ other.years → profile.credit ≤ other.credit →
      profile.revenue ≤ other.revenue → p.check profile = .ok answer → answer.eligible = true →
      ∃ answer', p.check other = .ok answer' ∧ answer'.eligible = true ∧ answer.NoBetter answer' := by
  obtain ⟨-, -, -, hrate, hmultiple, -⟩ := fault?_eq_none_iff.1 hvalid
  constructor
  · intro profile
    by_cases hwants : p.Wants profile
    · refine ⟨p.estimate profile, check_of_wants henabled hwants, ?_⟩
      intro _
      exact estimate_keepsTo hrate profile
    · obtain ⟨reason, hrefusal⟩ := check_of_not_wants henabled hwants
      refine ⟨.refusal reason, hrefusal, ?_⟩
      intro heligible
      cases heligible
  · intro profile other answer hyears hcredit hrevenue hcheck heligible
    have hwants : p.Wants profile := wants_of_eligible henabled hcheck heligible
    have hestimate : answer = p.estimate profile :=
      Except.ok.inj (hcheck.symm.trans (check_of_wants henabled hwants))
    refine ⟨p.estimate other, check_of_wants henabled (hwants.mono hyears hcredit), rfl, ?_⟩
    rw [hestimate]
    exact estimate_noBetter hrate hmultiple hcredit hrevenue

/-- A policy whose rate and multiple take all the places of a decimal. -/
def precise : Policy :=
  { named "precise" "Precise" with
    minRate := (Decimal.ofParts? false (2 ^ 96 - 1) 28).getD .zero
    revenueMultiple := (Decimal.ofParts? false (10 ^ 28 + 1) 28).getD .zero
    minYears := .ofNat 2
    minCredit := 600 }

def stall : Profile :=
  { Profile.empty with years? := some (.ofNat 2), revenue? := some (.ofNat 123456), credit? := some 610 }

/-- An applicant with the largest revenue there is. -/
def empire : Profile :=
  { Profile.empty with
    years? := some (.ofNat 80), revenue? := some (.ofNat (2 ^ 96 - 1)), credit? := some 760 }

theorem answers_follow_applicants_stall_empire :
    precise.fault? = none ∧ precise.enabled = true ∧ stall.years ≤ empire.years ∧
      stall.credit ≤ empire.credit ∧ stall.revenue ≤ empire.revenue ∧
      Decimal.mul? empire.revenue.value precise.revenueMultiple = none ∧
    ∃ answer answer', precise.check stall = .ok answer ∧ answer.eligible = true ∧
      precise.check empire = .ok answer' ∧ answer'.eligible = true ∧
      answer.KeepsTo precise.terms ∧ answer'.KeepsTo precise.terms ∧ answer.NoBetter answer' := by
  have hvalid : precise.fault? = none := by decide +kernel
  have hyears : stall.years ≤ empire.years := by decide +kernel
  have hcredit : stall.credit ≤ empire.credit := by decide
  have hrevenue : stall.revenue ≤ empire.revenue := by decide +kernel
  have hstall : precise.check stall = .ok (precise.estimate stall) :=
    check_of_wants rfl ⟨by decide +kernel, by decide⟩
  obtain ⟨hanswered, hfollows⟩ := answers_follow_applicants hvalid rfl
  obtain ⟨answer', hempire, heligible, hnoBetter⟩ :=
    hfollows stall empire _ hyears hcredit hrevenue hstall rfl
  obtain ⟨answer, hcheck, hkeeps⟩ := hanswered stall
  obtain ⟨other, hcheck', hkeeps'⟩ := hanswered empire
  obtain rfl := Except.ok.inj (hstall.symm.trans hcheck)
  obtain rfl := Except.ok.inj (hempire.symm.trans hcheck')
  exact ⟨hvalid, rfl, hyears, hcredit, hrevenue, by decide +kernel, _, _, hstall, rfl, hempire, heligible,
    hkeeps rfl, hkeeps' heligible, hnoBetter⟩

end Policy
end Lending
