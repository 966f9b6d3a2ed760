import Lending.Decision.Risk
import Lending.Proofs.Binary64.Nearest
import Lending.Proofs.Scoring.Scale

/-!
# Risk goes by the tiers of the score

The risk of an applicant is read off scales of its own, but their tiers are those of the score, so a business
stands at the same position on both. The level of the risk is that of the exact average and the score that is
shown is the rounded one. They never disagree, because all scores are multiples of five: an average that is
rounded up to a threshold would be a sixth or a third below it.
-/

namespace Lending

theorem RiskLevel.ofAverage_ofQuotient (total : ℕ) {den : ℕ} (hden : 0 < den) (hsmall : den < 2 ^ 40) :
    ofAverage (.ofQuotient false total den) =
      if 75 * den ≤ total then .low else if 60 * den ≤ total then .medium
      else if 40 * den ≤ total then .high else .veryHigh := by
  have hexact (n : ℕ) (hn : n ≤ 75) :
      Binary64.ofNat n ≤ .ofQuotient false total den ↔ n * den ≤ total := by
    refine Binary64.ofNat_le_ofQuotient_iff hden ?_
    have hle : den * (n + 1) ≤ den * 76 := Nat.mul_le_mul_left den (by omega)
    omega
  rw [ofAverage]
  simp only [hexact 75 (by decide), hexact 60 (by decide), hexact 40 (by decide)]

/-- What a score says of one aspect of a business. -/
def RiskFactor.ofScore (score : ℕ) : RiskFactor := ⟨score, .ofAverage (.ofNat score)⟩

namespace Risk

theorem ageScale_sameTiers : ageScale.SameTiers Scoring.ageScale := ⟨rfl, rfl⟩

theorem revenueScale_sameTiers : revenueScale.SameTiers Scoring.revenueScale := ⟨rfl, rfl⟩

theorem creditScale_sameTiers : creditScale.SameTiers Scoring.creditScale := ⟨rfl, rfl⟩

theorem five_dvd_total (profile : Profile) :
    5 ∣ (scores profile).foldl (fun sum entry => sum + entry.2) 0 := by
  have hage : 5 ∣ ageScale.points profile.years := Scale.dvd_pointsAt (by decide) (by decide) _
  have hrevenue : 5 ∣ revenueScale.points profile.revenue := Scale.dvd_pointsAt (by decide) (by decide) _
  have hcredit : 5 ∣ creditScale.points profile.credit := Scale.dvd_pointsAt (by decide) (by decide) _
  simp only [scores, List.foldl_cons, List.foldl_nil]
  omega

/-- Rounding a third of a multiple of five passes no threshold. -/
theorem ofAverage_third {total : ℕ} (h : 5 ∣ total) :
    RiskLevel.ofAverage (.ofQuotient false total 3) = .ofAverage (.ofNat (roundHalfUp total 3)) := by
  have hrounded (n : ℕ) (hn : 5 ∣ n) : n * 1 ≤ roundHalfUp total 3 ↔ n * 3 ≤ total := by
    rw [le_roundHalfUp_iff (by decide)]
    omega
  rw [Binary64.ofNat, RiskLevel.ofAverage_ofQuotient total (by decide) (by decide),
    RiskLevel.ofAverage_ofQuotient (roundHalfUp total 3) (by decide) (by decide)]
  simp only [hrounded 75 (by decide), hrounded 60 (by decide), hrounded 40 (by decide)]

end Risk

theorem Profile.assessRisk_factors (profile : Profile) (decision : Decision) :
    (profile.assessRisk decision).factors =
      [("business_age", .ofScore (Risk.ageScale.points profile.years)),
       ("revenue", .ofScore (Risk.revenueScale.points profile.revenue)),
       ("credit_history", .ofScore (Risk.creditScale.points profile.credit))] := rfl

theorem Profile.assessRisk_level (profile : Profile) (decision : Decision) :
    (profile.assessRisk decision).level = .ofAverage (.ofNat (profile.assessRisk decision).score) := by
  have hlength : (Risk.scores profile).length = 3 := rfl
  simp only [assessRisk, hlength]
  exact Risk.ofAverage_third (Risk.five_dvd_total profile)

/-- **Risk and score go by the same tiers.** A business stands at one position on the scales of both, for its
age, its revenue and its credit score, and what the assessment says of each is what its own scale says at the
position that the scorer found. The level is that of the score that is shown. -/
theorem Profile.assessRisk_goes_by_tiers (profile : Profile) (request : Request) (decision : Decision) :
    let f := Features.ofRequest profile request
    let risk := profile.assessRisk decision
    Risk.ageScale.position profile.years = Scoring.ageScale.position f.years ∧
    Risk.revenueScale.position profile.revenue = Scoring.revenueScale.position f.revenue ∧
    Risk.creditScale.position profile.credit = Scoring.creditScale.position f.credit ∧
    risk.factors =
      [("business_age", .ofScore (Risk.ageScale.pointsAt (Scoring.ageScale.position f.years))),
       ("revenue", .ofScore (Risk.revenueScale.pointsAt (Scoring.revenueScale.position f.revenue))),
       ("credit_history", .ofScore (Risk.creditScale.pointsAt (Scoring.creditScale.position f.credit)))] ∧
    risk.level = .ofAverage (.ofNat risk.score) := by
  intro f risk
  have hage : Risk.ageScale.position profile.years = Scoring.ageScale.position f.years :=
    Risk.ageScale_sameTiers.position_eq profile.years
  have hrevenue : Risk.revenueScale.position profile.revenue = Scoring.revenueScale.position f.revenue :=
    Risk.revenueScale_sameTiers.position_eq profile.revenue
  have hcredit : Risk.creditScale.position profile.credit = Scoring.creditScale.position f.credit :=
    Risk.creditScale_sameTiers.position_eq profile.credit
  refine ⟨hage, hrevenue, hcredit, ?factors, profile.assessRisk_level decision⟩
  case factors =>
    rw [← hage, ← hrevenue, ← hcredit]
    exact profile.assessRisk_factors decision

end Lending
