import Lending.Decision.Basic

/-!
# Risk

The risk of an applicant by business age, revenue and credit history. The tiers are those of the score,
on a scale of 100 on which more is safer; the level follows from the average.
-/

namespace Lending

/-- The level of an average; what is no number is a very high risk. -/
def RiskLevel.ofAverage (average : Binary64) : RiskLevel :=
  if Binary64.ofNat 75 ≤ average then .low
  else if Binary64.ofNat 60 ≤ average then .medium
  else if Binary64.ofNat 40 ≤ average then .high
  else .veryHigh

structure RiskFactor where
  score : Nat
  level : RiskLevel
deriving DecidableEq

structure RiskAssessment where
  level : RiskLevel
  score : Nat
  factors : List (String × RiskFactor)
  recommendations : List String
deriving DecidableEq

namespace Risk

def ageScale : Scale Binary64 where
  meets figure threshold := threshold ≤ figure
  tiers := [(.ofNat 5, 100), (.ofNat 3, 80), (.ofNat 2, 60), (.ofNat 1, 40)]
  floor := 20

def revenueScale : Scale Amount where
  meets figure threshold := threshold ≤ figure
  tiers :=
    [(.ofNat 50000000, 100), (.ofNat 20000000, 85), (.ofNat 10000000, 70), (.ofNat 5000000, 55),
     (.ofNat 1000000, 40)]
  floor := 25

def creditScale : Scale Nat where
  meets figure threshold := threshold ≤ figure
  tiers := [(750, 100), (700, 85), (650, 70), (600, 50)]
  floor := 30

/-- The scores of a business by what they are about. -/
def scores (profile : Profile) : List (String × Nat) :=
  [("business_age", ageScale.points profile.years),
   ("revenue", revenueScale.points profile.revenue),
   ("credit_history", creditScale.points profile.credit)]

/-- What would improve the standing of a business whose decision carries this risk. -/
def recommendations (profile : Profile) (risk : Nat) : List String :=
  let advice : List (Bool × String) :=
    [(profile.years < .ofNat 2,
        "Build at least two years of operating history to widen partner eligibility"),
     (profile.credit < 700,
        "Raise your credit score above 700 by clearing overdue dues and lowering utilization"),
     (profile.revenue < .ofNat 10000000,
        "Keep audited revenue records up to date to support higher limits"),
     (50 ≤ risk, "Consider a smaller amount or offering collateral to lower lender risk")]
  (advice.filter (·.1)).map (·.2)

end Risk

open Risk in
/-- The risk of an applicant on whom a decision was made. -/
def Profile.assessRisk (profile : Profile) (decision : Decision) : RiskAssessment :=
  let scores := scores profile
  let total := scores.foldl (fun sum entry => sum + entry.2) 0
  { level := .ofAverage (.ofQuotient false total scores.length)
    score := roundHalfUp total scores.length
    factors := scores.map fun (name, score) => (name, ⟨score, .ofAverage (.ofNat score)⟩)
    recommendations := recommendations profile decision.risk }

end Lending
