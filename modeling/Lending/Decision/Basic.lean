import Lending.Catalog
import Lending.Scoring.Features

/-!
# Credit decisions

A decision is an overall score with what explains it and the score for each partner. Verdict, risk and
the partners on the shortlist follow from these.
-/

namespace Lending

structure Decision where
  score : Nat
  /-- The credit score of the applicant, if one was reported. -/
  credit? : Option Nat
  partnerScores : Catalog Nat
  factors : List Factor
  confidence : Nat
  source : ScoreSource
  score_le : score ≤ 100
  confidence_le : confidence ≤ 100
deriving DecidableEq

/-- The better score comes first, and of equal scores the smaller name. -/
def Catalog.precedes (a b : String × Nat) : Bool :=
  decide (b.2 < a.2) || (a.2 == b.2 && decide (a.1 ≤ b.1))

/-- The names with the best scores, best first. -/
def Catalog.best (scores : Catalog Nat) (limit : Nat) : List String :=
  ((scores.entries.mergeSort Catalog.precedes).take limit).map (·.1)

namespace Decision

/-- A decision on a score; a score or confidence above 100 is 100. -/
def make (score : Nat) (credit? : Option Nat) (partnerScores : Catalog Nat) (factors : List Factor)
    (confidence : Nat) (source : ScoreSource) : Decision :=
  ⟨min score 100, credit?, partnerScores, factors, min confidence 100, source,
    Nat.min_le_right _ _, Nat.min_le_right _ _⟩

def verdict (d : Decision) : Verdict := .ofScore d.score

def risk (d : Decision) : Nat := 100 - d.score

def shortlist (d : Decision) : List PartnerId := d.partnerScores.best 5

end Decision
end Lending
