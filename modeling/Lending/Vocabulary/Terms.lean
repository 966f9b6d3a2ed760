import Lending.Vocabulary.Basic

/-!
# The terms of lending

The closed vocabularies of partners, requests and decisions, with the two that are derived from a score.
-/

namespace Lending

/-- What kind of institution a partner is; it selects how scores are adjusted for the partner. -/
inductive PartnerType where
  | bank
  | conservativeNbfc
  | flexibleNbfc
  | fintech
  | marketplace
deriving DecidableEq, Inhabited

instance : Vocabulary PartnerType where
  kind := "partner type"
  terms := [.bank, .conservativeNbfc, .flexibleNbfc, .fintech, .marketplace]
  tag
    | .bank => "bank"
    | .conservativeNbfc => "conservative_nbfc"
    | .flexibleNbfc => "flexible_nbfc"
    | .fintech => "fintech"
    | .marketplace => "marketplace"

/-- What a partner may finance. -/
inductive Product where
  | invoiceFinancing
  | workingCapital
  | creditLine
  | equipmentFinancing
  | termLoan
  | supplyChainFinance
deriving DecidableEq, Inhabited

instance : Vocabulary Product where
  kind := "financing product"
  terms :=
    [.invoiceFinancing, .workingCapital, .creditLine, .equipmentFinancing, .termLoan,
     .supplyChainFinance]
  tag
    | .invoiceFinancing => "invoice_financing"
    | .workingCapital => "working_capital"
    | .creditLine => "credit_line"
    | .equipmentFinancing => "equipment_financing"
    | .termLoan => "term_loan"
    | .supplyChainFinance => "supply_chain_finance"

/-- How soon the applicant needs the funds. -/
inductive Urgency where
  | low
  | medium
  | high
deriving DecidableEq, Inhabited

instance : Vocabulary Urgency where
  kind := "urgency"
  terms := [.low, .medium, .high]
  tag
    | .low => "low"
    | .medium => "medium"
    | .high => "high"

/-- What a score recommends to do with an application. -/
inductive Verdict where
  | approve
  | review
  | decline
deriving DecidableEq, Inhabited

instance : Vocabulary Verdict where
  kind := "recommendation"
  terms := [.approve, .review, .decline]
  tag
    | .approve => "approve"
    | .review => "review"
    | .decline => "decline"

/-- The verdict on a score of at most 100. -/
def Verdict.ofScore (score : Nat) : Verdict :=
  if 70 ≤ score then .approve else if 50 ≤ score then .review else .decline

/-- In which direction a factor moves a decision. -/
inductive Impact where
  | positive
  | negative
  | neutral
deriving DecidableEq, Inhabited

instance : Vocabulary Impact where
  kind := "factor impact"
  terms := [.positive, .negative, .neutral]
  tag
    | .positive => "positive"
    | .negative => "negative"
    | .neutral => "neutral"

inductive RiskLevel where
  | low
  | medium
  | high
  | veryHigh
deriving DecidableEq, Inhabited

instance : Vocabulary RiskLevel where
  kind := "risk level"
  terms := [.low, .medium, .high, .veryHigh]
  tag
    | .low => "low"
    | .medium => "medium"
    | .high => "high"
    | .veryHigh => "very_high"

/-- Which way of scoring a decision comes from. -/
inductive ScoreSource where
  | model
  | rules
deriving DecidableEq, Inhabited

instance : Vocabulary ScoreSource where
  kind := "score source"
  terms := [.model, .rules]
  tag
    | .model => "ml_model"
    | .rules => "rule_based"

end Lending
