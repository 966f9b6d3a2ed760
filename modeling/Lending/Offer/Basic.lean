import Lending.Partner.Basic
import Lending.Decimal.Conversion

/-!
# Offers

What a partner may be expected to offer an applicant, from the probability of an approval and from what
became of the question to the partner. A partner that gave no figure is taken to lend the requested
amount at a usual rate within the usual time.
-/

namespace Lending

/-- What is known after a partner was asked. -/
inductive Outcome where
  | answered (eligibility : Eligibility)
  | failed (reason : String)
deriving DecidableEq

/-- A partner that may approve, with what is known of its answer. -/
structure Candidate where
  id : PartnerId
  name : String
  probability : Nat
  outcome : Outcome
deriving DecidableEq

structure Offer where
  id : PartnerId
  name : String
  probability : Nat
  /-- The probability, less what is missing of the requested amount. -/
  matchScore : Binary64
  rate : Decimal
  amount : Amount
  approvalTime : ApprovalTime
  reasons : List String
  strengths : List String
  considerations : List String
  /-- The place among all offers, from 1; 0 before they are ranked. -/
  rank : Nat
deriving DecidableEq

def Offer.isBest (offer : Offer) : Bool := offer.rank == 1

namespace Offer

def hundred : Decimal := .ofNat 100

/-- The percentage of the requested amount that is funded. What is too large to say is enough. -/
def coverage? (estimated requested : Amount) : Option Decimal :=
  (estimated.ratio? requested).map fun ratio => (Decimal.mul? ratio hundred).getD .largest

/-- The percentage that is funded, where that is less than everything. -/
def shortfall? (estimated requested : Amount) : Option Decimal :=
  (coverage? estimated requested).filter fun coverage => coverage < hundred

/-- The probability less half of the percentage that is not funded, to two places. -/
def exactScore? (probability : Nat) (estimated requested : Amount) : Option Decimal := do
  let base := Decimal.ofNat probability
  match shortfall? estimated requested with
  | some coverage =>
    let missing ← hundred.sub? coverage
    let half ← missing.div? (.ofNat 2)
    return (← base.sub? half).roundTo 2
  | none => return base

def score (probability : Nat) (estimated requested : Amount) : Binary64 :=
  ((exactScore? probability estimated requested).getD .zero).toBinary64

/-- The rate of a partner that gives none, in percent. -/
def usualRate : Decimal := .ofNat 16

/-- Amount, rate and time of what a partner may offer. -/
def figures (outcome : Outcome) (requested : Amount) : Amount × Decimal × ApprovalTime :=
  match outcome with
  | .answered e =>
    ((e.maximum?.map fun most => min most requested).getD requested, e.rate?.getD usualRate,
      e.approvalTime?.getD .fallback)
  | .failed _ => (requested, usualRate, .fallback)

end Offer
end Lending
