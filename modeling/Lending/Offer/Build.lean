import Lending.Offer.Basic

/-!
# Building offers

An offer is built from a candidate and explained in three lists: why the partner is in question, what
speaks for it, and what there is to consider. Each remark below speaks for the partner, gives something
to consider, or is not made.
-/

namespace Lending

/-- A remark on an offer. -/
inductive Remark where
  | strength (text : String)
  | consideration (text : String)
deriving DecidableEq

namespace Remark

def strength? : Remark → Option String
  | strength text => some text
  | consideration _ => none

def consideration? : Remark → Option String
  | strength _ => none
  | consideration text => some text

def onProbability (probability : Nat) : Remark :=
  if 80 ≤ probability then strength "High likelihood of approval"
  else if 60 ≤ probability then strength "Good likelihood of approval"
  else consideration ("Approval is uncertain at " ++ toString probability ++ "% probability")

def onRate (rate : Decimal) : List Remark :=
  if rate ≤ .ofNat 12 then [strength ("Competitive rate around " ++ rate.text ++ "%")]
  else if .ofNat 18 ≤ rate then [consideration ("Higher rate around " ++ rate.text ++ "%")]
  else []

def onApprovalTime (time : ApprovalTime) : List Remark :=
  if time.isFast then [strength ("Fast approval in " ++ time.text)]
  else if time.isSlow then [consideration ("Slower approval, about " ++ time.text)]
  else []

def onFunding (estimated requested : Amount) : Remark :=
  match Offer.shortfall? estimated requested with
  | some coverage =>
    consideration ("Can fund about " ++ (coverage.roundTo 0).text ++ "% of the requested amount")
  | none => strength "Can fund the full requested amount"

def onOutcome : Outcome → List Remark
  | .answered e =>
    if e.eligible then []
    else [consideration "Partner pre-screen did not pass; approval is unlikely without changes"]
  | .failed reason =>
    [consideration ("Live estimate unavailable (" ++ reason ++ "); figures are indicative")]

end Remark

namespace Candidate

/-- Why a candidate is in question: the product, the probability, and what the partner says itself. -/
def reasons (c : Candidate) (product : Product) : List String :=
  ["Offers " ++ Vocabulary.tag product,
   "Estimated approval probability of " ++ toString c.probability ++ "%"] ++
  match c.outcome with
  | .answered e => e.reasons
  | .failed _ => []

/-- All remarks on a candidate whose offer has these figures. -/
def remarks (c : Candidate) (amount : Amount) (rate : Decimal) (time : ApprovalTime)
    (requested : Amount) : List Remark :=
  Remark.onProbability c.probability :: Remark.onRate rate ++ Remark.onApprovalTime time ++
    Remark.onFunding amount requested :: Remark.onOutcome c.outcome

/-- The offer to expect from a candidate, not yet ranked. -/
def offer (c : Candidate) (product : Product) (requested : Amount) : Offer :=
  let (amount, rate, time) := Offer.figures c.outcome requested
  let remarks := c.remarks amount rate time requested
  { id := c.id
    name := c.name
    probability := c.probability
    matchScore := Offer.score c.probability amount requested
    rate := rate
    amount := amount
    approvalTime := time
    reasons := c.reasons product
    strengths := remarks.filterMap Remark.strength?
    considerations := remarks.filterMap Remark.consideration?
    rank := 0 }

end Candidate
end Lending
