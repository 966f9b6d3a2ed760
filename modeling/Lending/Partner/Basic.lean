import Lending.Scoring.Scorer
import Lending.ApprovalTime

/-!
# Financing partners

A partner as the service knows it: what it advertises, what it can do, and how it answers when it is
asked about an applicant. An answer takes time, and may be a fault or fail to come at all.
-/

namespace Lending

inductive Capability where
  | checkEligibility
  | submitApplication
  | getOffers
  | trackStatus
  | handleWebhook
deriving DecidableEq, Inhabited

instance : Vocabulary Capability where
  kind := "capability"
  terms := [.checkEligibility, .submitApplication, .getOffers, .trackStatus, .handleWebhook]
  tag
    | .checkEligibility => "check_eligibility"
    | .submitApplication => "submit_application"
    | .getOffers => "get_offers"
    | .trackStatus => "track_status"
    | .handleWebhook => "handle_webhook"

/-- Where an application stands that was submitted to a partner. -/
inductive Status where
  | submitted
  | underReview
  | approved
  | rejected
  | disbursed
deriving DecidableEq, Inhabited

instance : Vocabulary Status where
  kind := "application status"
  terms := [.submitted, .underReview, .approved, .rejected, .disbursed]
  tag
    | .submitted => "submitted"
    | .underReview => "under_review"
    | .approved => "approved"
    | .rejected => "rejected"
    | .disbursed => "disbursed"

/-- The terms that a partner advertises to everyone. -/
structure PartnerTerms where
  maxAmount : Amount
  minRate : Decimal
  typicalApproval : ApprovalTime
deriving DecidableEq

/-- What a partner answers about an applicant. -/
structure Eligibility where
  eligible : Bool
  maximum? : Option Amount
  rate? : Option Decimal
  approvalTime? : Option ApprovalTime
  reasons : List String
deriving DecidableEq

/-- The answer of a partner that does not want the applicant. -/
def Eligibility.refusal (reason : String) : Eligibility := ⟨false, none, none, none, [reason]⟩

/-- What becomes of a question to a partner. -/
inductive Reply where
  | answer (eligibility : Eligibility)
  | fault (fault : PartnerFault)
  | aborted
deriving DecidableEq

/-- A reply and the milliseconds it takes. -/
structure Probe where
  delay : Nat
  reply : Reply
deriving DecidableEq

/-- What a partner shows of itself. -/
structure Listing where
  id : PartnerId
  name : String
  type : PartnerType
  products : List Product
  terms : PartnerTerms
deriving DecidableEq

structure Partner where
  listing : Listing
  capabilities : List Capability
  /-- How many milliseconds the partner may take; 0 leaves it to the service. -/
  timeout : Nat
  check : Profile → Probe

namespace Partner

def id (p : Partner) : PartnerId := p.listing.id

def summary (p : Partner) : PartnerSummary := ⟨p.listing.id, p.listing.type⟩

def offers (p : Partner) (product : Product) : Bool := p.listing.products.contains product

/-- What is wrong with the description of a partner. -/
def errors (p : Partner) : List String :=
  (if Text.IsBlank p.listing.id then ["partner_id is required"] else []) ++
  (if Text.IsBlank p.listing.name then ["partner_name is required"] else []) ++
  (if p.listing.products.isEmpty then ["supported_products must not be empty"] else []) ++
  ((Vocabulary.terms.filter fun capability => !p.capabilities.contains capability).map fun missing =>
    "missing required capability: " ++ Vocabulary.tag missing)

end Partner

/-- What is asked of a partner when one is picked. -/
structure Criteria where
  minAmount? : Option Amount
  maxRate? : Option Decimal
  type? : Option PartnerType
  maxApprovalHours? : Option Nat
deriving DecidableEq

/-- Every criterion that is given is met. -/
def Criteria.accepts (c : Criteria) (type : PartnerType) (terms : PartnerTerms) : Bool :=
  c.minAmount?.all (fun least => least ≤ terms.maxAmount) &&
  c.maxRate?.all (fun most => terms.minRate ≤ most) &&
  c.type?.all (fun wanted => wanted == type) &&
  c.maxApprovalHours?.all (fun hours => terms.typicalApproval.maxHours ≤ hours)

end Lending
