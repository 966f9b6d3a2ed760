import Lending.Partner.Basic
import Lending.Binary64.Text
import Lending.Text.Quoted

/-!
# Partners by policy

A partner that is simulated by a written policy: whom it accepts, up to which multiple of the revenue,
and at which rate. Its answers depend on the applicant and the policy alone and take no time.
-/

namespace Lending

structure Policy where
  id : PartnerId
  name : String
  type : PartnerType
  products : List Product
  maxAmount : Amount
  minRate : Decimal
  minHours : Nat
  maxHours : Nat
  minYears : Binary64
  minCredit : Nat
  revenueMultiple : Decimal
  timeout : Nat
  enabled : Bool
deriving DecidableEq

/-- What is wrong with a policy, and for whom. -/
inductive PolicyFault where
  | idMissing
  | noProducts (id : PartnerId)
  | hoursReversed (id : PartnerId)
  | rateNegative (id : PartnerId)
  | multipleNegative (id : PartnerId)
  | yearsInvalid (id : PartnerId)
deriving DecidableEq

def PolicyFault.message : PolicyFault → String
  | idMissing => "partner_id is required"
  | noProducts id => about id "products must not be empty"
  | hoursReversed id => about id "approval_min_hours exceeds approval_max_hours"
  | rateNegative id => about id "min_rate must not be negative"
  | multipleNegative id => about id "revenue_multiple must not be negative"
  | yearsInvalid id => about id "min_years_in_business must be a non-negative number"
where
  about (id : PartnerId) (text : String) : String := "partner '" ++ id ++ "': " ++ text

/-- A concrete offer for an application that was submitted. -/
structure FinalOffer where
  id : String
  amount : Amount
  rate : Decimal
  tenureMonths : Nat
deriving DecidableEq

namespace Policy

/-- The policy of a partner that says nothing but its name. -/
def named (id : PartnerId) (name : String) : Policy where
  id := id
  name := name
  type := .fintech
  products := [.workingCapital]
  maxAmount := .ofNat 5000000
  minRate := .ofNat 14
  minHours := ApprovalTime.fallback.minHours
  maxHours := ApprovalTime.fallback.maxHours
  minYears := .zero
  minCredit := 0
  revenueMultiple := .tenths 5
  timeout := 0
  enabled := true

/-- The first thing that is wrong with a policy. -/
def fault? (p : Policy) : Option PolicyFault :=
  if Text.IsBlank p.id then some .idMissing
  else if p.products.isEmpty then some (.noProducts p.id)
  else if p.maxHours < p.minHours then some (.hoursReversed p.id)
  else if p.minRate.negative then some (.rateNegative p.id)
  else if p.revenueMultiple.negative then some (.multipleNegative p.id)
  else if ¬ p.minYears.IsFinite ∨ p.minYears < .zero then some (.yearsInvalid p.id)
  else none

/-- Nothing is wrong with a policy that passes every one of the checks. -/
theorem fault?_eq_none_iff {p : Policy} : p.fault? = none ↔
    ¬ Text.IsBlank p.id ∧ p.products ≠ [] ∧ p.minHours ≤ p.maxHours ∧ p.minRate.negative = false ∧
      p.revenueMultiple.negative = false ∧ p.minYears.IsFinite ∧ ¬ p.minYears < .zero := by
  unfold fault?
  grind

def approvalTime (p : Policy) : ApprovalTime := .ofHours p.minHours p.maxHours

def terms (p : Policy) : PartnerTerms := ⟨p.maxAmount, p.minRate, p.approvalTime⟩

def listing (p : Policy) : Listing := ⟨p.id, p.name, p.type, p.products, p.terms⟩

/-- The percent on top of the lowest rate, by credit score. -/
def spread (credit : Nat) : Decimal :=
  if 750 ≤ credit then .zero
  else if 700 ≤ credit then .tenths 15
  else if 650 ≤ credit then .ofNat 3
  else .ofNat 5

def rate (p : Policy) (credit : Nat) : Decimal := p.minRate.addSaturating (spread credit)

/-- What the partner would fund at most: a multiple of the revenue, up to its own limit, which alone
counts where the multiple is too large. -/
def fundingLimit (p : Policy) (revenue : Amount) : Amount :=
  match Decimal.mul? revenue.value p.revenueMultiple with
  | some limit => min ((Amount.ofDecimal? limit).getD .zero) p.maxAmount
  | none => p.maxAmount

/-- A partner that is not enabled answers nothing. -/
def ensureEnabled (p : Policy) : Except PartnerFault Unit :=
  if p.enabled then .ok () else .error (.unavailable (p.name ++ " is disabled"))

/-- The answer about an applicant. -/
def check (p : Policy) (profile : Profile) : Except PartnerFault Eligibility := do
  p.ensureEnabled
  if profile.years < p.minYears then
    return .refusal ("requires at least " ++ p.minYears.text ++ " years in business")
  if profile.credit < p.minCredit then
    return .refusal ("requires a credit score of at least " ++ toString p.minCredit)
  return ⟨true, some (p.fundingLimit profile.revenue), some (p.rate profile.credit),
    some p.approvalTime, []⟩

/-! ### Applications that were submitted -/

/-- Accepts an application and answers the reference under which it is known from now on. -/
def submit (p : Policy) (application : Application) (id : UniversalId) :
    Except PartnerFault String := do
  p.ensureEnabled
  if p.products.contains application.request.product then return p.id ++ "-" ++ id.text
  else throw (.rejected (Vocabulary.tag application.request.product ++ " is not offered"))

/-- A reference is the partner's own if it begins with the partner's identifier and a hyphen. -/
def owns (p : Policy) (reference : String) : Bool :=
  (p.id.toList ++ ['-']).isPrefixOf reference.toList

def ensureOwned (p : Policy) (reference : String) : Except PartnerFault Unit := do
  p.ensureEnabled
  if p.owns reference then return () else throw (.rejected ("unknown reference '" ++ reference ++ "'"))

def offers (p : Policy) (reference : String) : Except PartnerFault (List FinalOffer) := do
  p.ensureOwned reference
  return [⟨reference ++ "-offer-1", p.maxAmount, p.minRate, 12⟩]

def track (p : Policy) (reference : String) : Except PartnerFault Status := do
  p.ensureOwned reference
  return .underReview

/-! ### The partner -/

def partner (p : Policy) : Partner where
  listing := p.listing
  capabilities := Vocabulary.terms
  timeout := p.timeout
  check profile := ⟨0, match p.check profile with
    | .ok eligibility => .answer eligibility
    | .error fault => .fault fault⟩

/-- A short description for diagnostics, the type named in capitals. -/
def description (p : Policy) : String :=
  "SimulatedPartner \x7b partner_id: PartnerId(" ++ Text.quoted p.id ++ "), partner_type: " ++
    typeName p.type ++ ", enabled: " ++ (if p.enabled then "true" else "false") ++ " \x7d"
where
  typeName : PartnerType → String
    | .bank => "Bank"
    | .conservativeNbfc => "ConservativeNbfc"
    | .flexibleNbfc => "FlexibleNbfc"
    | .fintech => "Fintech"
    | .marketplace => "Marketplace"

end Policy
end Lending
