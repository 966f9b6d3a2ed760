import Lending.Document.Term
import Lending.Partner.Directory
import Lending.Partner.Policy

/-!
# Partners in documents
-/

namespace Lending

open Document

def PartnerTerms.document (t : PartnerTerms) : Document :=
  .table
    [("max_amount", .amount t.maxAmount), ("min_rate", .decimal t.minRate),
     ("typical_approval", .approvalTime t.typicalApproval)]

def PartnerTerms.ofDocument? (document : Document) : Option PartnerTerms := do
  let fields ← record? ["max_amount", "min_rate", "typical_approval"] document
  return ⟨← fields.required "max_amount" amount?, ← fields.required "min_rate" decimal?,
    ← fields.required "typical_approval" approvalTime?⟩

def Listing.document (l : Listing) : Document :=
  .table
    [("partner_id", .text l.id), ("partner_name", .text l.name), ("partner_type", .term l.type),
     ("supported_products", .list (l.products.map Document.term)), ("terms", l.terms.document)]

def Eligibility.document (e : Eligibility) : Document :=
  .table
    [("eligible", .bool e.eligible), ("maximum_amount", .ofOption Document.amount e.maximum?),
     ("estimated_rate", .ofOption Document.decimal e.rate?),
     ("approval_time", .ofOption Document.approvalTime e.approvalTime?), ("reasons", .texts e.reasons)]

def Eligibility.ofDocument? (document : Document) : Option Eligibility := do
  let fields ←
    record? ["eligible", "maximum_amount", "estimated_rate", "approval_time", "reasons"] document
  return {
    eligible := ← fields.required "eligible" bool?
    maximum? := ← fields.optional "maximum_amount" amount?
    rate? := ← fields.optional "estimated_rate" decimal?
    approvalTime? := ← fields.optional "approval_time" Document.approvalTime?
    reasons := ← fields.required "reasons" (list? text?) }

def Criteria.ofDocument? (document : Document) : Option Criteria := do
  let fields ← record? ["min_amount", "max_rate", "partner_type", "max_approval_hours"] document
  return {
    minAmount? := ← fields.omissible "min_amount" amount?
    maxRate? := ← fields.omissible "max_rate" decimal?
    type? := ← fields.omissible "partner_type" term?
    maxApprovalHours? := ← fields.omissible "max_approval_hours" word32? }

def Policy.fieldNames : List String :=
  ["partner_id", "partner_name", "partner_type", "products", "max_amount", "min_rate",
   "approval_min_hours", "approval_max_hours", "min_years_in_business", "min_credit_score",
   "revenue_multiple", "timeout_ms", "enabled"]

def Policy.document (p : Policy) : Document :=
  .table
    [("partner_id", .text p.id), ("partner_name", .text p.name), ("partner_type", .term p.type),
     ("products", .list (p.products.map Document.term)), ("max_amount", .amount p.maxAmount),
     ("min_rate", .decimal p.minRate), ("approval_min_hours", .natural p.minHours),
     ("approval_max_hours", .natural p.maxHours), ("min_years_in_business", .real p.minYears),
     ("min_credit_score", .natural p.minCredit), ("revenue_multiple", .decimal p.revenueMultiple),
     ("timeout_ms", .natural p.timeout), ("enabled", .bool p.enabled)]

/-- Reads a policy, in which every field may be missing but not null. -/
def Policy.ofDocument? (dialect : Dialect) (document : Document) : Option Policy := do
  let fields ← recordIn? dialect fieldNames document
  let usual := Policy.named "" ""
  return {
    id := ← fields.defaulted "partner_id" usual.id text?
    name := ← fields.defaulted "partner_name" usual.name text?
    type := ← fields.defaulted "partner_type" usual.type (termIn? dialect)
    products := ← fields.defaulted "products" usual.products (list? (termIn? dialect))
    maxAmount := ← fields.defaulted "max_amount" usual.maxAmount amount?
    minRate := ← fields.defaulted "min_rate" usual.minRate decimal?
    minHours := ← fields.defaulted "approval_min_hours" usual.minHours word32?
    maxHours := ← fields.defaulted "approval_max_hours" usual.maxHours word32?
    minYears := ← fields.defaulted "min_years_in_business" usual.minYears double?
    minCredit := ← fields.defaulted "min_credit_score" usual.minCredit word16?
    revenueMultiple := ← fields.defaulted "revenue_multiple" usual.revenueMultiple decimal?
    timeout := ← fields.defaulted "timeout_ms" usual.timeout word64?
    enabled := ← fields.defaulted "enabled" usual.enabled bool? }

def FinalOffer.document (o : FinalOffer) : Document :=
  .table
    [("offer_id", .text o.id), ("amount", .amount o.amount), ("rate", .decimal o.rate),
     ("tenure_months", .natural o.tenureMonths)]

def Directory.Stats.document (s : Directory.Stats) : Document :=
  .table
    [("total_partners", .natural s.total),
     ("by_type", .table (s.byType.map fun (type, n) => (Vocabulary.tag type, .natural n))),
     ("by_product", .table (s.byProduct.map fun (product, n) => (Vocabulary.tag product, .natural n)))]

/-- Whether the description of a partner is complete, and what it lacks. -/
def Partner.validationDocument (p : Partner) : Document :=
  .table [("valid", .bool p.errors.isEmpty), ("errors", .texts p.errors)]

/-! ### Messages from partners -/

/-- What a partner tells of its own accord: an event and what it is about. -/
structure Webhook where
  event : String
  body : Document

def Webhook.ofDocument? (document : Document) : Option Webhook := do
  let fields ← record? ["event", "body"] document
  return ⟨← fields.required "event" text?, ← fields.required "body" some⟩

/-- What a message says: about which reference, and where that stands. -/
structure Notice where
  reference? : Option String
  status? : Option Status
deriving DecidableEq

def Notice.document (n : Notice) : Document :=
  .table [("reference", .ofText? n.reference?), ("status", .ofOption Document.term n.status?)]

/-- Interprets a message. A status must be one there is; other fields may hold anything. -/
def Webhook.notice (w : Webhook) : Except PartnerFault Notice := do
  if Text.IsBlank w.event then throw (.rejected "webhook event is missing")
  let fields := (fields? w.body).getD []
  let reference? := (fields.lookup "reference").bind text?
  match fields.lookup "status" with
  | none => return ⟨reference?, none⟩
  | some status =>
    match term? status with
    | some status => return ⟨reference?, some status⟩
    | none => throw (.rejected "invalid status")

end Lending
