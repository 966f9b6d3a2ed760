import Lending.Document.Term
import Lending.Engine.Intake

/-!
# Applications in documents
-/

namespace Lending

open Document

def Profile.fieldNames : List String :=
  ["years_in_business", "annual_revenue", "credit_score", "business_name", "industry",
   "contact_email", "contact_phone"]

def Profile.document (p : Profile) : Document :=
  .table
    [("years_in_business", .ofOption .real p.years?),
     ("annual_revenue", .ofOption Document.amount p.revenue?),
     ("credit_score", .ofOption .natural p.credit?),
     ("business_name", .ofText? p.businessName),
     ("industry", .ofText? p.industry),
     ("contact_email", .ofText? p.contactEmail),
     ("contact_phone", .ofText? p.contactPhone)]

/-- Reads a profile, in which every field may be missing. `years?` reads the years in business. -/
def Profile.ofDocumentWith? (years? : Document → Option Binary64) (document : Document) :
    Option Profile := do
  let fields ← record? fieldNames document
  return {
    years? := ← fields.omissible "years_in_business" years?
    revenue? := ← fields.omissible "annual_revenue" amount?
    credit? := ← fields.omissible "credit_score" word16?
    businessName := ← fields.omissible "business_name" text?
    industry := ← fields.omissible "industry" text?
    contactEmail := ← fields.omissible "contact_email" text?
    contactPhone := ← fields.omissible "contact_phone" text? }

def Profile.ofDocument? : Document → Option Profile := Profile.ofDocumentWith? double?

def Request.document (r : Request) : Document :=
  .table
    [("requested_amount", .amount r.amount), ("financing_type", .term r.product),
     ("purpose", .ofText? r.purpose), ("urgency", .ofOption Document.term r.urgency)]

def Request.ofDocument? (document : Document) : Option Request := do
  let fields ← record? ["requested_amount", "financing_type", "purpose", "urgency"] document
  return {
    amount := ← fields.required "requested_amount" amount?
    product := ← fields.required "financing_type" term?
    purpose := ← fields.optional "purpose" text?
    urgency := ← fields.optional "urgency" term? }

def Application.document (a : Application) : Document :=
  .table
    [("tenant_id", .text a.tenant), ("user_id", .text a.user), ("profile", a.profile.document),
     ("request", a.request.document)]

def Application.ofDocumentWith? (profile? : Document → Option Profile) (document : Document) :
    Option Application := do
  let fields ← record? ["tenant_id", "user_id", "profile", "request"] document
  return {
    tenant := ← fields.required "tenant_id" text?
    user := ← fields.required "user_id" text?
    profile := ← fields.required "profile" profile?
    request := ← fields.required "request" Request.ofDocument? }

def Options.document (o : Options) : Document :=
  .table
    [("min_approval_probability", .natural o.minProbability),
     ("max_partners", .natural o.maxPartners)]

def Options.ofDocument? (document : Document) : Option Options := do
  let fields ← record? ["min_approval_probability", "max_partners"] document
  return {
    minProbability :=
      ← fields.defaulted "min_approval_probability" Options.standard.minProbability byte?
    maxPartners := ← fields.defaulted "max_partners" Options.standard.maxPartners word64? }

def Intake.fieldNames : List String :=
  ["tenant_id", "user_id", "profile", "requested_amount", "financing_type", "purpose", "urgency",
   "options"]

def Intake.document (i : Intake) : Document :=
  .table
    [("tenant_id", .text i.tenant), ("user_id", .text i.user), ("profile", i.profile.document),
     ("requested_amount", .decimal i.amount), ("financing_type", .term i.product),
     ("purpose", .ofText? i.purpose), ("urgency", .ofOption Document.term i.urgency),
     ("options", .ofOption Options.document i.options?)]

/-- Reads an intake. `profile?` reads the profile, which may be missing but not null. -/
def Intake.ofDocumentWith? (profile? : Document → Option Profile) (document : Document) :
    Option Intake := do
  let fields ← record? fieldNames document
  return {
    tenant := ← fields.required "tenant_id" text?
    user := ← fields.required "user_id" text?
    profile := ← fields.defaulted "profile" .empty profile?
    amount := ← fields.required "requested_amount" decimal?
    product := ← fields.required "financing_type" term?
    purpose := ← fields.omissible "purpose" text?
    urgency := ← fields.omissible "urgency" term?
    options? := ← fields.omissible "options" Options.ofDocument? }

def Intake.ofDocument? : Document → Option Intake := Intake.ofDocumentWith? Profile.ofDocument?

end Lending
