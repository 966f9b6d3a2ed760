import Lending.Offer.Build
import Lending.Partner.Document

/-!
# Offers in documents
-/

namespace Lending

open Document

def Outcome.ofDocument? (document : Document) : Option Outcome := do
  let fields ← table? document
  match ← fields.omissible "failed" text? with
  | some reason => return failed reason
  | none => return answered (← fields.required "answered" Eligibility.ofDocument?)

def Candidate.ofDocument? (document : Document) : Option Candidate := do
  let fields ← table? document
  return {
    id := ← fields.required "partner_id" text?
    name := ← fields.required "partner_name" text?
    probability := ← fields.required "approval_probability" byte?
    outcome := ← fields.required "outcome" Outcome.ofDocument? }

def Offer.document (o : Offer) : Document :=
  .table
    [("partner_id", .text o.id), ("partner_name", .text o.name),
     ("approval_probability", .natural o.probability), ("match_score", .real o.matchScore),
     ("estimated_rate", .decimal o.rate), ("estimated_amount", .amount o.amount),
     ("estimated_approval_time", .approvalTime o.approvalTime), ("reasons", .texts o.reasons),
     ("strengths", .texts o.strengths), ("considerations", .texts o.considerations),
     ("rank", .natural o.rank)]

end Lending
