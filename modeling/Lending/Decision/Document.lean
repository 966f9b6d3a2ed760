import Lending.Decision.Risk
import Lending.Document.Term

/-!
# Decisions in documents
-/

namespace Lending

open Document

def Factor.document (f : Factor) : Document :=
  .table
    [("factor", .text f.name), ("impact", .term f.impact), ("weight", .natural f.weight),
     ("description", .text f.description)]

def Factor.ofDocument? (document : Document) : Option Factor := do
  let fields ← table? document
  return .make (← fields.required "factor" text?) (← fields.required "impact" term?)
    (← fields.required "weight" byte?) (← fields.required "description" text?)

def Decision.document (d : Decision) : Document :=
  .table
    [("recommendation", .term d.verdict), ("overall_score", .natural d.score),
     ("risk_score", .natural d.risk), ("credit_score", .ofOption .natural d.credit?),
     ("partner_scores", .catalog .natural d.partnerScores),
     ("recommended_partner_ids", .texts d.shortlist),
     ("factors", .list (d.factors.map Factor.document)), ("confidence", .natural d.confidence),
     ("source", .term d.source)]

def RiskFactor.document (f : RiskFactor) : Document :=
  .table [("score", .natural f.score), ("risk", .term f.level)]

def RiskAssessment.document (r : RiskAssessment) : Document :=
  .table
    [("level", .term r.level), ("score", .natural r.score),
     ("factors", .table (r.factors.map fun (name, factor) => (name, factor.document))),
     ("recommendations", .texts r.recommendations)]

end Lending
