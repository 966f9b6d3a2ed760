import Lending.Decision.Document
import Lending.Engine.Assessment
import Lending.Offer.Document

/-!
# Findings in documents
-/

namespace Lending

open Document

def Findings.document (f : Findings) : Document :=
  .table
    [("decision", .term f.verdict), ("approval_probability", .natural f.score),
     ("risk_score", .natural f.risk), ("credit_score", .ofOption .natural f.credit?),
     ("recommended_partners", .list (f.offers.map Offer.document)),
     ("partner_scores", .catalog .natural f.partnerScores),
     ("factors", .list (f.factors.map Factor.document)),
     ("risk_assessment", f.riskAssessment.document), ("suggestions", .texts f.suggestions),
     ("source", .term f.source), ("confidence", .natural f.confidence)]

end Lending
