import Lending.Decision.Risk
import Lending.Decision.Suggestion
import Lending.Engine.Options
import Lending.Engine.Probing
import Lending.Offer.Ranking
import Lending.Partner.Directory

/-!
# Assessments

The answer to an application: the decision of a scorer, the partners that may approve, ranked, and what
explains both. Without any partner to offer, the verdict is to decline.
-/

namespace Lending

/-- What an application comes to, apart from when and under which number it was computed. -/
structure Findings where
  verdict : Verdict
  score : Nat
  risk : Nat
  credit? : Option Nat
  offers : List Offer
  partnerScores : Catalog Nat
  factors : List Factor
  riskAssessment : RiskAssessment
  suggestions : List String
  source : ScoreSource
  confidence : Nat
deriving DecidableEq

/-- Findings under the number of their computation. -/
structure Assessment where
  number : Nat
  findings : Findings
deriving DecidableEq

/-- The probability of an approval by a partner that the scorer passed over. -/
def unscoredProbability : Nat := 50

/-- The score of a partner is the probability of its approval. -/
def Decision.probability (d : Decision) (id : PartnerId) : Nat :=
  (d.partnerScores.find? id).getD unscoredProbability

def Decision.shortlisted (d : Decision) (partners : List Partner) (options : Options) :
    List (Partner × Nat) :=
  (partners.map fun p => (p, d.probability p.id)).filter fun entry =>
    options.minProbability ≤ entry.2

def Decision.tasks (d : Decision) (partners : List Partner) (options : Options) (limit : Nat)
    (profile : Profile) : List Task :=
  Probing.ask limit profile (d.shortlisted partners options)

/-- The findings from a decision and the candidates for an offer. -/
def Findings.ofCandidates (application : Application) (options : Options) (decision : Decision)
    (candidates : List Candidate) : Findings :=
  let request := application.request
  let offers := Offer.ranked (candidates.map fun c => c.offer request.product request.amount)
    options.maxPartners
  let verdict := if offers.isEmpty then .decline else decision.verdict
  let risk := application.profile.assessRisk decision
  { verdict := verdict
    score := decision.score
    risk := decision.risk
    credit? := decision.credit?
    offers := offers
    partnerScores := decision.partnerScores
    factors := decision.factors
    riskAssessment := risk
    suggestions := verdict.suggestions risk.recommendations
    source := decision.source
    confidence := decision.confidence }

/-- What a computation needs beside the application. -/
structure Setting where
  directory : Directory
  scorer : Scorer
  /-- The limit for every partner, in milliseconds. -/
  probeLimit : Nat

namespace Setting

/-- The decision of the scorer, which sees the partners that offer the product. -/
def decision (s : Setting) (a : Application) : Decision :=
  s.scorer.assess a.profile a.request ((s.directory.offering a.request.product).map Partner.summary)

def tasks (s : Setting) (a : Application) (options : Options) : List Task :=
  (s.decision a).tasks (s.directory.offering a.request.product) options s.probeLimit a.profile

/-- The findings on an application when its questions are answered in the given order. -/
def findingsIn (s : Setting) (order : List Nat) (a : Application) (options : Options) : Findings :=
  .ofCandidates a options (s.decision a) (Probing.gather order (s.tasks a options))

/-- The findings that an engine comes to, which counts its questions on the way. -/
def findings (s : Setting) (a : Application) (options : Options) : Findings :=
  s.findingsIn (Probing.endingOrder (s.tasks a options)) a options

end Setting
end Lending
