import Lending.Decimal.Arithmetic
import Lending.Text.Blank
import Lending.Text.Lowercase
import Lending.Text.Quoted
import Lending.Document.Field
import Lending.Document.Toml
import Lending.Vocabulary.Terms
import Lending.Vocabulary.Lexicon
import Lending.Identifier
import Lending.Amount.Basic
import Lending.ApprovalTime
import Lending.Scoring.Scorer
import Lending.Decision.Risk
import Lending.Decision.Suggestion
import Lending.Partner.Directory
import Lending.Partner.Policy
import Lending.Offer.Basic
import Lending.Cache.Basic
import Lending.Cache.Queue
import Lending.Cache.Slot
import Lending.Offer.Build
import Lending.Offer.Ranking
import Lending.Engine.Intake
import Lending.Engine.Crowd
import Lending.Application.Document
import Lending.Scoring.Document
import Lending.Engine.Document
import Lending.Session
import Lending.Amount.Conversion
import Lending.Main
import Lending.Document.Fault
import Lending.Proofs.Cache.Consistency
import Lending.Proofs.Cache.Refinement
import Lending.Proofs.Decimal.Normal
import Lending.Proofs.Engine.Operation
import Lending.Proofs.Engine.Provenance
import Lending.Proofs.Cache.Slots
import Lending.Proofs.Engine.Exclusion
import Lending.Proofs.Engine.Flight
import Lending.Proofs.Engine.Probing
import Lending.Proofs.Engine.Recommendation
import Lending.Proofs.Engine.SingleFlight
import Lending.Proofs.Engine.Isolation
import Lending.Proofs.Engine.Refusal
import Lending.Proofs.Partner.Registration
import Lending.Proofs.Decimal.Order
import Lending.Proofs.Scoring.Features
import Lending.Proofs.Scoring.Adjustment
import Lending.Proofs.Catalog
import Lending.Proofs.Scoring.Strength
import Lending.Proofs.Cache.Expiry
import Lending.Proofs.Engine.Work
import Lending.Proofs.Settings.Startup
import Lending.Proofs.Partner.Reference
import Lending.Proofs.Engine.Round
import Lending.Proofs.Partner.Arrangement
import Lending.Proofs.Engine.Arrangement
import Lending.Proofs.Engine.Coherence
import Lending.Proofs.Engine.Acceptance
import Lending.Proofs.Binary64.Conversion
import Lending.Proofs.Offer.Score
import Lending.Proofs.Offer.Best
import Lending.Proofs.Partner.Estimate
import Lending.Proofs.Scoring.Model
import Lending.Proofs.Partner.Cheapest
import Lending.Proofs.Partner.Census
import Lending.Proofs.Application.Restatement
import Lending.Proofs.Cache.Handles
import Lending.Proofs.Decision.Shortlist
import Lending.Proofs.Decision.Risk
import Lending.Proofs.Decimal.Threshold
import Lending.Proofs.Offer.Funding
import Lending.Proofs.Scoring.Ratio
import Lending.Proofs.Scoring.Explanation
import Lending.Proofs.Engine.Limit
import Lending.Proofs.ApprovalTime
import Lending.Proofs.Decision.Suggestion
import Lending.Proofs.Settings.Override
import Lending.Proofs.Amount
import Lending.Proofs.Vocabulary
import Lending.Proofs.Cache.Numbering
