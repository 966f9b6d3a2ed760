import Lending.Vocabulary.Terms

/-!
# The lexicons of lending

The vocabularies of lending as one family, with the names under which their terms are declared: capitalized
words run together. Documents hold such a name in snake case, where a text for people holds the tag. Tags and
names are written down one by one, not derived from each other.
-/

namespace Lending

/-- Capitalized words written in lower case, with underscores between them. -/
def snakeCase (name : String) : String :=
  match name.toList with
  | [] => ""
  | first :: rest =>
    String.ofList (first.toLower :: rest.flatMap fun c => if c.isUpper then ['_', c.toLower] else [c])

inductive Lexicon where
  | partnerType
  | product
  | urgency
  | verdict
  | impact
  | riskLevel
  | scoreSource
deriving DecidableEq

namespace Lexicon

abbrev Term : Lexicon → Type
  | partnerType => PartnerType
  | product => Product
  | urgency => Urgency
  | verdict => Verdict
  | impact => Impact
  | riskLevel => RiskLevel
  | scoreSource => ScoreSource

instance : (lexicon : Lexicon) → Vocabulary lexicon.Term
  | partnerType => inferInstanceAs (Vocabulary PartnerType)
  | product => inferInstanceAs (Vocabulary Product)
  | urgency => inferInstanceAs (Vocabulary Urgency)
  | verdict => inferInstanceAs (Vocabulary Verdict)
  | impact => inferInstanceAs (Vocabulary Impact)
  | riskLevel => inferInstanceAs (Vocabulary RiskLevel)
  | scoreSource => inferInstanceAs (Vocabulary ScoreSource)

/-- The name under which a term is declared. -/
def name : (lexicon : Lexicon) → lexicon.Term → String
  | partnerType, .bank => "Bank"
  | partnerType, .conservativeNbfc => "ConservativeNbfc"
  | partnerType, .flexibleNbfc => "FlexibleNbfc"
  | partnerType, .fintech => "Fintech"
  | partnerType, .marketplace => "Marketplace"
  | product, .invoiceFinancing => "InvoiceFinancing"
  | product, .workingCapital => "WorkingCapital"
  | product, .creditLine => "CreditLine"
  | product, .equipmentFinancing => "EquipmentFinancing"
  | product, .termLoan => "TermLoan"
  | product, .supplyChainFinance => "SupplyChainFinance"
  | urgency, .low => "Low"
  | urgency, .medium => "Medium"
  | urgency, .high => "High"
  | verdict, .approve => "Approve"
  | verdict, .review => "Review"
  | verdict, .decline => "Decline"
  | impact, .positive => "Positive"
  | impact, .negative => "Negative"
  | impact, .neutral => "Neutral"
  | riskLevel, .low => "Low"
  | riskLevel, .medium => "Medium"
  | riskLevel, .high => "High"
  | riskLevel, .veryHigh => "VeryHigh"
  | scoreSource, .model => "MlModel"
  | scoreSource, .rules => "RuleBased"

/-- The tag that documents hold for a term. -/
def documentTag {lexicon : Lexicon} (term : lexicon.Term) : String := snakeCase (lexicon.name term)

end Lexicon
end Lending
