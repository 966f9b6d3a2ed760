import Lending.Document.Term
import Lending.Scoring.Scorer

/-!
# Features, adjustments and predictions in documents
-/

namespace Lending

open Document

def Features.fieldNames : List String :=
  ["years_in_business", "annual_revenue", "credit_score", "requested_amount", "amount_to_revenue",
   "purpose", "urgency", "defaulted_fields"]

def Features.document (f : Features) : Document :=
  .table
    [("years_in_business", .real f.years), ("annual_revenue", .amount f.revenue),
     ("credit_score", .natural f.credit), ("requested_amount", .amount f.amount),
     ("amount_to_revenue", .ofOption Document.decimal f.ratio?), ("purpose", .ofText? f.purpose),
     ("urgency", .ofOption Document.term f.urgency), ("defaulted_fields", .natural f.defaultedFields)]

def Features.ofDocument? (document : Document) : Option Features := do
  let fields ← record? fieldNames document
  return {
    years := ← fields.required "years_in_business" double?
    revenue := ← fields.required "annual_revenue" amount?
    credit := ← fields.required "credit_score" word16?
    amount := ← fields.required "requested_amount" amount?
    ratio? := ← fields.optional "amount_to_revenue" decimal?
    purpose := ← fields.optional "purpose" text?
    urgency := ← fields.optional "urgency" term?
    defaultedFields := ← fields.required "defaulted_fields" byte? }

def Condition.document : Condition → Document
  | minYears years => tagged "min_years" (.real years)
  | belowYears years => tagged "below_years" (.real years)
  | minRevenue units => tagged "min_revenue" (.natural units)
  | minCredit score => tagged "min_credit_score" (.natural score)
where
  tagged (tag : String) (value : Document) : Document :=
    .table [("when", .text tag), ("value", value)]

def Condition.ofDocument? (document : Document) : Option Condition := do
  let fields ← record? ["when", "value"] document
  match ← fields.required "when" text? with
  | "min_years" => (fields.required "value" double?).map minYears
  | "below_years" => (fields.required "value" double?).map belowYears
  | "min_revenue" => (fields.required "value" word64?).map minRevenue
  | "min_credit_score" => (fields.required "value" word16?).map minCredit
  | _ => none

def Adjustment.document (a : Adjustment) : Document :=
  .table [("condition", a.condition.document), ("delta", .integer a.delta.toInt)]

/-- Reads an adjustment from a list of its condition and its points. -/
def Adjustment.ofDocument? : Document → Option Adjustment
  | .list [condition, delta] => do
    return ⟨← Condition.ofDocument? condition, .ofInt (← int16? delta)⟩
  | _ => none

/-- Reads the adjustments of partner types; of rows for one type the last counts. -/
def Adjustments.ofDocument? (document : Document) : Option Adjustments := do
  let rows ← list? row? document
  return rows.foldl (fun table (type, rules) => table.withRules type rules) .empty
where
  row? : Document → Option (PartnerType × List Adjustment)
    | .list [type, rules] => do return (← term? type, ← list? Adjustment.ofDocument? rules)
    | _ => none

def Prediction.ofDocument? (document : Document) : Option Prediction := do
  let fields ← record? ["score", "confidence"] document
  return ⟨← fields.required "score" byte?, ← fields.required "confidence" byte?⟩

def ModelFault.ofDocument? (document : Document) : Option ModelFault := do
  let fields ← table? document
  let reason ← fields.required "message" text?
  match ← fields.required "kind" text? with
  | "Unavailable" => return unavailable reason
  | "InvalidOutput" => return invalidOutput reason
  | _ => none

def PartnerSummary.document (s : PartnerSummary) : Document :=
  .table [("partner_id", .text s.id), ("partner_type", .term s.type)]

def PartnerSummary.ofDocument? (document : Document) : Option PartnerSummary := do
  let fields ← record? ["partner_id", "partner_type"] document
  return ⟨← fields.required "partner_id" text?, ← fields.required "partner_type" term?⟩

end Lending
