import Lending.Application.Basic
import Lending.Binary64.Text
import Lending.Scoring.Scale

/-!
# The rules of scoring

Four features of an application are scored, each on a scale of its own. Their points add up to the
overall score, and the features at the ends of their scales explain it.
-/

namespace Lending

/-- What is scored of an application, defaults in the place of missing figures. -/
structure Features where
  years : Binary64
  revenue : Amount
  credit : Nat
  amount : Amount
  /-- The requested amount over the revenue; none without revenue, or where it is too large. -/
  ratio? : Option Decimal
  purpose : Option String
  urgency : Option Urgency
  defaultedFields : Nat
deriving DecidableEq

/-- A figure scored on one scale. -/
structure Dimension where
  name : String
  points : Nat
  weight : Nat
  impact? : Option Impact
  description : String

/-- A reason for a decision, with its weight in percent. -/
structure Factor where
  name : String
  impact : Impact
  weight : Nat
  description : String
deriving DecidableEq

def Factor.make (name : String) (impact : Impact) (weight : Nat) (description : String) : Factor :=
  ⟨name, impact, min weight 100, description⟩

def Dimension.factor? (d : Dimension) : Option Factor :=
  d.impact?.map fun impact => .make d.name impact d.weight d.description

namespace Scoring

def ageScale : Scale Binary64 where
  meets figure threshold := threshold ≤ figure
  tiers := [(.ofNat 5, 25), (.ofNat 3, 20), (.ofNat 2, 15), (.ofNat 1, 10)]
  floor := 5

def revenueScale : Scale Amount where
  meets figure threshold := threshold ≤ figure
  tiers :=
    [(.ofNat 50000000, 30), (.ofNat 20000000, 25), (.ofNat 10000000, 20), (.ofNat 5000000, 15),
     (.ofNat 1000000, 10)]
  floor := 5

def creditScale : Scale Nat where
  meets figure threshold := threshold ≤ figure
  tiers := [(750, 30), (700, 25), (650, 20), (600, 15)]
  floor := 10

/-- The scale of the requested amount over the revenue, where less is better. -/
def ratioScale : Scale Decimal where
  meets figure threshold := figure ≤ threshold
  tiers := [(.tenths 1, 15), (.tenths 2, 12), (.tenths 3, 9), (.tenths 5, 6)]
  floor := 3

/-- A ratio that is not known stands at the bottom. -/
def ratioPosition (ratio? : Option Decimal) : Nat :=
  (ratio?.map ratioScale.position).getD ratioScale.bottom

/-- How the requested amount compares with the revenue, in words. -/
def ratioText (f : Features) : String :=
  match f.ratio?.bind fun ratio => Decimal.mul? ratio (Decimal.ofNat 100) with
  | some percent =>
    "requested amount is " ++ (percent.roundTo 1).text ++ "% of annual revenue"
  | none =>
    if f.revenue.isZero then "no annual revenue reported to size the request against"
    else "requested amount exceeds annual revenue many times over"

/-- A figure at a position of a scale. -/
def dimension {α : Type} (name : String) (scale : Scale α) (position : Nat) (description : String) :
    Dimension :=
  ⟨name, scale.pointsAt position, scale.weight, scale.impactAt position, description⟩

end Scoring

namespace Features

open Scoring

/-- The features of a request by a business. -/
def ofRequest (profile : Profile) (request : Request) : Features where
  years := profile.years
  revenue := profile.revenue
  credit := profile.credit
  amount := request.amount
  ratio? := request.amount.ratio? profile.revenue
  purpose := request.purpose
  urgency := request.urgency
  defaultedFields := profile.defaultedFields

def dimensions (f : Features) : List Dimension :=
  [dimension "business_age" ageScale (ageScale.position f.years)
     (f.years.oneDecimal ++ " years in business"),
   dimension "annual_revenue" revenueScale (revenueScale.position f.revenue)
     ("annual revenue of " ++ f.revenue.text),
   dimension "credit_score" creditScale (creditScale.position f.credit)
     ("credit score of " ++ toString f.credit),
   dimension "amount_to_revenue" ratioScale (ratioPosition f.ratio?) (ratioText f)]

/-- The sum of all points, at most 100. -/
def score (f : Features) : Nat :=
  min (f.dimensions.foldl (fun sum dimension => sum + dimension.points) 0) 100

def factors (f : Features) : List Factor := f.dimensions.filterMap Dimension.factor?

/-- How far a score is to be trusted: less with every default that went into it. -/
def confidence (f : Features) : Nat := max (80 - min (15 * f.defaultedFields) 255) 20

end Features
end Lending
