import Lending.Offer.Basic

/-!
# Ranking

The best offer has the highest score; of equal scores the smaller identifier comes first, and offers
that agree in both keep their order.
-/

namespace Lending.Offer

def precedes (a b : Offer) : Bool :=
  decide (b.matchScore.totalKey < a.matchScore.totalKey) ||
    (a.matchScore.totalKey == b.matchScore.totalKey && decide (a.id ≤ b.id))

/-- Gives offers their places, from `place` on. -/
def number (place : Nat) : List Offer → List Offer
  | [] => []
  | offer :: offers => { offer with rank := place } :: number (place + 1) offers

/-- The best offers, best first, with their places. -/
def ranked (offers : List Offer) (limit : Nat) : List Offer :=
  number 1 ((offers.mergeSort precedes).take limit)

end Lending.Offer
