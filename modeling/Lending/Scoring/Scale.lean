import Lending.Vocabulary.Terms

/-!
# Scales

A scale gives points for a figure by its tiers: the first tier whose threshold the figure meets counts,
and a figure that meets none of them stands at the floor. Tiers are listed best first, so the position
of a figure on a scale is 0 at the top and the number of tiers at the floor.
-/

namespace Lending

structure Scale (α : Type) where
  /-- Whether a figure meets a threshold. -/
  meets : α → α → Bool
  tiers : List (α × Nat)
  floor : Nat

namespace Scale

variable {α : Type}

/-- Where a figure stands. -/
def position (s : Scale α) (figure : α) : Nat := s.tiers.findIdx fun tier => s.meets figure tier.1

/-- The position below all tiers. -/
def bottom (s : Scale α) : Nat := s.tiers.length

def pointsAt (s : Scale α) (position : Nat) : Nat := (s.tiers[position]?.map (·.2)).getD s.floor

def points (s : Scale α) (figure : α) : Nat := s.pointsAt (s.position figure)

/-- The points at the top. -/
def weight (s : Scale α) : Nat := s.pointsAt 0

/-- The two best positions speak for an applicant and the bottom against. -/
def impactAt (s : Scale α) (position : Nat) : Option Impact :=
  if position < 2 then some .positive else if position = s.bottom then some .negative else none

end Scale
end Lending
