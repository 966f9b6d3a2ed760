import Lending.Decimal.Basic
import Lending.Rounding

/-!
# Decimal arithmetic

Every operation computes its exact result as a quotient of naturals and then fits it into a decimal:
`fit?` takes the largest number of places at which the mantissa needs no more than 96 bits and rounds
half to even there. An operation fails only if the whole part itself needs more.
-/

namespace Lending.Decimal

/-- `num / den` rounded half to even at the largest of the decimal places `places, …, 1, 0` at which
the mantissa fits. -/
def fit? (negative : Bool) (num den : Nat) : (places : Nat) → places ≤ 28 → Option Decimal
  | 0, hplaces =>
    if h : roundHalfEven num den < 2 ^ 96 then
      some ⟨negative, roundHalfEven num den, 0, h, hplaces⟩
    else none
  | places + 1, hplaces =>
    if h : roundHalfEven (num * 10 ^ (places + 1)) den < 2 ^ 96 then
      some ⟨negative, roundHalfEven (num * 10 ^ (places + 1)) den, places + 1, h, hplaces⟩
    else fit? negative num den places (Nat.le_of_succ_le hplaces)

/-- The product; a zero factor gives the plain zero. -/
def mul? (a b : Decimal) : Option Decimal :=
  if a.isZero || b.isZero then some zero
  else fit? (a.negative != b.negative) (a.mantissa * b.mantissa) (10 ^ (a.scale + b.scale))
    (min (a.scale + b.scale) 28) (Nat.min_le_right _ _)

/-- The quotient; there is none by zero. -/
def div? (a b : Decimal) : Option Decimal :=
  if b.isZero then none
  else if a.isZero then some zero
  else fit? (a.negative != b.negative) (a.mantissa * 10 ^ b.scale) (b.mantissa * 10 ^ a.scale)
    28 (Nat.le_refl _)

/-- The sum at the larger of the two scales. A zero operand gives the other one as it is, and an
exact zero has no sign. -/
def add? (a b : Decimal) : Option Decimal :=
  if a.isZero then some b
  else if b.isZero then some a
  else
    let places := max a.scale b.scale
    let left := a.mantissa * 10 ^ (places - a.scale)
    let right := b.mantissa * 10 ^ (places - b.scale)
    let total : Int := (if a.negative then -(left : Int) else left) +
      (if b.negative then -(right : Int) else right)
    fit? (decide (total < 0)) total.natAbs (10 ^ places)
      places (Nat.max_le.2 ⟨a.scale_le, b.scale_le⟩)

/-- The sum, or the largest decimal of that sign where it does not fit. -/
def addSaturating (a b : Decimal) : Decimal :=
  (add? a b).getD { largest with negative := a.negative }

def negate (d : Decimal) : Decimal := { d with negative := !d.negative }

def sub? (a b : Decimal) : Option Decimal :=
  if a.isZero then some (if b.isZero then b else b.negate) else add? a b.negate

/-- Rounds half to even to at most `places` places; a shorter decimal is kept, and what becomes zero
loses its sign. -/
def roundTo (places : Nat) (d : Decimal) : Decimal :=
  if h : d.scale ≤ places then d
  else
    { negative := d.negative && roundHalfEven d.mantissa (10 ^ (d.scale - places)) != 0
      mantissa := roundHalfEven d.mantissa (10 ^ (d.scale - places))
      scale := places
      mantissa_lt :=
        Nat.lt_of_le_of_lt (roundHalfEven_le _ (Nat.pow_pos (by decide))) d.mantissa_lt
      scale_le := Nat.le_of_lt (Nat.lt_of_lt_of_le (Nat.lt_of_not_le h) d.scale_le) }

end Lending.Decimal
