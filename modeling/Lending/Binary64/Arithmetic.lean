import Lending.Binary64.Basic

/-!
# Arithmetic on doubles

Every operation is exact on the quotients that two finite doubles are, and then takes the nearest
double. Signs are left to the caller: the operations are on magnitudes, and the first operand gives the
sign of the result.
-/

namespace Lending.Binary64

/-- The sum of two magnitudes. -/
def plus (x y : Binary64) : Binary64 :=
  ofQuotient x.negative (x.numerator * y.denominator + y.numerator * x.denominator)
    (x.denominator * y.denominator)

/-- The product of two magnitudes. -/
def times (x y : Binary64) : Binary64 :=
  ofQuotient x.negative (x.numerator * y.numerator) (x.denominator * y.denominator)

/-- The quotient of two magnitudes, the second of them positive. -/
def dividedBy (x y : Binary64) : Binary64 :=
  ofQuotient x.negative (x.numerator * y.denominator) (x.denominator * y.numerator)

/-- The whole number nearest to a magnitude, a half going up. -/
def rounded (x : Binary64) : Binary64 :=
  ofQuotient x.negative (roundHalfUp x.numerator x.denominator) 1

/-- The double nearest to ten to the `n`. -/
def powerOfTen (n : Nat) : Binary64 := ofNat (10 ^ n)

end Lending.Binary64
