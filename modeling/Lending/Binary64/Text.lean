import Lending.Binary64.Basic
import Lending.Decimal.Basic

/-!
# Doubles as decimal text

A finite double is shown by the fewest decimal digits that read back to it. The reals that round to a
double form an interval around it, with its ends if the significand is even. For one digit, two digits
and so on, the two neighbours of the double on the grid of that many digits are tested against the
interval; the first grid with a hit gives the digits, the nearer neighbour winning and the upper one at
a tie.
-/

namespace Lending.Binary64

/-- The number `digits / 10 ^ size × 10 ^ point`, with as many digits as `size` says. -/
structure Digits where
  digits : Nat
  size : Nat
  point : Int

/-- Where the decimal point stands: `num / den` is below `10 ^ point` and at least a tenth of it. -/
def pointOf (num den : Nat) : Int :=
  if den ≤ num then (Nat.toDigits 10 (num / den)).length
  else
    let places := (Nat.toDigits 10 (den / num)).length
    if den ≤ num * 10 ^ (places - 1) then 2 - (places : Int) else 1 - (places : Int)

/-- Whether `num / den` rounds to the positive finite double `x`. -/
def roundsTo (x : Binary64) (num den : Nat) : Bool :=
  let sig := x.significand
  let even := sig % 2 == 0
  -- In quarter units of the last place, the interval is `4 * sig ± 2`, one unit below for a power of two.
  let low := if x.magnitude % 2 ^ 52 = 0 ∧ 0 < x.shift then 4 * sig - 1 else 4 * sig - 2
  let high := 4 * sig + 2
  let value := 4 * num * 2 ^ unitPlaces
  let unit := den * 2 ^ x.shift
  (low * unit < value ∧ value < high * unit) ∨ (even ∧ (low * unit = value ∨ value = high * unit))

/-- The neighbour of `num / den` on the grid of `size` digits that rounds to `x`, the nearer of two. -/
def candidate? (x : Binary64) (num den : Nat) (point : Int) (size : Nat) : Option Digits :=
  -- The grid's unit is `up / down`.
  let up := 10 ^ (point - size).toNat
  let down := 10 ^ (size - point).toNat
  let below := num * down / (den * up)
  let hit (digits : Nat) : Bool := roundsTo x (digits * up) down
  let nearerAbove : Bool :=
    (2 * below + 1) * (den * up) ≤ 2 * (num * down)
  let take (digits : Nat) : Option Digits :=
    if digits = 10 ^ size then some ⟨1, 1, point + 1⟩ else some ⟨digits, size, point⟩
  match hit below, hit (below + 1) with
  | true, true => take (if nearerAbove then below + 1 else below)
  | true, false => take below
  | false, true => take (below + 1)
  | false, false => none

/-- The shortest digits of a positive finite double; seventeen always suffice. -/
def shortest (x : Binary64) : Digits :=
  let num := x.numerator
  let den := x.denominator
  let point := pointOf num den
  ((List.range 17).findSome? fun n => candidate? x num den point (n + 1)).getD ⟨0, 1, 1⟩

/-- Positional text of digits: zeros fill up to the point on either side. -/
def Digits.positional (d : Digits) : List Char :=
  let digits := Nat.toDigits 10 d.digits
  if d.point ≤ 0 then '0' :: '.' :: (List.replicate (-d.point).toNat '0' ++ digits)
  else if (digits.length : Int) ≤ d.point then
    digits ++ List.replicate (d.point.toNat - digits.length) '0'
  else digits.take d.point.toNat ++ '.' :: digits.drop d.point.toNat

def sign (x : Binary64) : List Char := if x.negative then ['-'] else []

/-- The plain text of a double: the shortest digits, never with an exponent. -/
def text (x : Binary64) : String :=
  if x.IsNaN then "NaN"
  else if ¬ x.IsFinite then if x.negative then "-inf" else "inf"
  else if x.magnitude = 0 then if x.negative then "-0" else "0"
  else String.ofList (x.sign ++ x.shortest.positional)

/-- The text of a double as a number of a document: a fraction is always shown, and an exponent stands
for the zeros of a number that has none of its digits between the fifth place behind the point and the
sixteenth before it. -/
def numeral (x : Binary64) : String :=
  if x.magnitude = 0 then if x.negative then "-0.0" else "0.0"
  else
    let d := x.shortest
    let digits := Nat.toDigits 10 d.digits
    if -5 < d.point ∧ d.point ≤ 16 then
      let plain := d.positional
      String.ofList (x.sign ++ if plain.contains '.' then plain else plain ++ ['.', '0'])
    else
      let fraction := if digits.length = 1 then [] else '.' :: digits.drop 1
      let exponent := (toString (d.point - 1)).toList
      String.ofList (x.sign ++ digits.take 1 ++ fraction ++ 'e' :: exponent)

/-- Text with one decimal, the exact value rounded half to even. -/
def oneDecimal (x : Binary64) : String :=
  if x.IsFinite then
    String.ofList (x.sign ++ Decimal.positional (roundHalfEven (x.numerator * 10) x.denominator) 1)
  else x.text

end Lending.Binary64
