import Lending.Binary64.Arithmetic
import Lending.Decimal.Basic

/-!
# Decimals and doubles

A whole decimal becomes the nearest double. One with places is converted in two parts: the double of its
whole part and that of its fraction are added, and the sum is rounded in double arithmetic to the places
that the decimal has, so the result may differ from the nearest double in its last bits.

The other way, a double is its significand under a power of two. A negative power is a number of
halvings: an even natural is halved, an odd one multiplied by five for one more decimal place, as long as
that fits a decimal; the places that a double cannot vouch for are then rounded away, one at a time. A
positive power is a number of doublings: the significand is doubled as long as that fits a decimal, then
divided by five for one more factor of ten.
-/

namespace Lending.Decimal

/-- The magnitude of `mantissa / 10 ^ scale`, which has places. -/
def placedBinary64 (mantissa scale : Nat) : Binary64 :=
  let unit := Binary64.powerOfTen scale
  let whole := Binary64.ofNat (mantissa / 10 ^ scale)
  let fraction := (Binary64.ofNat (mantissa % 10 ^ scale)).dividedBy unit
  if fraction = .zero then whole else (((whole.plus fraction).times unit).rounded).dividedBy unit

/-- The double of a decimal. Only a zero with places keeps its sign. -/
def toBinary64 (d : Decimal) : Binary64 :=
  if d.scale = 0 then .ofQuotient (d.negative && !d.isZero) d.mantissa 1
  else { placedBinary64 d.mantissa d.scale with negative := d.negative }

/-- The decimal `mantissa / 10 ^ places` of a natural that is to be halved a number of times. -/
def expand : (halvings mantissa places : Nat) → Nat × Nat
  | 0, mantissa, places => (mantissa, places)
  | halvings + 1, mantissa, places =>
    if mantissa % 2 = 1 ∧ mantissa * 5 < 2 ^ 96 then expand halvings (mantissa * 5) (places + 1)
    else expand halvings (mantissa / 2) places

/-- The decimal `mantissa * 10 ^ tens` of a natural that is to be doubled a number of times. -/
def enlarge : (doublings mantissa tens : Nat) → Nat × Nat
  | 0, mantissa, tens => (mantissa, tens)
  | doublings + 1, mantissa, tens =>
    if mantissa * 2 < 2 ^ 96 then enlarge doublings (mantissa * 2) tens
    else enlarge doublings (mantissa / 5) (tens + 1)

/-- Drops the last place of a mantissa, a half going up. -/
def dropPlace (mantissa : Nat) : Nat := roundHalfUp mantissa 10

/-- Drops places until at most 28 are left; what has no digit left before the rounding is zero. -/
def fitPlaces : (mantissa places : Nat) → Nat × Nat
  | mantissa, 0 => (mantissa, 0)
  | mantissa, places + 1 =>
    if places + 1 ≤ 28 then (mantissa, places + 1)
    else if mantissa / 10 = 0 then (0, 0)
    else fitPlaces (dropPlace mantissa) places

/-- Drops places until 52 bits are enough for the mantissa or no place is left. -/
def fitBits : (mantissa places : Nat) → Nat × Nat
  | mantissa, 0 => (mantissa, 0)
  | mantissa, places + 1 =>
    if mantissa < 2 ^ 52 then (mantissa, places + 1) else fitBits (dropPlace mantissa) places

/-- The decimal of a double that is finite and not too large for one. -/
def ofBinary64? (x : Binary64) : Option Decimal :=
  if x.IsFinite then
    let (mantissa, tens) := enlarge (x.shift - Binary64.unitPlaces) x.significand 0
    let (mantissa, places) := expand (Binary64.unitPlaces - x.shift) (mantissa * 10 ^ tens) 0
    let (mantissa, places) := fitPlaces mantissa places
    let (mantissa, places) := fitBits mantissa places
    (ofParts? x.negative mantissa places).map normalize
  else none

end Lending.Decimal
