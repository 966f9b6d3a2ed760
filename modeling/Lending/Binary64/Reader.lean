import Lending.Binary64.Arithmetic
import Lending.Text.Count

/-!
# Reading doubles

Two readings of a decimal numeral. The exact one gives the double nearest to the number written. The
scaled one, used for the numbers of a document, turns the leading digits that fit 64 bits into a double
and scales that by one power of ten at a time, so it may differ from the nearest double in the last
bit.
-/

namespace Lending

/-- Decimal digits with a power of ten: `digits × 10 ^ exponent`. -/
structure Numeral where
  negative : Bool
  digits : Nat
  exponent : Int
deriving DecidableEq

namespace Numeral

def nearest (n : Numeral) : Binary64 :=
  -- Beyond these exponents every numeral of its length is infinite or zero.
  let size := (Nat.toDigits 10 n.digits).length
  if n.digits = 0 then { Binary64.zero with negative := n.negative }
  else if 310 < n.exponent + size then Binary64.infinite n.negative
  else if n.exponent + size < -330 then { Binary64.zero with negative := n.negative }
  else Binary64.ofQuotient n.negative (n.digits * 10 ^ n.exponent.toNat) (10 ^ (-n.exponent).toNat)

end Numeral

namespace Binary64

/-- Scales by ten to the `exponent`, in steps of at most 308 places downwards; nothing if the result is
too large for a double. -/
def scale? (x : Binary64) : (steps : Nat) → (exponent : Int) → Option Binary64
  | 0, _ => some { x with magnitude := 0, magnitude_lt := by decide }
  | steps + 1, exponent =>
    if x.magnitude = 0 then some x
    else if 308 < exponent then none
    else if 0 ≤ exponent then
      let y := x.times (powerOfTen exponent.toNat)
      if y.IsFinite then some y else none
    else if -308 ≤ exponent then some (x.dividedBy (powerOfTen (-exponent).toNat))
    else scale? (x.dividedBy (powerOfTen 308)) steps (exponent + 308)

end Binary64

namespace Numeral

/-- The scaled reading; nothing if the number is too large for a double. -/
def scaled? (n : Numeral) : Option Binary64 :=
  Binary64.scale? { Binary64.ofNat n.digits with negative := n.negative } 4 n.exponent

end Numeral

namespace Binary64

/-- Splits leading digits off a text. -/
def spanDigits (text : List Char) : List Char × List Char :=
  text.span fun c => (Text.digit? c).isSome

def digitsValue (digits : List Char) : Nat :=
  digits.foldl (fun value c => value * 10 + (Text.digit? c).getD 0) 0

/-- Appends digits to a natural as long as 64 bits hold it, and says which digits are left. -/
def appendDigits : (value : Nat) → List Char → Nat × List Char
  | value, [] => (value, [])
  | value, c :: rest =>
    let longer := value * 10 + (Text.digit? c).getD 0
    if longer < 2 ^ 64 then appendDigits longer rest else (value, c :: rest)

/-- The numeral of a whole part and a fraction cut to 64 bits. What is left of the whole part counts in
the exponent, and the fraction is appended to what was taken of it. -/
def cutNumeral (negative : Bool) (whole fraction : List Char) (exponent : Int) : Numeral :=
  let (digits, above) := appendDigits 0 whole
  let (digits, below) := appendDigits digits fraction
  ⟨negative, digits, exponent + above.length - (fraction.length - below.length : Nat)⟩

/-- A signed exponent behind its mark; a huge one is cut, as its size no longer matters. -/
def exponent? : List Char → Option Int
  | '-' :: digits => (magnitude? digits).map fun n => -(n : Int)
  | '+' :: digits => (magnitude? digits).map fun n => (n : Int)
  | digits => (magnitude? digits).map fun n => (n : Int)
where
  magnitude? (digits : List Char) : Option Nat :=
    if digits.isEmpty || digits.any (fun c => (Text.digit? c).isNone) then none
    else some (min (digitsValue digits) 100000)

/-- Reads an unsigned numeral: digits, a point and an exponent, with a digit on one side of the point. -/
def unsigned? (negative : Bool) (text : List Char) : Option Numeral :=
  let (whole, rest) := spanDigits text
  let (fraction, rest) : List Char × List Char := match rest with
    | '.' :: rest => spanDigits rest
    | rest => ([], rest)
  if whole.isEmpty && fraction.isEmpty then none
  else
    let digits := digitsValue (whole ++ fraction)
    match rest with
    | [] => some ⟨negative, digits, -(fraction.length : Int)⟩
    | mark :: rest =>
      if mark = 'e' ∨ mark = 'E' then
        (exponent? rest).map fun e => ⟨negative, digits, e - fraction.length⟩
      else none

/-- The words for the doubles that no numeral writes, lower case. -/
def special? (negative : Bool) (word : List Char) : Option Binary64 :=
  if word = "inf".toList ∨ word = "infinity".toList then some (infinite negative)
  else if word = "nan".toList then some { nan with negative := negative }
  else none

/-- Reads a double exactly, from a numeral or from a word for infinity or not-a-number in any case. -/
def ofText? (text : String) : Option Binary64 :=
  let (negative, body) : Bool × List Char := match text.toList with
    | '-' :: rest => (true, rest)
    | '+' :: rest => (false, rest)
    | rest => (false, rest)
  match special? negative (body.map Char.toLower) with
  | some x => some x
  | none => (unsigned? negative body).map Numeral.nearest

end Binary64
end Lending
