import Lending.Decimal.Basic
import Lending.Rounding
import Lending.Text.Count

/-!
# Reading decimals

A decimal is written in digits with at most one point, and underscores after the first digit. The
number of digits behind the point becomes the scale. A fraction that is longer than a decimal can hold
is cut there and rounded half up by its next digit; the digits behind that one do not count. A second
form appends a power of ten.
-/

namespace Lending.Decimal

/-- Ends a fraction that is full before `rest`, which holds digits and underscores only: its first digit
decides the rounding. Where the rounded mantissa no longer fits, one more digit is dropped. -/
def cutAt? (negative : Bool) (mantissa scale : Nat) (rest : List Char) : Option Decimal :=
  ((rest.filter (· != '_')).mapM Text.digit?).bind fun digits =>
    if digits.headD 0 < 5 then ofParts? negative mantissa scale
    else if mantissa + 1 < 2 ^ 96 then ofParts? negative (mantissa + 1) scale
    else if scale = 0 then none
    else ofParts? negative (roundHalfUp mantissa 10) (scale - 1)

/-- Reads on behind `mantissa`, of which `scale` digits stand behind the point. -/
def scan? (negative : Bool) :
    List Char → (mantissa scale : Nat) → (pointSeen digitSeen : Bool) → Option Decimal
  | [], mantissa, scale, _, digitSeen =>
    if digitSeen then ofParts? negative mantissa scale else none
  | c :: rest, mantissa, scale, pointSeen, digitSeen =>
    if pointSeen && 28 ≤ scale then cutAt? negative mantissa scale (c :: rest)
    else
      match Text.digit? c with
      | some digit =>
        if mantissa * 10 + digit < 2 ^ 96 then
          scan? negative rest (mantissa * 10 + digit) (if pointSeen then scale + 1 else 0)
            pointSeen true
        else if pointSeen then cutAt? negative mantissa scale (c :: rest)
        else none
      | none =>
        if c = '.' ∧ pointSeen = false then scan? negative rest mantissa scale true digitSeen
        else if c = '_' ∧ digitSeen = true then
          scan? negative rest mantissa scale pointSeen digitSeen
        else none

def ofPositional? : List Char → Option Decimal
  | '-' :: rest => scan? true rest 0 0 false false
  | '+' :: rest => scan? false rest 0 0 false false
  | rest => scan? false rest 0 0 false false

/-- Multiplies by ten to the `exponent`: a scale is lowered before the mantissa grows. -/
def raise? (exponent : Nat) (d : Decimal) : Option Decimal :=
  if exponent ≤ d.scale then ofParts? d.negative d.mantissa (d.scale - exponent)
  else if exponent ≤ 28 then ofParts? d.negative (d.mantissa * 10 ^ (exponent - d.scale)) 0
  else none

/-- Divides by ten to the `exponent`, all of it in the scale. Places beyond the last that a decimal has
are rounded away half up; the sign stays, also with nothing left. -/
def lower? (exponent : Nat) (d : Decimal) : Option Decimal :=
  if 28 < exponent then none
  else some { d with
    mantissa := roundHalfUp d.mantissa (10 ^ (d.scale + exponent - 28))
    scale := min (d.scale + exponent) 28
    mantissa_lt := Nat.lt_of_le_of_lt (roundHalfUp_le _ (Nat.pow_pos (by decide))) d.mantissa_lt
    scale_le := Nat.min_le_right _ _ }

/-- Reads a decimal followed by `e` and a power of ten. -/
def ofScientific? (text : List Char) : Option Decimal :=
  let isMark (c : Char) : Bool := c == 'e' || c == 'E'
  match text.dropWhile (fun c => !isMark c) with
  | [] => none
  | _ :: exponent =>
    (ofPositional? (text.takeWhile fun c => !isMark c)).bind fun base =>
      match exponent with
      | '-' :: digits => (Text.count? (2 ^ 32 - 1) digits).bind fun n => lower? n base
      | digits => (Text.count? (2 ^ 32 - 1) digits).bind fun n => raise? n base

def ofText? (text : String) : Option Decimal :=
  (ofPositional? text.toList).or (ofScientific? text.toList)

/-- An integer as a decimal, if it fits. -/
def ofInt? (n : Int) : Option Decimal := ofParts? (decide (n < 0)) n.natAbs 0

end Lending.Decimal
