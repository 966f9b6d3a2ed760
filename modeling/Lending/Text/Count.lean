/-!
# Counts in text

A count is written in ASCII digits, with one plus sign allowed before them. Reading one tells an empty
text, a foreign character and a count above the limit apart; of the last two the one met first from the
left is reported.
-/

namespace Lending.Text

/-- Why a text is not a count. -/
inductive CountFault where
  | empty
  | foreignCharacter
  | aboveLimit
deriving DecidableEq

def digit? (c : Char) : Option Nat :=
  if '0' ≤ c ∧ c ≤ '9' then some (c.toNat - '0'.toNat) else none

/-- Continues a count of which the digits so far make `value`. -/
def readDigits (limit : Nat) : List Char → (value : Nat) → Except CountFault Nat
  | [], value => .ok value
  | c :: rest, value =>
    match digit? c with
    | none => .error .foreignCharacter
    | some d =>
      if value * 10 + d ≤ limit then readDigits limit rest (value * 10 + d) else .error .aboveLimit

/-- The count that a text writes, at most `limit`. -/
def readCount (limit : Nat) (text : List Char) : Except CountFault Nat :=
  match text with
  | [] => .error .empty
  | ['+'] => .error .foreignCharacter
  | '+' :: digits => readDigits limit digits 0
  | digits => readDigits limit digits 0

/-- The count that a text writes, if it writes one. -/
def count? (limit : Nat) (text : List Char) : Option Nat := (readCount limit text).toOption

end Lending.Text
