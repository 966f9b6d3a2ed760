import Lending.Decimal.Arithmetic
import Lending.Fault

/-!
# Amounts of money

An amount is a decimal that is not negative, in normal form. One number therefore is one amount, with
one text, and equality of amounts is numeric equality.
-/

namespace Lending

structure Amount where
  value : Decimal
  not_negative : value.negative = false
  normal : value.Normal
deriving DecidableEq

namespace Amount

theorem ext_value {a b : Amount} (h : a.value = b.value) : a = b := by
  cases a; cases b; simp_all

def zero : Amount := ⟨Decimal.zero, rfl, by decide⟩

instance : Inhabited Amount := ⟨zero⟩

instance : LE Amount := ⟨fun a b => a.value ≤ b.value⟩

instance : LT Amount := ⟨fun a b => a.value < b.value⟩

instance (a b : Amount) : Decidable (a ≤ b) := inferInstanceAs (Decidable (a.value ≤ b.value))

instance (a b : Amount) : Decidable (a < b) := inferInstanceAs (Decidable (a.value < b.value))

instance : Min Amount := ⟨fun a b => if b < a then b else a⟩

instance : Max Amount := ⟨fun a b => if b < a then a else b⟩

/-- The amount of a decimal, if that is not negative; a negative zero is zero. -/
def ofDecimal? (d : Decimal) : Option Amount :=
  if h : d.normalize.negative = false then some ⟨d.normalize, h, Decimal.normalize_normal d⟩
  else none

def ofDecimal (d : Decimal) : Except DomainFault Amount :=
  match ofDecimal? d with
  | some amount => .ok amount
  | none => .error (.amount (d.text ++ " cannot be negative"))

/-- An amount of whole units. -/
def ofNat (n : Nat) : Amount := (ofDecimal? (Decimal.ofNat n)).getD zero

def isZero (a : Amount) : Bool := a.value.isZero

/-- How many times `b` goes into `a`; nothing if `b` is zero or the quotient is too large. -/
def ratio? (a b : Amount) : Option Decimal := (Decimal.div? a.value b.value).map Decimal.normalize

def text (a : Amount) : String := a.value.text

theorem isZero_iff {a : Amount} : a.isZero = true ↔ a = zero := by
  constructor
  · intro h
    have hm : a.value.mantissa = 0 := by simpa [isZero, Decimal.isZero] using h
    have hs : a.value.scale = 0 := by
      rcases a.normal.1 with hs | hs
      · exact hs
      · rw [hm] at hs; exact absurd rfl hs
    exact ext_value (Decimal.ext_fields a.not_negative hm hs)
  · rintro rfl; rfl

end Amount
end Lending
