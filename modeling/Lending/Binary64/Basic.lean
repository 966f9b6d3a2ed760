import Lending.Rounding

/-!
# Double-precision numbers

A double is the sign and the magnitude of its IEEE 754 binary64 interchange form: the magnitude holds
the exponent field above the 52 fraction bits, so magnitudes of finite numbers and infinities are
ordered as the numbers are, and what lies above the infinite magnitude is not a number. Comparison is
therefore integer comparison, and a finite double is an exact quotient of naturals.
-/

namespace Lending

/-- A double in its interchange form. -/
structure Binary64 where
  negative : Bool
  magnitude : Nat
  magnitude_lt : magnitude < 2 ^ 63
deriving DecidableEq

namespace Binary64

/-- The magnitude of the infinities: exponent field full, fraction empty. -/
def infiniteMagnitude : Nat := 2047 * 2 ^ 52

def zero : Binary64 := ⟨false, 0, by decide⟩

instance : Inhabited Binary64 := ⟨zero⟩

def infinite (negative : Bool) : Binary64 := ⟨negative, infiniteMagnitude, by decide⟩

def nan : Binary64 := ⟨false, 4095 * 2 ^ 51, by decide⟩

def IsNaN (x : Binary64) : Prop := infiniteMagnitude < x.magnitude

instance (x : Binary64) : Decidable x.IsNaN := inferInstanceAs (Decidable (_ < _))

def IsFinite (x : Binary64) : Prop := x.magnitude < infiniteMagnitude

instance (x : Binary64) : Decidable x.IsFinite := inferInstanceAs (Decidable (_ < _))

theorem IsFinite.not_isNaN {x : Binary64} (h : x.IsFinite) : ¬ x.IsNaN := Nat.lt_asymm h

def negate (x : Binary64) : Binary64 := { x with negative := !x.negative }

/-! ### Order -/

/-- The magnitude under its sign; the two zeros are one. -/
def signed (x : Binary64) : Int := if x.negative then -(x.magnitude : Int) else x.magnitude

/-- Numeric order; what is not a number is not comparable to anything. -/
instance : LE Binary64 := ⟨fun x y => ¬ x.IsNaN ∧ ¬ y.IsNaN ∧ x.signed ≤ y.signed⟩

instance : LT Binary64 := ⟨fun x y => ¬ x.IsNaN ∧ ¬ y.IsNaN ∧ x.signed < y.signed⟩

instance (x y : Binary64) : Decidable (x ≤ y) :=
  inferInstanceAs (Decidable (¬ x.IsNaN ∧ ¬ y.IsNaN ∧ x.signed ≤ y.signed))

instance (x y : Binary64) : Decidable (x < y) :=
  inferInstanceAs (Decidable (¬ x.IsNaN ∧ ¬ y.IsNaN ∧ x.signed < y.signed))

theorem le_def {x y : Binary64} : x ≤ y ↔ ¬ x.IsNaN ∧ ¬ y.IsNaN ∧ x.signed ≤ y.signed := Iff.rfl

theorem lt_def {x y : Binary64} : x < y ↔ ¬ x.IsNaN ∧ ¬ y.IsNaN ∧ x.signed < y.signed := Iff.rfl

theorem le_trans {x y z : Binary64} (hxy : x ≤ y) (hyz : y ≤ z) : x ≤ z :=
  ⟨hxy.1, hyz.2.1, Int.le_trans hxy.2.2 hyz.2.2⟩

theorem lt_of_le_of_lt {x y z : Binary64} (hxy : x ≤ y) (hyz : y < z) : x < z :=
  ⟨hxy.1, hyz.2.1, Int.lt_of_le_of_lt hxy.2.2 hyz.2.2⟩

theorem not_lt_of_le {x y : Binary64} (h : x ≤ y) : ¬ y < x :=
  fun hlt => absurd hlt.2.2 (Int.not_lt.2 h.2.2)

theorem le_of_not_lt {x y : Binary64} (hx : ¬ x.IsNaN) (hy : ¬ y.IsNaN) (h : ¬ y < x) : x ≤ y :=
  ⟨hx, hy, Int.not_lt.1 fun hlt => h ⟨hy, hx, hlt⟩⟩

/-- The place of a double in the total order: sign first, negative zero below zero, and what is not a
number at the two ends. -/
def totalKey (x : Binary64) : Int :=
  if x.negative then -(x.magnitude : Int) - 1 else x.magnitude

theorem totalKey_injective {x y : Binary64} (h : x.totalKey = y.totalKey) : x = y := by
  obtain ⟨nx, mx, hx⟩ := x
  obtain ⟨ny, my, hy⟩ := y
  cases nx <;> cases ny <;> simp [totalKey] at h ⊢ <;> omega

/-! ### Exact value -/

/-- The integer significand of a finite double, hidden bit included. -/
def significand (x : Binary64) : Nat :=
  if x.magnitude < 2 ^ 52 then x.magnitude else x.magnitude % 2 ^ 52 + 2 ^ 52

/-- By how many binary places the significand is shifted up from the smallest double. -/
def shift (x : Binary64) : Nat := x.magnitude / 2 ^ 52 - 1

/-- How far the smallest positive double stands below one, in binary places. -/
def unitPlaces : Nat := 1074

/-- The absolute value of a finite double is `numerator / denominator`. -/
def numerator (x : Binary64) : Nat := x.significand * 2 ^ (x.shift - unitPlaces)

def denominator (x : Binary64) : Nat := 2 ^ (unitPlaces - x.shift)

/-- How far `num / den` is shifted up from the smallest double so that its significand has 53 bits. -/
def shiftOf (num den : Nat) : Nat :=
  let top := if den * 2 ^ num.log2 ≤ num * 2 ^ den.log2 then 1022 else 1021
  if num = 0 then 0 else num.log2 + top - den.log2

/-- The double nearest to `num / den` under the given sign, a half going to the even significand and
what is too large to the infinity. -/
def ofQuotient (negative : Bool) (num den : Nat) : Binary64 where
  negative := negative
  magnitude :=
    let shift := shiftOf num den
    min (shift * 2 ^ 52 + roundHalfEven (num * 2 ^ unitPlaces) (den * 2 ^ shift)) infiniteMagnitude
  magnitude_lt := Nat.lt_of_le_of_lt (Nat.min_le_right _ _) (by decide)

def ofNat (n : Nat) : Binary64 := ofQuotient false n 1

end Binary64
end Lending
