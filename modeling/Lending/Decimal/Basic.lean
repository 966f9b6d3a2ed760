import Lending.Power

/-!
# Decimal numbers

A decimal is a sign, a 96-bit mantissa and a count of at most 28 decimal places. Decimals with
different scales may be the same number, so there are two comparisons: structural equality, which the
text of a decimal follows, and the numeric order `a ≤ b`, in which `1.50` and `1.5` are equal.
-/

namespace Lending

/-- A decimal number: the mantissa divided by ten to the scale, under a sign that zero has too. -/
structure Decimal where
  negative : Bool
  mantissa : Nat
  scale : Nat
  mantissa_lt : mantissa < 2 ^ 96
  scale_le : scale ≤ 28
deriving DecidableEq

namespace Decimal

theorem ext_fields {a b : Decimal} (hsign : a.negative = b.negative)
    (hmantissa : a.mantissa = b.mantissa) (hscale : a.scale = b.scale) : a = b := by
  cases a; cases b; simp_all

def zero : Decimal := ⟨false, 0, 0, by decide, by decide⟩

instance : Inhabited Decimal := ⟨zero⟩

def largest : Decimal := ⟨false, 2 ^ 96 - 1, 0, by decide, by decide⟩

/-- A natural as a decimal without places; one that needs more than 96 bits becomes the largest. -/
def ofNat (n : Nat) : Decimal :=
  if h : n < 2 ^ 96 then ⟨false, n, 0, h, by decide⟩ else largest

/-- `n / 10`, for the small constants of the rate tables. -/
def tenths (n : Nat) : Decimal :=
  if h : n < 2 ^ 96 then ⟨false, n, 1, h, by decide⟩ else largest

/-- A decimal from its parts, where they fit; zero takes no sign. -/
def ofParts? (negative : Bool) (mantissa scale : Nat) : Option Decimal :=
  if h : mantissa < 2 ^ 96 ∧ scale ≤ 28 then
    some ⟨negative && mantissa != 0, mantissa, scale, h.1, h.2⟩
  else none

def isZero (d : Decimal) : Bool := d.mantissa == 0

/-- The mantissa under its sign. -/
def signed (d : Decimal) : Int := if d.negative then -(d.mantissa : Int) else d.mantissa

/-! ### Numeric order -/

/-- The numerator of `a` when `a` and `b` are brought to one denominator. -/
def scaledTo (a b : Decimal) : Int := a.signed * 10 ^ b.scale

instance : LE Decimal := ⟨fun a b => a.scaledTo b ≤ b.scaledTo a⟩

instance : LT Decimal := ⟨fun a b => a.scaledTo b < b.scaledTo a⟩

instance (a b : Decimal) : Decidable (a ≤ b) :=
  inferInstanceAs (Decidable (a.scaledTo b ≤ b.scaledTo a))

instance (a b : Decimal) : Decidable (a < b) :=
  inferInstanceAs (Decidable (a.scaledTo b < b.scaledTo a))

/-- The two decimals are one number. -/
def Same (a b : Decimal) : Prop := a.scaledTo b = b.scaledTo a

instance (a b : Decimal) : Decidable (Same a b) :=
  inferInstanceAs (Decidable (a.scaledTo b = b.scaledTo a))

theorem le_def {a b : Decimal} : a ≤ b ↔ a.signed * 10 ^ b.scale ≤ b.signed * 10 ^ a.scale := Iff.rfl

theorem lt_def {a b : Decimal} : a < b ↔ a.signed * 10 ^ b.scale < b.signed * 10 ^ a.scale := Iff.rfl

theorem le_refl (a : Decimal) : a ≤ a := Int.le_refl _

theorem le_total (a b : Decimal) : a ≤ b ∨ b ≤ a := Int.le_total _ _

theorem not_lt {a b : Decimal} : ¬ a < b ↔ b ≤ a := Int.not_lt

theorem not_le {a b : Decimal} : ¬ a ≤ b ↔ b < a := Int.not_le

theorem same_iff_le {a b : Decimal} : Same a b ↔ a ≤ b ∧ b ≤ a :=
  ⟨fun h => ⟨Int.le_of_eq h, Int.le_of_eq h.symm⟩, fun h => Int.le_antisymm h.1 h.2⟩

theorem le_trans {a b c : Decimal} (hab : a ≤ b) (hbc : b ≤ c) : a ≤ c := by
  rw [le_def] at *
  have hpow : ∀ n : Nat, (0 : Int) < 10 ^ n := fun n => Int.pow_pos (by decide)
  have h1 := Int.mul_le_mul_of_nonneg_right hab (Int.le_of_lt (hpow c.scale))
  have h2 := Int.mul_le_mul_of_nonneg_right hbc (Int.le_of_lt (hpow a.scale))
  refine Int.le_of_mul_le_mul_right ?_ (hpow b.scale)
  calc a.signed * 10 ^ c.scale * 10 ^ b.scale
      = a.signed * 10 ^ b.scale * 10 ^ c.scale := by rw [Int.mul_assoc, Int.mul_assoc, Int.mul_comm (10 ^ c.scale)]
    _ ≤ b.signed * 10 ^ a.scale * 10 ^ c.scale := h1
    _ = b.signed * 10 ^ c.scale * 10 ^ a.scale := by rw [Int.mul_assoc, Int.mul_assoc, Int.mul_comm (10 ^ a.scale)]
    _ ≤ c.signed * 10 ^ b.scale * 10 ^ a.scale := h2
    _ = c.signed * 10 ^ a.scale * 10 ^ b.scale := by rw [Int.mul_assoc, Int.mul_assoc, Int.mul_comm (10 ^ b.scale)]

/-! ### Normal form -/

/-- Strips factors of ten from a mantissa while places are left; a zero loses them all. -/
def stripZeros : (mantissa scale : Nat) → Nat × Nat
  | mantissa, 0 => (mantissa, 0)
  | mantissa, scale + 1 =>
    if mantissa % 10 = 0 then stripZeros (mantissa / 10) scale else (mantissa, scale + 1)

theorem stripZeros_fst_le (mantissa scale : Nat) : (stripZeros mantissa scale).1 ≤ mantissa := by
  induction scale generalizing mantissa with
  | zero => exact Nat.le_refl _
  | succ scale ih =>
    rw [stripZeros]
    split
    · exact Nat.le_trans (ih _) (Nat.div_le_self _ _)
    · exact Nat.le_refl _

theorem stripZeros_snd_le (mantissa scale : Nat) : (stripZeros mantissa scale).2 ≤ scale := by
  induction scale generalizing mantissa with
  | zero => exact Nat.le_refl _
  | succ scale ih =>
    rw [stripZeros]
    split
    · exact Nat.le_succ_of_le (ih _)
    · exact Nat.le_refl _

theorem stripZeros_canonical (mantissa scale : Nat) :
    (stripZeros mantissa scale).2 = 0 ∨ (stripZeros mantissa scale).1 % 10 ≠ 0 := by
  induction scale generalizing mantissa with
  | zero => exact Or.inl rfl
  | succ scale ih =>
    rw [stripZeros]
    split
    · exact ih _
    · exact Or.inr ‹_›

theorem stripZeros_value (mantissa scale : Nat) :
    (stripZeros mantissa scale).1 * 10 ^ scale = mantissa * 10 ^ (stripZeros mantissa scale).2 := by
  induction scale generalizing mantissa with
  | zero => rfl
  | succ scale ih =>
    rw [stripZeros]
    split
    · rename_i h
      have hm : mantissa / 10 * 10 = mantissa := Nat.div_mul_cancel (Nat.dvd_of_mod_eq_zero h)
      calc (stripZeros (mantissa / 10) scale).1 * 10 ^ (scale + 1)
          = (stripZeros (mantissa / 10) scale).1 * 10 ^ scale * 10 := by rw [Nat.pow_succ, Nat.mul_assoc]
        _ = mantissa / 10 * 10 ^ (stripZeros (mantissa / 10) scale).2 * 10 := by rw [ih]
        _ = mantissa / 10 * 10 * 10 ^ (stripZeros (mantissa / 10) scale).2 := by
            rw [Nat.mul_assoc, Nat.mul_comm (10 ^ _) 10, ← Nat.mul_assoc]
        _ = mantissa * 10 ^ (stripZeros (mantissa / 10) scale).2 := by rw [hm]
    · rfl

/-- Neither trailing fraction zeros nor a negative zero. -/
def Normal (d : Decimal) : Prop :=
  (d.scale = 0 ∨ d.mantissa % 10 ≠ 0) ∧ (d.mantissa = 0 → d.negative = false)

instance (d : Decimal) : Decidable d.Normal := inferInstanceAs (Decidable (_ ∧ _))

/-- The same number without trailing fraction zeros; every zero becomes the plain one. -/
def normalize (d : Decimal) : Decimal where
  negative := d.negative && d.mantissa != 0
  mantissa := (stripZeros d.mantissa d.scale).1
  scale := (stripZeros d.mantissa d.scale).2
  mantissa_lt := Nat.lt_of_le_of_lt (stripZeros_fst_le _ _) d.mantissa_lt
  scale_le := Nat.le_trans (stripZeros_snd_le _ _) d.scale_le

theorem stripZeros_fst_eq_zero {mantissa scale : Nat} :
    (stripZeros mantissa scale).1 = 0 ↔ mantissa = 0 := by
  have hvalue := stripZeros_value mantissa scale
  have hpow : ∀ n : Nat, 0 < 10 ^ n := fun n => Nat.pow_pos (by decide)
  constructor
  · intro h
    rw [h, Nat.zero_mul] at hvalue
    exact (Nat.mul_eq_zero.1 hvalue.symm).resolve_right (Nat.ne_of_gt (hpow _))
  · intro h
    exact Nat.le_zero.1 (h ▸ stripZeros_fst_le mantissa scale)

theorem normalize_normal (d : Decimal) : d.normalize.Normal := by
  refine ⟨stripZeros_canonical _ _, fun h => ?_⟩
  have : d.mantissa = 0 := stripZeros_fst_eq_zero.1 h
  simp [normalize, this]

theorem normalize_same (d : Decimal) : Same d.normalize d := by
  have hvalue := stripZeros_value d.mantissa d.scale
  have hcast : ((stripZeros d.mantissa d.scale).1 : Int) * 10 ^ d.scale =
      d.mantissa * 10 ^ (stripZeros d.mantissa d.scale).2 := by exact_mod_cast hvalue
  by_cases hz : d.mantissa = 0
  · have h0 : (stripZeros 0 d.scale).1 = 0 := stripZeros_fst_eq_zero.2 rfl
    simp [Same, scaledTo, signed, normalize, h0, hz]
  · have hsign : (d.negative && d.mantissa != 0) = d.negative := by simp [hz]
    show (if (d.negative && d.mantissa != 0) = true then -((stripZeros d.mantissa d.scale).1 : Int)
      else (stripZeros d.mantissa d.scale).1) * 10 ^ d.scale = _
    rw [hsign]
    show _ = (if d.negative = true then -(d.mantissa : Int) else d.mantissa) *
      10 ^ (stripZeros d.mantissa d.scale).2
    split
    · rw [Int.neg_mul, Int.neg_mul, hcast]
    · exact hcast

/-! ### Text -/

/-- The digits of a natural, padded with zeros on the left to at least `width`. -/
def paddedDigits (width n : Nat) : List Char :=
  let digits := Nat.toDigits 10 n
  List.replicate (width - digits.length) '0' ++ digits

/-- The digits of the mantissa with a point before the last `scale` of them. -/
def positional (mantissa scale : Nat) : List Char :=
  if scale = 0 then Nat.toDigits 10 mantissa
  else
    let digits := paddedDigits (scale + 1) mantissa
    digits.take (digits.length - scale) ++ '.' :: digits.drop (digits.length - scale)

/-- Plain positional text, all places shown. -/
def text (d : Decimal) : String :=
  String.ofList ((if d.negative then ['-'] else []) ++ positional d.mantissa d.scale)

end Decimal
end Lending
