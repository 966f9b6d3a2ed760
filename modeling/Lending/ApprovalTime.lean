import Lending.Power

/-!
# Approval times

How long a partner takes to decide, as a range of hours. A range that ends within two days, or does not
consist of whole days, is shown in hours and any other one in days.
-/

namespace Lending

/-- A range of hours, each bound a word of 32 bits. Ranges that were written by others may be reversed. -/
structure ApprovalTime where
  minHours : Nat
  maxHours : Nat
deriving DecidableEq

namespace ApprovalTime

def hoursPerDay : Nat := 24

def longest : Nat := 2 ^ 32 - 1

def ofHours (a b : Nat) : ApprovalTime := ⟨min a b, max a b⟩

/-- A range of days; what is longer than the largest bound becomes that bound. -/
def ofDays (a b : Nat) : ApprovalTime :=
  ofHours (min (a * hoursPerDay) longest) (min (b * hoursPerDay) longest)

/-- The range that stands for a partner that gives none. -/
def fallback : ApprovalTime := ofDays 2 3

instance : Inhabited ApprovalTime := ⟨fallback⟩

/-- The whole range fits within two days. -/
def isFast (time : ApprovalTime) : Bool := time.maxHours ≤ 48

/-- Even the lower bound is five days or more. -/
def isSlow (time : ApprovalTime) : Bool := 120 ≤ time.minHours

def isWholeDays (time : ApprovalTime) : Bool :=
  time.minHours % hoursPerDay = 0 && time.maxHours % hoursPerDay = 0

/-- Two bounds with their unit, or one of them if they agree. -/
def rangeText (low high : Nat) (unit : String) : String :=
  (if low = high then toString high else toString low ++ "-" ++ toString high) ++ " " ++ unit

def text (time : ApprovalTime) : String :=
  if time.isFast || !time.isWholeDays then rangeText time.minHours time.maxHours "hours"
  else rangeText (time.minHours / hoursPerDay) (time.maxHours / hoursPerDay) "days"

end ApprovalTime
end Lending
