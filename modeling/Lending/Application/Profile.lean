import Lending.Amount.Basic
import Lending.Binary64.Basic

/-!
# Business profiles

What an applicant says about the business. Every figure may be missing, and one that makes no sense
counts as missing; scoring sees a default in its place and how many defaults there were.
-/

namespace Lending

structure Profile where
  years? : Option Binary64
  revenue? : Option Amount
  credit? : Option Nat
  businessName : Option String
  industry : Option String
  contactEmail : Option String
  contactPhone : Option String
deriving DecidableEq

namespace Profile

def empty : Profile := ⟨none, none, none, none, none, none, none⟩

instance : Inhabited Profile := ⟨empty⟩

/-- The years in business, if they are a finite number that is not below zero. -/
def reportedYears? (p : Profile) : Option Binary64 :=
  p.years?.filter fun years => years.IsFinite ∧ Binary64.zero ≤ years

/-- The credit score, if it is in the range of the bureaus. -/
def reportedCredit? (p : Profile) : Option Nat :=
  p.credit?.filter fun score => 300 ≤ score ∧ score ≤ 900

/-- The credit score assumed of an applicant who reports none. -/
def defaultCredit : Nat := 650

def years (p : Profile) : Binary64 := p.reportedYears?.getD .zero

def revenue (p : Profile) : Amount := p.revenue?.getD .zero

def credit (p : Profile) : Nat := p.reportedCredit?.getD defaultCredit

/-- How many of the three figures are defaults. -/
def defaultedFields (p : Profile) : Nat :=
  p.reportedYears?.isNone.toNat + p.revenue?.isNone.toNat + p.reportedCredit?.isNone.toNat

end Profile
end Lending
