import Lending.Application.Profile
import Lending.Identifier
import Lending.Vocabulary.Terms

/-!
# Applications

A request for financing, and the application that makes it on behalf of a user of a tenant.
-/

namespace Lending

structure Request where
  amount : Amount
  product : Product
  purpose : Option String
  urgency : Option Urgency
deriving DecidableEq

/-- A request for a positive amount. -/
def Request.make (amount : Amount) (product : Product) (purpose : Option String)
    (urgency : Option Urgency) : Except DomainFault Request :=
  if amount.isZero then .error (.amount "requested amount must be positive")
  else .ok ⟨amount, product, purpose, urgency⟩

structure Application where
  tenant : TenantId
  user : UserId
  profile : Profile
  request : Request
deriving DecidableEq

end Lending
