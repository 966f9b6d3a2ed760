import Lending.Application.Basic

/-!
# Options and checks

What a caller may ask of an answer, and what has to be in order before an application is looked at.
-/

namespace Lending

/-- How probable an approval has to be for a partner to be offered, and how many are offered. -/
structure Options where
  minProbability : Nat
  maxPartners : Nat
deriving DecidableEq

namespace Options

def standard : Options := ⟨50, 5⟩

instance : Inhabited Options := ⟨standard⟩

/-- The probability is a percentage, and at least one partner is wanted. -/
def validate (o : Options) : Except ServiceFault Unit :=
  if 100 < o.minProbability then
    .error (.validation ("min_approval_probability must be 0-100, got " ++ toString o.minProbability))
  else if o.maxPartners = 0 then .error (.validation "max_partners must be at least 1")
  else .ok ()

end Options

/-- Tenant and user are named, and something is requested. -/
def Application.validate (a : Application) : Except ServiceFault Unit :=
  if Text.IsBlank a.tenant then .error (.validation "tenant_id is required")
  else if Text.IsBlank a.user then .error (.validation "user_id is required")
  else if a.request.amount.isZero then .error (.validation "requested_amount must be positive")
  else .ok ()

end Lending
