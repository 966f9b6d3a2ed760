import Lending.Engine.Options

/-!
# Intake

A request as it comes in from outside: everything may be wrong with it that its fields can hold. It
becomes an application with options once it is found valid.
-/

namespace Lending

structure Intake where
  tenant : String
  user : String
  profile : Profile
  amount : Decimal
  product : Product
  purpose : Option String
  urgency : Option Urgency
  options? : Option Options
deriving DecidableEq

namespace Intake

def validate (i : Intake) : Except ServiceFault Unit :=
  if Text.IsBlank i.tenant then .error (.validation "tenant_id cannot be empty")
  else if Text.IsBlank i.user then .error (.validation "user_id cannot be empty")
  else if i.amount ≤ .zero then
    .error (.validation ("requested_amount must be positive, got " ++ i.amount.text))
  else
    match i.options? with
    | some options => options.validate
    | none => .ok ()

/-- The application that is made, with the options for it. -/
def application (i : Intake) : Except ServiceFault (Application × Option Options) := do
  i.validate
  let amount ← (Amount.ofDecimal i.amount).mapError .domain
  let request ← (Request.make amount i.product i.purpose i.urgency).mapError .domain
  return (⟨i.tenant, i.user, i.profile, request⟩, i.options?)

end Intake
end Lending
