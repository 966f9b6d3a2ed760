/-!
# Faults

What can go wrong, as causes, with the wording of each cause in one place: faults of domain values,
faults of a partner, and the faults that a request to the service ends in.
-/

namespace Lending

/-! ### Domain values -/

/-- A domain value or lookup that is refused, with a text that says why. -/
inductive DomainFault where
  | amount (reason : String)
  | identifier (reason : String)
  | profile (reason : String)
  | value (reason : String)
  | validation (reason : String)
  | partnerNotFound (reason : String)
  | alreadyExists (reason : String)
  | partnerDescriptor (reason : String)
  | scorer (reason : String)
deriving DecidableEq

/-- What a domain fault is about. -/
inductive FaultCategory where
  | validation
  | lookup
  | configuration
deriving DecidableEq

namespace DomainFault

def message : DomainFault → String
  | amount reason => "invalid amount: " ++ reason
  | identifier reason => "invalid identifier: " ++ reason
  | profile reason => "invalid business profile: " ++ reason
  | value reason => "invalid value: " ++ reason
  | validation reason => "validation error: " ++ reason
  | partnerNotFound reason => "partner not found: " ++ reason
  | alreadyExists reason => "entity already exists: " ++ reason
  | partnerDescriptor reason => "invalid partner descriptor: " ++ reason
  | scorer reason => "scorer misconfigured: " ++ reason

/-- A stable number of four digits, the first of which is the category. -/
def code : DomainFault → Nat
  | amount _ => 1001
  | identifier _ => 1002
  | profile _ => 1003
  | value _ => 1004
  | validation _ => 1099
  | partnerNotFound _ => 2001
  | alreadyExists _ => 2002
  | partnerDescriptor _ => 3001
  | scorer _ => 3002

def category (fault : DomainFault) : FaultCategory :=
  if fault.code < 2000 then .validation else if fault.code < 3000 then .lookup else .configuration

end DomainFault

/-! ### Partners -/

/-- Why a partner does not answer, or why there is no such partner. -/
inductive PartnerFault where
  | notFound (id : String) (available : List String)
  | invalidDescriptor (id : String) (errors : List String)
  | unavailable (reason : String)
  | timeout (milliseconds : Nat)
  | rejected (reason : String)
  | notSupported (capability : String)
  | internal (reason : String)
deriving DecidableEq

namespace PartnerFault

def message : PartnerFault → String
  | notFound id available =>
    "partner '" ++ id ++ "' not found; available partners: [" ++ ", ".intercalate available ++ "]"
  | invalidDescriptor id errors => "partner '" ++ id ++ "' rejected: " ++ "; ".intercalate errors
  | unavailable reason => "partner unavailable: " ++ reason
  | timeout milliseconds => "partner timed out after " ++ toString milliseconds ++ "ms"
  | rejected reason => "partner rejected request: " ++ reason
  | notSupported capability => "capability not supported: " ++ capability
  | internal reason => "partner internal error: " ++ reason

/-- Whether the fault can come from a partner that was asked, rather than from the directory. -/
def isProbeFailure : PartnerFault → Bool
  | notFound _ _ | invalidDescriptor _ _ => false
  | _ => true

end PartnerFault

/-! ### The service -/

/-- What a request to the service ends in when it fails. -/
inductive ServiceFault where
  | validation (reason : String)
  | partner (fault : PartnerFault)
  | domain (fault : DomainFault)
  | configuration (reason : String)
  | internal (reason : String)
deriving DecidableEq

namespace ServiceFault

def message : ServiceFault → String
  | validation reason => "validation error: " ++ reason
  | partner fault => "partner error: " ++ fault.message
  | domain fault => "domain error: " ++ fault.message
  | configuration reason => "configuration error: " ++ reason
  | internal reason => "internal error: " ++ reason

/-- Whether the request itself is at fault. -/
def isValidation : ServiceFault → Bool
  | validation _ => true
  | domain fault => fault.category == .validation
  | _ => false

end ServiceFault
end Lending
