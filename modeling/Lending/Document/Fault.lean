import Lending.Document.Field
import Lending.Fault

/-!
# Faults in documents

A fault is written as its kind and its message.
-/

namespace Lending

open Document

def Document.failure (kind : String) (fields : List (String × Document)) : Document :=
  .table (("error", .text kind) :: fields)

namespace DomainFault

def kind : DomainFault → String
  | amount _ => "InvalidAmount"
  | identifier _ => "InvalidId"
  | profile _ => "InvalidProfile"
  | value _ => "InvalidValue"
  | validation _ => "ValidationError"
  | partnerNotFound _ => "PartnerNotFound"
  | alreadyExists _ => "AlreadyExists"
  | partnerDescriptor _ => "InvalidPartnerDescriptor"
  | scorer _ => "ScorerMisconfigured"

def document (fault : DomainFault) : Document := .failure fault.kind [("message", .text fault.message)]

def ofDocument? (document : Document) : Option DomainFault := do
  let fields ← table? document
  let kind ← fields.required "kind" text?
  let reason ← fields.required "message" text?
  [amount reason, identifier reason, profile reason, value reason, validation reason,
   partnerNotFound reason, alreadyExists reason, partnerDescriptor reason, scorer reason].find?
    fun fault => fault.kind == kind

end DomainFault

namespace PartnerFault

def kind : PartnerFault → String
  | notFound _ _ => "NotFound"
  | invalidDescriptor _ _ => "InvalidDescriptor"
  | unavailable _ => "Unavailable"
  | timeout _ => "Timeout"
  | rejected _ => "Rejected"
  | notSupported _ => "NotSupported"
  | internal _ => "Internal"

def document (fault : PartnerFault) : Document := .failure fault.kind [("message", .text fault.message)]

def ofDocument? (document : Document) : Option PartnerFault := do
  let fields ← table? document
  let texts (name : String) : Option (List String) := fields.required name (list? text?)
  match ← fields.required "kind" text? with
  | "NotFound" => return notFound (← fields.required "partner_id" text?) (← texts "available")
  | "InvalidDescriptor" =>
    return invalidDescriptor (← fields.required "partner_id" text?) (← texts "errors")
  | "Unavailable" => return unavailable (← fields.required "message" text?)
  | "Timeout" => return timeout (← fields.required "timeout_ms" word64?)
  | "Rejected" => return rejected (← fields.required "message" text?)
  | "NotSupported" => return notSupported (← fields.required "capability" text?)
  | "Internal" => return internal (← fields.required "message" text?)
  | _ => none

end PartnerFault

namespace ServiceFault

def kind : ServiceFault → String
  | validation _ => "Validation"
  | partner _ => "Partner"
  | domain _ => "Domain"
  | configuration _ => "Configuration"
  | internal _ => "Internal"

def document (fault : ServiceFault) : Document :=
  .failure fault.kind [("message", .text fault.message), ("is_validation", .bool fault.isValidation)]

end ServiceFault
end Lending
