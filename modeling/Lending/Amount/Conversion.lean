import Lending.Amount.Basic
import Lending.Binary64.Text
import Lending.Decimal.Conversion

/-!
# Amounts and doubles
-/

namespace Lending.Amount

def ofBinary64 (x : Binary64) : Except DomainFault Amount :=
  match Decimal.ofBinary64? x with
  | some d => ofDecimal d
  | none => .error (.amount (x.text ++ " is not a finite number"))

def toBinary64 (a : Amount) : Binary64 := a.value.toBinary64

end Lending.Amount
