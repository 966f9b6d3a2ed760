import Lending.Vocabulary.Terms

/-!
# Suggestions

Short advice to the applicant: what belongs to the verdict, then what would lower the risk, without
repetitions and at most five texts.
-/

namespace Lending

/-- The advice that belongs to a verdict. -/
def Verdict.advice : Verdict → List String
  | approve =>
    ["Compare the top-ranked offers on rate and tenure before accepting",
     "Keep KYC and financial documents ready to speed up disbursal"]
  | review =>
    ["Share the last six months of bank statements to strengthen the application",
     "Expect partners to ask for additional documents during review"]
  | decline =>
    ["Consider applying for a smaller amount",
     "Improve your credit profile before reapplying",
     "Explore secured financing options backed by invoices or collateral"]

/-- Adds texts that are not there yet, as long as there are fewer than `limit`. -/
def addFresh (limit : Nat) : (texts taken : List String) → List String
  | [], taken => taken
  | text :: texts, taken =>
    if taken.length = limit then taken
    else if taken.contains text then addFresh limit texts taken
    else addFresh limit texts (taken ++ [text])

/-- At most five suggestions for a verdict, given the recommendations of the risk assessment. -/
def Verdict.suggestions (verdict : Verdict) (recommendations : List String) : List String :=
  addFresh 5 (verdict.advice ++ recommendations) []

end Lending
