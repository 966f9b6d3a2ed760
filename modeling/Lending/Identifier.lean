import Lending.Document.Json

/-!
# Identifiers

Partners, tenants and users are known by texts of their own choice, which may not be blank where an
identifier is required. Assessments may be known by universal identifiers of 128 bits.
-/

namespace Lending

abbrev PartnerId := String

abbrev TenantId := String

abbrev UserId := String

/-- An identifier of 128 bits. -/
structure UniversalId where
  value : Nat
  value_lt : value < 2 ^ 128
deriving DecidableEq

namespace UniversalId

/-- Reads 32 hexadecimal digits. -/
def ofDigits? (digits : List Char) : Option UniversalId :=
  if digits.length = 32 then
    (digits.foldlM (fun value c => (Json.hexDigit? c).map (value * 16 + ·)) 0).bind fun value =>
      if h : value < 2 ^ 128 then some ⟨value, h⟩ else none
  else none

/-- Reads digits in five groups joined by hyphens. -/
def ofGroups? (text : List Char) : Option UniversalId :=
  let hyphens : List Nat := [8, 13, 18, 23]
  if text.length = 36 ∧ hyphens.all (fun i => text[i]? == some '-') then
    ofDigits? (text.filter (· != '-'))
  else none

/-- Reads an identifier: bare digits, or groups, which may stand in braces or behind a scheme. -/
def ofText? (text : String) : Option UniversalId :=
  let characters := text.toList
  let scheme := "urn:uuid:".toList
  (ofDigits? characters).or <| (ofGroups? characters).or <|
    if characters.length = 38 ∧ characters.head? = some '\x7b' ∧ characters.getLast? = some '\x7d' then
      ofGroups? (characters.drop 1).dropLast
    else if scheme.isPrefixOf characters then ofGroups? (characters.drop scheme.length)
    else none

/-- The identifier in groups of lower-case digits. -/
def text (id : UniversalId) : String :=
  let digits := Nat.toDigits 16 id.value
  let padded := List.replicate (32 - digits.length) '0' ++ digits
  let group (start size : Nat) : List Char := (padded.drop start).take size
  String.ofList (['-'].intercalate [group 0 8, group 8 4, group 12 4, group 16 4, group 20 12])

end UniversalId
end Lending
