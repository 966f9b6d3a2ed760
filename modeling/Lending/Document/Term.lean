import Lending.Amount.Basic
import Lending.ApprovalTime
import Lending.Catalog
import Lending.Document.Field
import Lending.Vocabulary.Basic

/-!
# Domain values in documents

Terms stand in documents by their exact tags, amounts and decimals as texts.
-/

namespace Lending.Document

variable {α : Type}

def term [Vocabulary α] (a : α) : Document := .text (Vocabulary.tag a)

/-- Whether a document holds nothing, as what stands under the tag of a term must. -/
def isVoid : Dialect → Document → Bool
  | .json, .null => true
  | .toml, .list [] | .toml, .table [] => true
  | _, _ => false

/-- The tag of a term: a text, or the only field of a table, holding nothing. -/
def tagIn? (dialect : Dialect) : Document → Option String
  | .text tag => some tag
  | .table [(tag, content)] => if isVoid dialect content then some tag else none
  | _ => none

def termIn? [Vocabulary α] (dialect : Dialect) (document : Document) : Option α :=
  (tagIn? dialect document).bind Vocabulary.ofTag?

def term? [Vocabulary α] : Document → Option α := termIn? .json

def decimal (d : Decimal) : Document := .text d.text

def amount (a : Amount) : Document := .text a.text

def amount? (document : Document) : Option Amount :=
  (decimal? document).bind Amount.ofDecimal?

def approvalTime (time : ApprovalTime) : Document :=
  .table [("min_hours", .natural time.minHours), ("max_hours", .natural time.maxHours)]

/-- Reads a range as it is written, reversed bounds included. -/
def approvalTime? (document : Document) : Option ApprovalTime := do
  let fields ← record? ["min_hours", "max_hours"] document
  return ⟨← fields.required "min_hours" word32?, ← fields.required "max_hours" word32?⟩

/-- A catalog as a table. -/
def catalog (write : α → Document) (c : Catalog α) : Document :=
  .table (c.entries.map fun (name, value) => (name, write value))

/-- Reads a table of any names; of those that stand twice the last counts. -/
def catalog? (read : Document → Option α) (document : Document) : Option (Catalog α) := do
  let fields ← fields? document
  let entries ← fields.mapM fun (name, value) => (read value).map fun value => (name, value)
  return .ofList entries

end Lending.Document
