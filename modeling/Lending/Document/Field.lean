import Lending.Document.Basic
import Lending.Binary64.Text
import Lending.Decimal.Reader

/-!
# Reading records

A value is read from a document by a partial function, and a structure from a record: the fields of a
table, or a list of their values in the order in which the structure declares them. Fields that the
structure does not have are ignored; one that it has must not stand twice. A list may end early, where
the fields that it lacks have a default.
-/

namespace Lending.Document

/-- The language that a document was written in. The two differ in what stands for a structure or for
a term: JSON refuses a list that is longer than the structure, while TOML ignores what is too much. -/
inductive Dialect where
  | json
  | toml
deriving DecidableEq

abbrev Fields := List (String × Document)

def fields? : Document → Option Fields
  | .table fields => some fields
  | _ => none

/-- The fields that a structure is read from. -/
structure Record where
  fields : Fields
  /-- Whether they come from a table, and not from a list. -/
  named : Bool

/-- A record that only a table may give. -/
def table? (document : Document) : Option Record := (fields? document).map fun fields => ⟨fields, true⟩

/-- A record of the fields `names`. -/
def recordIn? (dialect : Dialect) (names : List String) : Document → Option Record
  | .list items =>
    if items.length ≤ names.length ∨ dialect = .toml then some ⟨names.zip items, false⟩ else none
  | document => table? document

def record? : List String → Document → Option Record := recordIn? .json

namespace Record

variable {α : Type}

/-- What stands under a field's name: nothing, one document, or a repetition, which is refused. -/
def lookup? (record : Record) (name : String) : Option (Option Document) :=
  match record.fields.filter (fun field => field.1 == name) with
  | [] => some none
  | [(_, document)] => some (some document)
  | _ => none

/-- A field that must be there. -/
def required (record : Record) (name : String) (read : Document → Option α) : Option α :=
  match record.lookup? name with
  | some (some document) => read document
  | _ => none

/-- A field that may be missing, in which case `default` stands for it. -/
def defaulted (record : Record) (name : String) (default : α) (read : Document → Option α) :
    Option α :=
  match record.lookup? name with
  | some none => some default
  | some (some document) => read document
  | none => none

/-- Null for nothing. -/
def nullable (read : Document → Option α) : Document → Option (Option α)
  | .null => some none
  | document => (read document).map some

/-- A field that may be null or missing. -/
def omissible (record : Record) (name : String) (read : Document → Option α) : Option (Option α) :=
  record.defaulted name none (nullable read)

/-- A field that may be null, and missing from a table. -/
def optional (record : Record) (name : String) (read : Document → Option α) : Option (Option α) :=
  if record.named then record.omissible name read else record.required name (nullable read)

end Record

/-! ### Scalars -/

def bool? : Document → Option Bool
  | .bool value => some value
  | _ => none

def text? : Document → Option String
  | .text value => some value
  | _ => none

def naturalUpTo? (limit : Nat) : Document → Option Nat
  | .integer n => if 0 ≤ n ∧ n.toNat ≤ limit then some n.toNat else none
  | _ => none

def int16? : Document → Option Int
  | .integer n => if -32768 ≤ n ∧ n ≤ 32767 then some n else none
  | _ => none

def double? : Document → Option Binary64
  | .integer n => some (.ofQuotient (decide (n < 0)) n.natAbs 1)
  | .real x => some x
  | _ => none

/-- A decimal: an integer, the shortest text of a double, or a text of its own. -/
def decimal? : Document → Option Decimal
  | .integer n => Decimal.ofInt? n
  | .real x => Decimal.ofText? x.text
  | .text value => Decimal.ofText? value
  | _ => none

def list? {α : Type} (read : Document → Option α) : Document → Option (List α)
  | .list items => items.mapM read
  | _ => none

def byte? : Document → Option Nat := naturalUpTo? 255

def word16? : Document → Option Nat := naturalUpTo? 65535

def word32? : Document → Option Nat := naturalUpTo? 4294967295

def word64? : Document → Option Nat := naturalUpTo? 18446744073709551615

end Lending.Document
