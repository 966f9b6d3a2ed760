import Lending.Binary64.Basic

/-!
# Documents

The one value that requests, settings and answers are read from and written to, whatever text they
stand in: scalars, lists, and tables of named fields in their order.
-/

namespace Lending

inductive Document where
  | null
  | bool (value : Bool)
  | integer (value : Int)
  | real (value : Binary64)
  | text (value : String)
  /-- What is well-formed but has no value: a number too large for a double, text with half a character,
  or a table with a name of that kind. -/
  | unreadable
  | list (items : List Document)
  | table (fields : List (String × Document))

namespace Document

instance : Inhabited Document := ⟨.null⟩

def natural (n : Nat) : Document := .integer n

/-- The document of an optional value; absence is null. -/
def ofOption {α : Type} (write : α → Document) : Option α → Document
  | some a => write a
  | none => .null

def ofText? (text : Option String) : Document := ofOption .text text

def texts (items : List String) : Document := .list (items.map .text)

end Document
end Lending
