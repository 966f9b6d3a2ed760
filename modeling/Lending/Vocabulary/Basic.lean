import Lending.Text.Blank

/-!
# Vocabularies

A vocabulary is a closed set of terms, each of which has a tag: lower-case ASCII words joined by
underscores. Documents hold the exact tag. Text typed by people may be read leniently: white space
around it does not count, nor does the case of an ASCII letter, and a hyphen or a space stands for an
underscore.
-/

namespace Lending

/-- A closed set of terms with their tags, in the order in which they are declared. -/
class Vocabulary (α : Type) where
  /-- What a term of this vocabulary is called. -/
  kind : String
  terms : List α
  tag : α → String

/-- A text that is no term of a vocabulary. -/
structure UnknownTerm where
  kind : String
  value : String
deriving DecidableEq

def UnknownTerm.message (unknown : UnknownTerm) : String :=
  "unknown " ++ unknown.kind ++ " '" ++ unknown.value ++ "'"

namespace Vocabulary

variable {α : Type} [Vocabulary α]

/-- The term with exactly this tag. -/
def ofTag? (text : String) : Option α := terms.find? fun term => tag term == text

/-- The ASCII lower-case form of a character, hyphens and spaces becoming underscores. -/
def foldChar (c : Char) : Char := if c = '-' ∨ c = ' ' then '_' else c.toLower

/-- The tag that a leniently written text spells. -/
def fold (text : String) : List Char := (Text.trim text.toList).map foldChar

/-- Reads a term leniently. -/
def read (text : String) : Except UnknownTerm α :=
  match terms.find? fun term => (tag term).toList == fold text with
  | some term => .ok term
  | none => .error ⟨kind α, text⟩

/-- How a character may be written for one of a tag: a letter in either case, an underscore also as a
hyphen or a space. -/
def Spells (written tagged : Char) : Prop :=
  written = tagged ∨ (tagged.isLower ∧ written.isUpper ∧ written.toLower = tagged) ∨
    (tagged = '_' ∧ (written = '-' ∨ written = ' '))

end Vocabulary
end Lending
