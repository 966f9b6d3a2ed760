/-!
# Blank text

The Unicode property `White_Space`, and trimming by it.
-/

namespace Lending.Text

/-- Ranges of the characters with the property `White_Space`. -/
def whiteSpaceRanges : List (Nat × Nat) :=
  [(0x9, 0xD), (0x20, 0x20), (0x85, 0x85), (0xA0, 0xA0), (0x1680, 0x1680), (0x2000, 0x200A),
   (0x2028, 0x2029), (0x202F, 0x202F), (0x205F, 0x205F), (0x3000, 0x3000)]

def isWhiteSpace (c : Char) : Bool :=
  whiteSpaceRanges.any fun (first, last) => first ≤ c.toNat && c.toNat ≤ last

/-- The text without white space at either end. -/
def trim (text : List Char) : List Char :=
  ((text.dropWhile isWhiteSpace).reverse.dropWhile isWhiteSpace).reverse

/-- Nothing but white space. -/
def IsBlank (text : String) : Prop := ∀ c ∈ text.toList, isWhiteSpace c = true

instance (text : String) : Decidable (IsBlank text) :=
  List.decidableBAll (fun c => isWhiteSpace c = true) text.toList

theorem isBlank_iff_trim_eq_nil (text : String) : IsBlank text ↔ trim text.toList = [] := by
  have hall : ∀ l : List Char, l.dropWhile isWhiteSpace = [] ↔ ∀ c ∈ l, isWhiteSpace c = true := by
    intro l
    induction l with
    | nil => simp
    | cons c l ih =>
      by_cases h : isWhiteSpace c = true <;> simp [h, ih]
  simp only [IsBlank, trim, List.reverse_eq_nil_iff, hall, List.mem_reverse]
  constructor
  · intro h c hc
    exact h c ((List.dropWhile_sublist _).subset hc)
  · intro h
    have hnil : text.toList.dropWhile isWhiteSpace = [] := by
      match hd : text.toList.dropWhile isWhiteSpace with
      | [] => rfl
      | c :: rest =>
        have hhead := List.head?_dropWhile_not isWhiteSpace text.toList
        rw [hd] at hhead h
        simp [h c (by simp)] at hhead
    exact (hall _).1 hnil

end Lending.Text
