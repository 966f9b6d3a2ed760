import Lending.Document.Json

/-!
# Plain texts in JSON

Most characters stand for themselves between quotes. A text of such characters is printed as it is, and what
is printed reads back to the text.
-/

namespace Lending.Json

/-- A character that stands for itself between quotes. -/
structure IsPlain (c : Char) : Prop where
  ne_quote : c ≠ '\x22'
  ne_backslash : c ≠ '\\'
  le_toNat : 0x20 ≤ c.toNat

variable {c : Char} {rest before : List Char}

theorem IsPlain.escape_eq (h : IsPlain c) : escape c = [c] := by
  obtain ⟨hquote, hbackslash, hle⟩ := h
  unfold escape
  split
  case h_1 => exact absurd rfl hquote
  case h_2 => exact absurd rfl hbackslash
  case h_8 => exact if_neg (Nat.not_lt.2 hle)
  all_goals exact absurd hle (by decide)

theorem flatMap_escape_eq {text : List Char} (h : ∀ c ∈ text, IsPlain c) : text.flatMap escape = text := by
  induction text with
  | nil => rfl
  | cons c text ih =>
      obtain ⟨hc, htext⟩ := List.forall_mem_cons.1 h
      rw [List.flatMap_cons, hc.escape_eq, ih htext, List.singleton_append]

theorem string?_cons (h : IsPlain c) (whole : Bool) :
    string? (c :: rest) before whole = string? rest (c :: before) whole := by
  rw [string?]
  · exact if_neg (Nat.not_lt.2 h.le_toNat)
  · exact h.ne_quote
  · exact fun _ _ _ _ _ _ _ _ _ hc _ => h.ne_backslash hc
  · exact fun _ _ _ _ _ hc _ => h.ne_backslash hc
  · exact fun _ _ hc _ => h.ne_backslash hc

/-- A string of plain characters ends at the next quote. -/
theorem string?_append_quote {text : List Char} (h : ∀ c ∈ text, IsPlain c) :
    string? (text ++ '\x22' :: rest) before true =
      some (some (String.ofList (before.reverse ++ text)), rest) := by
  induction text generalizing before with
  | nil =>
      rw [List.nil_append, List.append_nil, string?]
      rfl
  | cons c text ih =>
      obtain ⟨hc, htext⟩ := List.forall_mem_cons.1 h
      rw [List.cons_append, string?_cons hc, ih htext, List.reverse_cons, List.append_assoc,
        List.singleton_append]

theorem compact_text {value : String} (h : ∀ c ∈ value.toList, IsPlain c) :
    compact (.text value) = '\x22' :: (value.toList ++ ['\x22']) := by
  rw [← flatMap_escape_eq h]
  rfl

theorem read?_renderLine_text {value : String} (h : ∀ c ∈ value.toList, IsPlain c) :
    read? (renderLine (.text value)) = some (.text value) := by
  have hstring : string? (value.toList ++ ['\x22']) [] true = some (some value, []) := by
    rw [string?_append_quote h, List.reverse_nil, List.nil_append, String.ofList_toList]
  have hvalue (fuel : Nat) : value? (fuel + 1) ('\x22' :: (value.toList ++ ['\x22'])) =
      some (.text value, []) := by
    rw [value?]
    show (string? (value.toList ++ ['\x22']) [] true).map _ = _
    rw [hstring]
    rfl
  rw [read?, renderLine, String.toList_ofList, compact_text h, hvalue]
  rfl

end Lending.Json
