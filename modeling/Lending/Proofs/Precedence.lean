import Mathlib.Order.Lattice

/-!
# Precedence

Partners are listed by a figure, the greatest first, and by name where figures are equal. Names that differ
therefore never tie, and a sorted list of them is in a strict order.
-/

namespace Lending

variable {κ : Type} [LinearOrder κ] {a b c : κ × String}

/-- The greater figure comes first, and of equal figures the smaller name. -/
def Precedes (a b : κ × String) : Prop := b.1 < a.1 ∨ a.1 = b.1 ∧ a.2 ≤ b.2

namespace Precedes

theorem trans (hab : Precedes a b) (hbc : Precedes b c) : Precedes a c := by
  rcases hab with hlt | ⟨heq, hname⟩ <;> rcases hbc with hlt' | ⟨heq', hname'⟩
  · exact Or.inl (lt_trans hlt' hlt)
  · exact Or.inl (heq' ▸ hlt)
  · exact Or.inl (heq ▸ hlt')
  · exact Or.inr ⟨heq.trans heq', String.le_trans hname hname'⟩

theorem total (a b : κ × String) : Precedes a b ∨ Precedes b a := by
  rcases lt_trichotomy a.1 b.1 with hlt | heq | hgt
  · exact Or.inr (Or.inl hlt)
  · exact (String.le_total a.2 b.2).imp (fun hname => Or.inr ⟨heq, hname⟩)
      fun hname => Or.inr ⟨heq.symm, hname⟩
  · exact Or.inl (Or.inl hgt)

/-- Only what has one name can change places. -/
theorem name_eq (hab : Precedes a b) (hba : Precedes b a) : a.2 = b.2 := by
  rcases hab with hlt | ⟨heq, hname⟩ <;> rcases hba with hlt' | ⟨heq', hname'⟩
  · exact absurd hlt' (lt_asymm hlt)
  · exact absurd heq' (ne_of_lt hlt)
  · exact absurd heq (ne_of_lt hlt')
  · exact String.le_antisymm hname hname'

theorem strict (h : Precedes a b) (hne : a.2 ≠ b.2) : b.1 < a.1 ∨ a.1 = b.1 ∧ a.2 < b.2 := by
  refine h.imp_right fun ⟨heq, hname⟩ => ⟨heq, ?_⟩
  exact String.not_le.1 fun hge => hne (String.le_antisymm hname hge)

end Precedes
end Lending
