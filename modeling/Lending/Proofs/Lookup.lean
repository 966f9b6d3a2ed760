import Mathlib.Data.List.Nodup

/-!
# Lookups in lists of pairs

Under a name, a lookup finds the first pair that has it. Where no two pairs share a name, the order does not
matter: what is found is what stands in the list.
-/

namespace Lending

variable {α β : Type} [DecidableEq α] {pairs : List (α × β)} {name : α} {value : β}

theorem lookup_cons_eq_ite (held : α) (value : β) (rest : List (α × β)) (name : α) :
    ((held, value) :: rest).lookup name = if name = held then some value else rest.lookup name := by
  rw [List.lookup_cons]
  by_cases hname : name = held
  · rw [if_pos hname, beq_iff_eq.2 hname]
  · rw [if_neg hname, beq_eq_false_iff_ne.2 hname]

theorem lookup_map {γ : Type} (key : γ → α) (value : γ → β) (items : List γ) (name : α) :
    (items.map fun item => (key item, value item)).lookup name
      = (items.find? fun item => name = key item).map value := by
  induction items with
  | nil => rfl
  | cons item items ih =>
      rw [List.map_cons, lookup_cons_eq_ite, List.find?_cons]
      by_cases hname : name = key item
      · rw [if_pos hname, decide_eq_true hname, Option.map_some]
      · rw [if_neg hname, decide_eq_false hname, ih]

theorem lookup_map_snd {γ : Type} (g : β → γ) (pairs : List (α × β)) (name : α) :
    (pairs.map fun pair => (pair.1, g pair.2)).lookup name = (pairs.lookup name).map g := by
  induction pairs with
  | nil => rfl
  | cons pair pairs ih =>
      obtain ⟨held, value⟩ := pair
      rw [List.map_cons, lookup_cons_eq_ite, lookup_cons_eq_ite, ih]
      split <;> rfl

theorem mem_of_lookup_eq_some (h : pairs.lookup name = some value) : (name, value) ∈ pairs := by
  obtain ⟨before, after, hsplit, -⟩ := List.lookup_eq_some_iff.1 h
  rw [hsplit]
  exact List.mem_append_right before List.mem_cons_self

theorem lookup_eq_some_iff_mem (h : (pairs.map Prod.fst).Nodup) :
    pairs.lookup name = some value ↔ (name, value) ∈ pairs := by
  refine ⟨mem_of_lookup_eq_some, fun hvalue => ?_⟩
  cases hfound : pairs.lookup name with
  | none => exact absurd rfl (bne_iff_ne.1 (List.lookup_eq_none_iff.1 hfound _ hvalue))
  | some found =>
      have hpair := List.inj_on_of_nodup_map h (mem_of_lookup_eq_some hfound) hvalue rfl
      rw [(Prod.mk.inj hpair).2]

end Lending
