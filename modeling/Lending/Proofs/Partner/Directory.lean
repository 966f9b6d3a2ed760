import Mathlib.Data.List.Nodup
import Lending.Partner.Directory

/-!
# Identifiers in the directory

However partners come and go, no two in the directory share an identifier. What is found under an
identifier is therefore the only partner there is, and a list that the directory gives out has each of
its partners once.
-/

namespace Lending.Directory

def Distinct (d : Directory) : Prop := (d.partners.map Partner.id).Nodup

variable {d : Directory} {p q : Partner} {id : PartnerId}

/-! ### Finding -/

theorem mem_of_find? (h : d.find? id = some p) : p ∈ d.partners ∧ p.id = id :=
  ⟨List.mem_of_find?_eq_some h, by simpa using List.find?_some h⟩

theorem find?_eq_none_iff : d.find? id = none ↔ id ∉ d.partners.map Partner.id := by
  simp only [find?, List.find?_eq_none, List.mem_map, not_exists, not_and, beq_iff_eq]

theorem Distinct.eq (h : d.Distinct) (hp : p ∈ d.partners) (hq : q ∈ d.partners) (hid : p.id = q.id) :
    p = q :=
  List.inj_on_of_nodup_map h hp hq hid

theorem Distinct.find? (h : d.Distinct) (hp : p ∈ d.partners) : d.find? p.id = some p := by
  cases hfound : d.find? p.id with
  | none => exact absurd (List.mem_map_of_mem hp) (find?_eq_none_iff.1 hfound)
  | some q =>
      obtain ⟨hq, hid⟩ := mem_of_find? hfound
      rw [h.eq hq hp hid]

/-! ### Coming and going -/

theorem distinct_empty : empty.Distinct := List.nodup_nil

/-- A registration is refused, or finds the identifier taken, and either way changes nothing; or it adds
the partner. -/
theorem register_cases (d : Directory) (p : Partner) :
    (p.errors ≠ [] ∧ d.register p = (.error (.invalidDescriptor p.id p.errors), d)) ∨
      (p.errors = [] ∧ (d.find? p.id).isSome ∧ d.register p = (.ok false, d)) ∨
      (p.errors = [] ∧ d.find? p.id = none ∧ d.register p = (.ok true, ⟨d.partners ++ [p]⟩)) := by
  unfold register
  split
  · rename_i herrors
    rw [List.isEmpty_iff] at herrors
    split
    · rename_i htaken
      exact Or.inr (Or.inl ⟨herrors, htaken, rfl⟩)
    · rename_i hnew
      exact Or.inr (Or.inr ⟨herrors, by simpa using hnew, rfl⟩)
  · rename_i herrors
    rw [List.isEmpty_iff] at herrors
    exact Or.inl ⟨herrors, rfl⟩

theorem Distinct.register (h : d.Distinct) (p : Partner) : (d.register p).2.Distinct := by
  rcases d.register_cases p with ⟨-, hregister⟩ | ⟨-, -, hregister⟩ | ⟨-, hnew, hregister⟩
  · rw [hregister]
    exact h
  · rw [hregister]
    exact h
  · rw [hregister, Distinct, List.map_append, List.nodup_append]
    refine ⟨h, List.nodup_singleton _, ?_⟩
    intro id hid other hother
    rw [List.map_singleton, List.mem_singleton] at hother
    rintro rfl
    exact find?_eq_none_iff.1 hnew (hother ▸ hid)

theorem Distinct.unregister (h : d.Distinct) (id : PartnerId) : (d.unregister id).2.Distinct :=
  h.sublist (List.filter_sublist.map Partner.id)

/-! ### Lists of partners -/

theorem select_perm (d : Directory) (wanted : Partner → Bool) :
    (d.select wanted).Perm (d.partners.filter wanted) :=
  List.mergeSort_perm _ _

theorem mem_select {wanted : Partner → Bool} :
    p ∈ d.select wanted ↔ p ∈ d.partners ∧ wanted p = true := by
  rw [(d.select_perm wanted).mem_iff, List.mem_filter]

theorem pairwise_select (d : Directory) (wanted : Partner → Bool) :
    (d.select wanted).Pairwise fun p q => p.id ≤ q.id := by
  have hsorted : (d.select wanted).Pairwise fun p q => decide (p.id ≤ q.id) = true := by
    refine List.pairwise_mergeSort (fun p q r hpq hqr => ?_) (fun p q => ?_) _
    · exact decide_eq_true (String.le_trans (of_decide_eq_true hpq) (of_decide_eq_true hqr))
    · simpa using String.le_total p.id q.id
  exact hsorted.imp of_decide_eq_true

theorem Distinct.select (h : d.Distinct) (wanted : Partner → Bool) :
    ((d.select wanted).map Partner.id).Nodup := by
  rw [((d.select_perm wanted).map Partner.id).nodup_iff]
  exact h.sublist (List.filter_sublist.map Partner.id)

theorem mem_ids : id ∈ d.ids ↔ id ∈ d.partners.map Partner.id := by
  simp only [ids, all, List.mem_map, mem_select, and_true]

theorem Distinct.pairwise_map_id_select (h : d.Distinct) (wanted : Partner → Bool) :
    ((d.select wanted).map Partner.id).Pairwise (· < ·) := by
  have hle : ((d.select wanted).map Partner.id).Pairwise (· ≤ ·) :=
    List.pairwise_map.2 (d.pairwise_select wanted)
  refine (hle.and (h.select wanted)).imp fun ⟨hle, hne⟩ => ?_
  exact String.not_le.1 fun hge => hne (String.le_antisymm hle hge)

theorem Distinct.pairwise_ids (h : d.Distinct) : d.ids.Pairwise (· < ·) := h.pairwise_map_id_select _

end Lending.Directory
