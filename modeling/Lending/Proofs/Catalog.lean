import Lending.Catalog
import Lending.Proofs.Lookup

/-!
# What stands in a catalog

Under a name stands what was put there last. A catalog made of a list therefore holds, for each name on
the list, the last of its values, and nothing else.
-/

namespace Lending.Catalog

variable {α : Type}

theorem lookup_insertEntry (name : String) (value : α) (entries : List (String × α)) (other : String) :
    (insertEntry name value entries).lookup other
      = if other = name then some value else entries.lookup other := by
  induction entries with
  | nil => exact lookup_cons_eq_ite name value [] other
  | cons entry rest ih =>
      obtain ⟨held, old⟩ := entry
      rw [insertEntry]
      split
      · exact lookup_cons_eq_ite name value _ other
      · split
        · rename_i heq
          rw [lookup_cons_eq_ite, lookup_cons_eq_ite, ← heq]
          split <;> rfl
        · rename_i hne
          rw [lookup_cons_eq_ite, lookup_cons_eq_ite, ih]
          by_cases hheld : other = held
          · rw [if_pos hheld, if_pos hheld, if_neg fun hname => hne (hname.symm.trans hheld)]
          · rw [if_neg hheld, if_neg hheld]

theorem find?_insert (c : Catalog α) (name : String) (value : α) (other : String) :
    (c.insert name value).find? other = if other = name then some value else c.find? other :=
  lookup_insertEntry name value c.entries other

theorem find?_foldl_insert (entries : List (String × α)) (c : Catalog α) (name : String) :
    (entries.foldl (fun c entry => c.insert entry.1 entry.2) c).find? name
      = (entries.reverse.lookup name).or (c.find? name) := by
  induction entries generalizing c with
  | nil => rfl
  | cons entry entries ih =>
      obtain ⟨held, value⟩ := entry
      rw [List.foldl_cons, ih, find?_insert, List.reverse_cons, List.lookup_append, Option.or_assoc,
        lookup_cons_eq_ite]
      split <;> rfl

/-- Of the entries under one name the last one counts. -/
theorem find?_ofList (entries : List (String × α)) (name : String) :
    (ofList entries).find? name = entries.reverse.lookup name := by
  have hempty : (empty : Catalog α).find? name = none := rfl
  rw [ofList, find?_foldl_insert, hempty, Option.or_none]

theorem find?_eq_some_iff (c : Catalog α) (name : String) (value : α) :
    c.find? name = some value ↔ (name, value) ∈ c.entries :=
  lookup_eq_some_iff_mem (List.pairwise_map.2 (c.ascending.imp String.ne_of_lt))

theorem mem_names_iff (c : Catalog α) (name : String) :
    name ∈ c.names ↔ ∃ value, c.find? name = some value := by
  rw [names, List.mem_map]
  constructor
  · rintro ⟨⟨held, value⟩, hmem, rfl⟩
    exact ⟨value, (c.find?_eq_some_iff held value).2 hmem⟩
  · rintro ⟨value, hfind⟩
    exact ⟨(name, value), (c.find?_eq_some_iff name value).1 hfind, rfl⟩

end Lending.Catalog
