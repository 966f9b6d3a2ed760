import Lending.Cache.Basic
import Lending.Proofs.Lookup

/-!
# What can be looked up

How each operation on a cache changes the entry of a key: its own operation sets or removes it, and the
operations on other keys leave it as it is or drop it. Nothing here depends on the order of the entries.
-/

namespace Lending.Cache

variable {κ ν : Type}

/-- Two caches differ in nothing but their entries. -/
structure SameSetup (c d : Cache κ ν) : Prop where
  nextSequence : d.nextSequence = c.nextSequence
  capacity : d.capacity = c.capacity
  timeToLive : d.timeToLive = c.timeToLive

theorem SameSetup.refl (c : Cache κ ν) : SameSetup c c := ⟨rfl, rfl, rfl⟩

variable [DecidableEq κ] {c : Cache κ ν} {key other : κ} {e : Entry ν}

theorem mem_of_find? (h : c.find? key = some e) : (key, e) ∈ c.entries := mem_of_lookup_eq_some h

theorem find?_eq_none_iff : c.find? key = none ↔ ∀ held ∈ c.entries, held.1 ≠ key := by
  rw [find?, List.lookup_eq_none_iff]
  refine forall₂_congr fun held _ => ?_
  rw [bne_iff_ne, ne_comm]

theorem lookup_filter_ne (entries : List (κ × Entry ν)) (key other : κ) :
    (entries.filter fun held => held.1 != key).lookup other =
      if other = key then none else entries.lookup other := by
  induction entries with
  | nil => simp
  | cons head rest ih =>
      by_cases hkey : head.1 = key
      · rw [List.filter_cons_of_neg (by simp [hkey]), ih, lookup_cons_eq_ite, hkey]
        split <;> rfl
      · rw [List.filter_cons_of_pos (by simp [hkey]), lookup_cons_eq_ite, lookup_cons_eq_ite, ih]
        by_cases hother : other = head.1
        · rw [if_pos hother, if_pos hother, if_neg (hother.symm ▸ hkey)]
        · rw [if_neg hother, if_neg hother]

/-! ### Removing -/

theorem remove_entries (c : Cache κ ν) (key : κ) :
    (c.remove key).entries = c.entries.filter fun held => held.1 != key := by
  unfold remove
  split
  · rfl
  · rename_i hnone
    refine (List.filter_eq_self.2 fun held hheld => ?_).symm
    simpa using find?_eq_none_iff.1 hnone held hheld

theorem remove_sameSetup (c : Cache κ ν) (key : κ) : SameSetup c (c.remove key) := by
  unfold remove
  split
  · exact ⟨rfl, rfl, rfl⟩
  · exact .refl c

theorem find?_remove (c : Cache κ ν) (key other : κ) :
    (c.remove key).find? other = if other = key then none else c.find? other := by
  rw [find?, remove_entries, lookup_filter_ne, find?]

theorem find?_remove_self (c : Cache κ ν) (key : κ) : (c.remove key).find? key = none := by
  rw [find?_remove, if_pos rfl]

theorem find?_remove_of_ne (c : Cache κ ν) (hne : other ≠ key) :
    (c.remove key).find? other = c.find? other := by
  rw [find?_remove, if_neg hne]

theorem find?_of_remove (h : (c.remove key).find? other = some e) : c.find? other = some e := by
  rw [find?_remove] at h
  split at h
  · cases h
  · exact h

theorem dropOldest_sameSetup (c : Cache κ ν) : SameSetup c c.dropOldest.2 := by
  unfold dropOldest
  split
  · exact ⟨rfl, rfl, rfl⟩
  · exact .refl c

theorem find?_of_dropOldest (h : c.dropOldest.2.find? other = some e) :
    c.find? other = some e := by
  unfold dropOldest at h
  split at h
  · rw [find?, lookup_filter_ne] at h
    split at h
    · cases h
    · exact h
  · exact h

/-! ### Getting -/

/-- A fresh entry is given out and nothing changes; otherwise the key is without an entry afterwards. -/
theorem get_cases (c : Cache κ ν) (key : κ) (now : Nat) :
    (∃ e, c.find? key = some e ∧ c.isFresh now e = true ∧ c.get key now = (some e.value, c)) ∨
      ((∀ e, c.find? key = some e → c.isFresh now e = false) ∧
        c.get key now = (none, c.remove key)) := by
  unfold get
  split
  · rename_i e hsome
    cases hfresh : c.isFresh now e with
    | true => exact Or.inl ⟨e, hsome, hfresh, rfl⟩
    | false =>
        refine Or.inr ⟨fun other hother => ?_, rfl⟩
        rw [← Option.some.inj (hsome.symm.trans hother), hfresh]
  · rename_i hnone
    refine Or.inr ⟨fun e hsome => ?_, ?_⟩
    · rw [hnone] at hsome
      cases hsome
    · unfold remove
      rw [hnone]

/-! ### Inserting -/

theorem makeRoom_sameSetup (c : Cache κ ν) (key : κ) : SameSetup c (c.makeRoom key).2 := by
  unfold makeRoom
  split
  · exact remove_sameSetup c key
  · split
    · exact dropOldest_sameSetup c
    · exact .refl c

theorem find?_of_makeRoom (h : (c.makeRoom key).2.find? other = some e) :
    c.find? other = some e := by
  unfold makeRoom at h
  split at h
  · exact find?_of_remove h
  · split at h
    · exact find?_of_dropOldest h
    · exact h

theorem find?_makeRoom_self (c : Cache κ ν) (key : κ) : (c.makeRoom key).2.find? key = none := by
  cases hentry : (c.makeRoom key).2.find? key with
  | none => rfl
  | some e =>
      have hpresent := find?_of_makeRoom hentry
      have hremove : (c.makeRoom key).2 = c.remove key := by
        unfold makeRoom
        rw [hpresent]
        rfl
      rw [hremove, find?_remove_self] at hentry
      cases hentry

theorem insert_timeToLive (c : Cache κ ν) (key : κ) (value : ν) (now : Nat) :
    (c.insert key value now).2.timeToLive = c.timeToLive :=
  (makeRoom_sameSetup c key).timeToLive

theorem find?_insert_self (c : Cache κ ν) (key : κ) (value : ν) (now : Nat) :
    (c.insert key value now).2.find? key =
      some ⟨value, now, (c.makeRoom key).2.nextSequence⟩ := by
  have hnone := find?_makeRoom_self c key
  unfold find? at hnone
  simp only [insert, find?, List.lookup_append, hnone, Option.none_or]
  exact List.lookup_cons_self

/-- An insertion touches other keys only by dropping their entries. -/
theorem find?_of_insert {value : ν} {now : Nat} (hne : other ≠ key)
    (h : (c.insert key value now).2.find? other = some e) : c.find? other = some e := by
  simp only [insert, find?, List.lookup_append] at h
  have hfresh : List.lookup other [(key, (⟨value, now, (c.makeRoom key).2.nextSequence⟩ : Entry ν))] =
      none := by
    rw [List.lookup_cons, show (other == key) = false from beq_eq_false_iff_ne.2 hne]
    rfl
  rw [hfresh, Option.or_none] at h
  exact find?_of_makeRoom h

theorem insert_evicts {value : ν} {now : Nat} (hne : other ≠ key) (hsome : c.find? other = some e)
    (hnone : (c.insert key value now).2.find? other = none) :
    (c.insert key value now).1 = some other := by
  have hgone : (c.makeRoom key).2.find? other = none := by
    simp only [insert, find?, List.lookup_append, Option.or_eq_none_iff] at hnone
    exact hnone.1
  show (c.makeRoom key).1 = some other
  unfold makeRoom at hgone ⊢
  split at hgone
  · rw [find?_remove_of_ne c hne, hsome] at hgone
    cases hgone
  · split at hgone
    · rename_i hnew hfull
      rw [if_neg hnew, if_pos hfull]
      unfold dropOldest at hgone ⊢
      split at hgone
      · rename_i oldest _ _
        rw [find?, lookup_filter_ne] at hgone
        split at hgone
        · rename_i heq
          rw [heq]
        · rw [← find?, hsome] at hgone
          cases hgone
      · rw [hsome] at hgone
        cases hgone
    · rw [hsome] at hgone
      cases hgone

end Lending.Cache
