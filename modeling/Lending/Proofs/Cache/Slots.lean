import Mathlib.Data.List.Nodup
import Lending.Cache.Slot
import Lending.Proofs.Lookup

/-!
# Slots and those who hold them

The table keeps at most one record of each key whose slot somebody holds. Asking for a slot does no harm
to that: the records of slots that nobody holds go, the others stay, and the slot that was given out is
recorded under its key. Nor does any slot get a second record, since a number that was given out is never
given out again.
-/

namespace Lending.SlotTable

variable {κ : Type} {t : SlotTable κ}

/-- No key has two records of slots that somebody holds. -/
def Unambiguous (t : SlotTable κ) : Prop := (t.prune.records.map Prod.fst).Nodup

theorem mem_prune_records {record : κ × Nat} :
    record ∈ t.prune.records ↔ record ∈ t.records ∧ record.2 ∈ t.held := by
  simp only [prune, List.mem_filter, List.contains_iff_mem]

theorem Unambiguous.eq (h : t.Unambiguous) {key : κ} {first second : Nat}
    (hfirst : (key, first) ∈ t.records) (hfirstHeld : first ∈ t.held)
    (hsecond : (key, second) ∈ t.records) (hsecondHeld : second ∈ t.held) : first = second := by
  have heq := List.inj_on_of_nodup_map h (mem_prune_records.2 ⟨hfirst, hfirstHeld⟩)
    (mem_prune_records.2 ⟨hsecond, hsecondHeld⟩) rfl
  exact congrArg Prod.snd heq

/-- A table stays unambiguous as long as no further slot is held. -/
theorem Unambiguous.of_held_subset {t' : SlotTable κ} (h : t.Unambiguous)
    (hrecords : t'.records = t.records) (hheld : ∀ slot ∈ t'.held, slot ∈ t.held) :
    t'.Unambiguous := by
  have hsublist : t'.prune.records.Sublist t.prune.records := by
    simp only [prune, hrecords]
    refine List.monotone_filter_right _ fun record hrecord => ?_
    rw [List.contains_iff_mem] at hrecord ⊢
    exact hheld record.2 hrecord
  exact h.sublist (hsublist.map _)

/-- No slot has two records, and none that is recorded will be given out as a new one. -/
structure Numbered (t : SlotTable κ) : Prop where
  nodup : (t.records.map Prod.snd).Nodup
  lt_nextSlot : ∀ record ∈ t.records, record.2 < t.nextSlot

theorem Numbered.eq (h : t.Numbered) {first second : κ} {slot : Nat} (hfirst : (first, slot) ∈ t.records)
    (hsecond : (second, slot) ∈ t.records) : first = second :=
  congrArg Prod.fst (List.inj_on_of_nodup_map h.nodup hfirst hsecond rfl)

theorem Numbered.prune (h : t.Numbered) : t.prune.Numbered where
  nodup := h.nodup.sublist (List.filter_sublist.map _)
  lt_nextSlot record hrecord := h.lt_nextSlot record (mem_prune_records.1 hrecord).1

theorem nodup_map_append_singleton {β : Type} {f : κ × Nat → β} {records : List (κ × Nat)} {new : κ × Nat}
    (h : (records.map f).Nodup) (hnew : ∀ record ∈ records, f record ≠ f new) :
    ((records ++ [new]).map f).Nodup := by
  rw [List.map_append, List.map_singleton, (List.perm_append_singleton _ _).nodup_iff, List.nodup_cons]
  refine ⟨fun hmem => ?_, h⟩
  obtain ⟨record, hrecord, heq⟩ := List.mem_map.1 hmem
  exact hnew record hrecord heq

/-! ### Asking for a slot -/

variable [DecidableEq κ]

/-- Whoever asks gets the slot that somebody holds under the key, or else a new one. -/
theorem take_cases (t : SlotTable κ) (key : κ) :
    (∃ slot, (key, slot) ∈ t.prune.records ∧
      t.take key = (slot, { t.prune with held := slot :: t.held })) ∨
    (∀ record ∈ t.prune.records, record.1 ≠ key) ∧
      t.take key = (t.nextSlot,
        { t.prune with
          records := t.prune.records ++ [(key, t.nextSlot)]
          held := t.nextSlot :: t.held
          nextSlot := t.nextSlot + 1 }) := by
  unfold take
  dsimp only
  split
  · rename_i slot hslot
    exact Or.inl ⟨slot, mem_of_lookup_eq_some hslot, rfl⟩
  · rename_i hnone
    refine Or.inr ⟨fun record hrecord => ?_, rfl⟩
    exact Ne.symm (bne_iff_ne.1 (List.lookup_eq_none_iff.1 hnone record hrecord))

theorem take_held (t : SlotTable κ) (key : κ) :
    (t.take key).2.held = (t.take key).1 :: t.held := by
  rcases t.take_cases key with ⟨slot, -, htake⟩ | ⟨-, htake⟩ <;> rw [htake]

theorem take_locked (t : SlotTable κ) (key : κ) : (t.take key).2.locked = t.locked := by
  rcases t.take_cases key with ⟨slot, -, htake⟩ | ⟨-, htake⟩ <;> rw [htake] <;> rfl

theorem mem_take_records (t : SlotTable κ) (key : κ) :
    (key, (t.take key).1) ∈ (t.take key).2.records := by
  rcases t.take_cases key with ⟨slot, hslot, htake⟩ | ⟨-, htake⟩ <;> rw [htake]
  · exact hslot
  · exact List.mem_append_right _ List.mem_cons_self

theorem take_records_of_held (key : κ) {record : κ × Nat}
    (hrecord : record ∈ t.records) (hheld : record.2 ∈ t.held) :
    record ∈ (t.take key).2.records := by
  have hpruned : record ∈ t.prune.records := mem_prune_records.2 ⟨hrecord, hheld⟩
  rcases t.take_cases key with ⟨slot, -, htake⟩ | ⟨-, htake⟩ <;> rw [htake]
  · exact hpruned
  · exact List.mem_append_left _ hpruned

/-- Right after somebody asked, there is no record of a slot that nobody holds. -/
theorem prune_take_records (t : SlotTable κ) (key : κ) :
    (t.take key).2.prune.records = (t.take key).2.records := by
  refine List.filter_eq_self.2 fun record hrecord => ?_
  rw [List.contains_iff_mem, take_held, List.mem_cons]
  rcases t.take_cases key with ⟨slot, -, htake⟩ | ⟨-, htake⟩ <;> rw [htake] at hrecord ⊢
  · exact Or.inr (mem_prune_records.1 hrecord).2
  · rcases List.mem_append.1 hrecord with hkept | hfresh
    · exact Or.inr (mem_prune_records.1 hkept).2
    · obtain rfl := List.mem_singleton.1 hfresh
      exact Or.inl rfl

theorem Unambiguous.take (h : t.Unambiguous) (key : κ) :
    (t.take key).2.Unambiguous := by
  rw [Unambiguous, prune_take_records]
  rcases t.take_cases key with ⟨slot, -, htake⟩ | ⟨hnone, htake⟩ <;> rw [htake]
  · exact h
  · exact nodup_map_append_singleton h hnone

theorem Numbered.take (h : t.Numbered) (key : κ) : (t.take key).2.Numbered := by
  obtain ⟨hnodup, hlt⟩ := h.prune
  rcases t.take_cases key with ⟨slot, -, htake⟩ | ⟨-, htake⟩ <;> rw [htake]
  · exact ⟨hnodup, hlt⟩
  · constructor
    case nodup =>
      exact nodup_map_append_singleton hnodup fun record hrecord => Nat.ne_of_lt (hlt record hrecord)
    case lt_nextSlot =>
      intro record hrecord
      rcases List.mem_append.1 hrecord with hkept | hfresh
      · exact Nat.lt_succ_of_lt (hlt record hkept)
      · obtain rfl := List.mem_singleton.1 hfresh
        exact Nat.lt_succ_self _

end Lending.SlotTable
