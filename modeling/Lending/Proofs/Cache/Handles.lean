import Mathlib.Data.List.Dedup
import Mathlib.Data.List.Perm.Basic
import Lending.Proofs.Cache.Slots

/-!
# Handles on slots

Callers ask for slots and give them back as they like. Two handles that live at the same time are on one slot
exactly if they were given out for one key, so what is in flight is the number of keys with a living handle.
Records of other keys may stay behind when handles are given back, but not for longer than until somebody
asks for a slot.

What every event keeps is that the table counts the living handles as holders, no more and no fewer, and has
the record of each of them.
-/

namespace Lending

/-- A handle on a slot, and the key for which it was given out. -/
structure Handle (κ : Type) where
  key : κ
  slot : ℕ
deriving DecidableEq

/-- A table of slots, and the handles on them that live. -/
structure Occupancy (κ : Type) where
  table : SlotTable κ
  handles : List (Handle κ)

namespace Occupancy

variable {κ : Type}

def vacant : Occupancy κ := ⟨.empty, []⟩

/-- What happens to the slots. The handle that is dropped is named by its place among those that live. -/
inductive Event (κ : Type) where
  | takes (key : κ)
  | drops (place : ℕ)

def perform [DecidableEq κ] (o : Occupancy κ) : Event κ → Occupancy κ
  | .takes key => ⟨(o.table.take key).2, o.handles ++ [⟨key, (o.table.take key).1⟩]⟩
  | .drops place =>
    match o.handles[place]? with
    | some handle => ⟨o.table.drop handle.slot, o.handles.eraseIdx place⟩
    | none => o

def run [DecidableEq κ] (o : Occupancy κ) (events : List (Event κ)) : Occupancy κ :=
  events.foldl perform o

/-- The table agrees with the handles that live. -/
structure Tallied (o : Occupancy κ) : Prop where
  unambiguous : o.table.Unambiguous
  numbered : o.table.Numbered
  recorded : ∀ handle ∈ o.handles, (handle.key, handle.slot) ∈ o.table.records
  held_perm : o.table.held.Perm (o.handles.map Handle.slot)

namespace Tallied

variable {o : Occupancy κ}

theorem vacant : (vacant : Occupancy κ).Tallied where
  unambiguous := List.nodup_nil
  numbered := ⟨List.nodup_nil, fun _ hrecord => nomatch hrecord⟩
  recorded _ hhandle := nomatch hhandle
  held_perm := .nil

theorem mem_held (h : o.Tallied) {handle : Handle κ} (hmem : handle ∈ o.handles) :
    handle.slot ∈ o.table.held :=
  h.held_perm.mem_iff.2 (List.mem_map_of_mem hmem)

theorem slot_eq_iff (h : o.Tallied) {first second : Handle κ} (hfirst : first ∈ o.handles)
    (hsecond : second ∈ o.handles) : first.slot = second.slot ↔ first.key = second.key := by
  have hrecord := h.recorded first hfirst
  have hrecord' := h.recorded second hsecond
  constructor
  · intro hslot
    exact h.numbered.eq hrecord (hslot ▸ hrecord')
  · intro hkey
    exact h.unambiguous.eq hrecord (h.mem_held hfirst) (hkey ▸ hrecord') (h.mem_held hsecond)

variable [DecidableEq κ]

/-- The records of slots that somebody holds are one for each key with a living handle. -/
theorem perm_dedup (h : o.Tallied) :
    (o.table.prune.records.map Prod.fst).Perm (o.handles.map Handle.key).dedup := by
  refine (List.perm_ext_iff_of_nodup h.unambiguous (List.nodup_dedup _)).2 fun key => ?_
  rw [List.mem_dedup, List.mem_map, List.mem_map]
  constructor
  · rintro ⟨⟨key, slot⟩, hrecord, rfl⟩
    obtain ⟨hrecord, hheld⟩ := SlotTable.mem_prune_records.1 hrecord
    obtain ⟨handle, hmem, rfl⟩ := List.mem_map.1 (h.held_perm.mem_iff.1 hheld)
    exact ⟨handle, hmem, h.numbered.eq (h.recorded handle hmem) hrecord⟩
  · rintro ⟨handle, hmem, rfl⟩
    exact ⟨_, SlotTable.mem_prune_records.2 ⟨h.recorded handle hmem, h.mem_held hmem⟩, rfl⟩

theorem inflight_eq (h : o.Tallied) : o.table.inflight = (o.handles.map Handle.key).dedup.length := by
  rw [← h.perm_dedup.length_eq, List.length_map]
  rfl

/-! ### Events -/

theorem take (h : o.Tallied) (key : κ) : (o.perform (.takes key)).Tallied where
  unambiguous := h.unambiguous.take key
  numbered := h.numbered.take key
  recorded handle hmem := by
    rcases List.mem_append.1 hmem with hold | hnew
    · -- the record of a slot that somebody holds is not pruned
      exact SlotTable.take_records_of_held key (h.recorded handle hold) (h.mem_held hold)
    · obtain rfl := List.mem_singleton.1 hnew
      exact o.table.mem_take_records key
  held_perm := by
    simp only [perform, SlotTable.take_held, List.map_append, List.map_singleton]
    exact (h.held_perm.cons _).trans (List.perm_append_singleton _ _).symm

theorem drop (h : o.Tallied) (place : ℕ) : (o.perform (.drops place)).Tallied := by
  rw [perform]
  split
  · rename_i handle hplace
    obtain ⟨hlt, rfl⟩ := List.getElem?_eq_some_iff.1 hplace
    constructor
    case unambiguous => exact h.unambiguous.of_held_subset rfl fun _ hslot => List.mem_of_mem_erase hslot
    case numbered => exact ⟨h.numbered.nodup, h.numbered.lt_nextSlot⟩
    case recorded => exact fun handle hmem => h.recorded handle (List.mem_of_mem_eraseIdx hmem)
    case held_perm =>
      have hsplit := (List.getElem_cons_eraseIdx_perm hlt).symm.map Handle.slot
      have hheld := (h.held_perm.trans hsplit).erase o.handles[place].slot
      rwa [List.map_cons, List.erase_cons_head] at hheld
  · exact h

theorem run (h : o.Tallied) (events : List (Event κ)) : (o.run events).Tallied := by
  induction events generalizing o with
  | nil => exact h
  | cons event events ih =>
      cases event with
      | takes key => exact ih (h.take key)
      | drops place => exact ih (h.drop place)

end Tallied

/-- **Slots follow the handles.** After any events two living handles are on one slot exactly if they are for
one key, and as many slots are in flight as there are keys with a living handle. Right after somebody asked
for a slot, the table has one record for each of these keys and no other. -/
theorem slots_follow_handles [DecidableEq κ] (events : List (Event κ)) :
    let o := (vacant : Occupancy κ).run events
    (∀ first ∈ o.handles, ∀ second ∈ o.handles, first.slot = second.slot ↔ first.key = second.key) ∧
    o.table.inflight = (o.handles.map Handle.key).dedup.length ∧
    ∀ key, ((o.perform (.takes key)).table.records.map Prod.fst).Perm
      ((o.perform (.takes key)).handles.map Handle.key).dedup := by
  intro o
  have htallied : o.Tallied := Tallied.vacant.run events
  refine ⟨?shared, htallied.inflight_eq, fun key => ?pruned⟩
  case shared => exact fun first hfirst second hsecond => htallied.slot_eq_iff hfirst hsecond
  case pruned =>
    have hperm := (htallied.take key).perm_dedup
    have hrecords : (o.perform (.takes key)).table.prune.records = (o.perform (.takes key)).table.records :=
      o.table.prune_take_records key
    rwa [hrecords] at hperm

example :
    let o := (vacant : Occupancy ℕ).run [.takes 1, .drops 0]
    o.table.inflight = 0 ∧ o.table.records = [(1, 0)] ∧ (o.table.take 2).2.records = [(2, 1)] := by
  decide

end Occupancy
end Lending
