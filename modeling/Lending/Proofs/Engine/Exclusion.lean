import Lending.Proofs.Cache.Slots
import Lending.Proofs.Engine.Traffic

/-!
# One caller at a time

No two callers of one key have a lock at the same time, in whatever order all callers take their steps.
The records of slots come and go with those who hold them; what every step keeps is that the table counts
exactly the holders there are, so that the slot of a caller stays the one that is recorded for its key.
-/

namespace Lending

/-- The table counts these callers, and has a record of the slot of each of them. -/
structure Accounts (slots : SlotTable CacheKey) (callers : List Caller) : Prop where
  unambiguous : slots.Unambiguous
  recorded : ∀ c ∈ callers, ∀ slot, c.slot? = some slot → (c.key, slot) ∈ slots.records
  held_perm : slots.held.Perm (callers.flatMap Caller.handles)
  locked_perm : slots.locked.Perm (callers.filterMap Caller.lock?)
  locked_nodup : slots.locked.Nodup

namespace Accounts

variable {slots : SlotTable CacheKey} {callers others : List Caller} {c c' : Caller} {slot : Nat}

theorem of_idle (hheld : slots.held = []) (hlocked : slots.locked = []) : Accounts slots [] where
  unambiguous := by simp [SlotTable.Unambiguous, SlotTable.prune, hheld]
  recorded c hc := nomatch hc
  held_perm := by simp [hheld]
  locked_perm := by simp [hlocked]
  locked_nodup := by simp [hlocked]

theorem perm (h : Accounts slots callers) {callers' : List Caller} (hperm : callers.Perm callers') :
    Accounts slots callers' where
  unambiguous := h.unambiguous
  recorded c hc := h.recorded c (hperm.mem_iff.2 hc)
  held_perm := h.held_perm.trans (hperm.flatMap_right _)
  locked_perm := h.locked_perm.trans (hperm.filterMap _)
  locked_nodup := h.locked_nodup

theorem mem_held (h : Accounts slots callers) (hc : c ∈ callers)
    (hslot : c.slot? = some slot) : slot ∈ slots.held := by
  refine h.held_perm.mem_iff.2 (List.mem_flatMap.2 ⟨c, hc, ?_⟩)
  rw [Caller.handles, hslot]
  simp

/-- The records stay right for a caller who holds no other slot than before. -/
theorem recorded_of_slot? (h : Accounts slots (c :: others)) (hkey : c'.key = c.key)
    (hslot : ∀ slot, c'.slot? = some slot → c.slot? = some slot) :
    ∀ d ∈ c' :: others, ∀ slot, d.slot? = some slot → (d.key, slot) ∈ slots.records := by
  refine List.forall_mem_cons.2 ⟨fun slot hslot' => ?_, ?_⟩
  · rw [hkey]
    exact h.recorded c List.mem_cons_self slot (hslot slot hslot')
  · exact fun d hd => h.recorded d (List.mem_cons_of_mem c hd)

/-! ### Steps -/

/-- A caller who has neither more nor fewer slots and locks than before may stand for itself. -/
theorem stay (h : Accounts slots (c :: others)) (hkey : c'.key = c.key)
    (hslot : c'.slot? = c.slot?) (hlock : c'.lock? = c.lock?) :
    Accounts slots (c' :: others) where
  unambiguous := h.unambiguous
  recorded := h.recorded_of_slot? hkey fun slot hslot' => hslot ▸ hslot'
  held_perm := by
    have hhandles : c'.handles = c.handles := by rw [Caller.handles, Caller.handles, hslot, hlock]
    simpa only [List.flatMap_cons, hhandles] using h.held_perm
  locked_perm := by simpa only [List.filterMap_cons, hlock] using h.locked_perm
  locked_nodup := h.locked_nodup

theorem take (h : Accounts slots (c :: others)) (hkey : c'.key = c.key)
    (hslot : c.slot? = none) (hlock : c.lock? = none)
    (hslot' : c'.slot? = some (slots.take c.key).1) (hlock' : c'.lock? = none) :
    Accounts (slots.take c.key).2 (c' :: others) where
  unambiguous := h.unambiguous.take c.key
  recorded d hd slot hd' := by
    rcases List.mem_cons.1 hd with rfl | hd
    · rw [hslot'] at hd'
      rw [hkey, ← Option.some.inj hd']
      exact slots.mem_take_records c.key
    · -- the record of a slot that somebody holds is not pruned
      have hmem : d ∈ c :: others := List.mem_cons_of_mem c hd
      exact SlotTable.take_records_of_held c.key (h.recorded d hmem slot hd') (h.mem_held hmem hd')
  held_perm := by
    have hheld := h.held_perm
    rw [SlotTable.take_held, List.flatMap_cons, Caller.handles, hslot', hlock']
    rw [List.flatMap_cons, Caller.handles, hslot, hlock] at hheld
    exact hheld.cons _
  locked_perm := by
    simpa only [SlotTable.take_locked, List.filterMap_cons, hlock, hlock'] using h.locked_perm
  locked_nodup := by
    rw [SlotTable.take_locked]
    exact h.locked_nodup

theorem lock (h : Accounts slots (c :: others)) (hkey : c'.key = c.key)
    (hfree : slot ∉ slots.locked) (hslot : c.slot? = some slot) (hlock : c.lock? = none)
    (hslot' : c'.slot? = some slot) (hlock' : c'.lock? = some slot) :
    Accounts { slots with held := slot :: slots.held, locked := slot :: slots.locked }
      (c' :: others) where
  unambiguous := by
    refine h.unambiguous.of_held_subset rfl fun other hother => ?_
    rcases List.mem_cons.1 hother with rfl | hother
    · exact h.mem_held List.mem_cons_self hslot
    · exact hother
  recorded := h.recorded_of_slot? hkey fun _ hother => hslot.trans (hslot'.symm.trans hother)
  held_perm := by
    have hheld := h.held_perm
    rw [List.flatMap_cons, Caller.handles, hslot, hlock] at hheld
    rw [List.flatMap_cons, Caller.handles, hslot', hlock']
    exact hheld.cons slot
  locked_perm := by
    have hlocked := h.locked_perm
    rw [List.filterMap_cons_none hlock] at hlocked
    rw [List.filterMap_cons_some hlock']
    exact hlocked.cons slot
  locked_nodup := List.nodup_cons.2 ⟨hfree, h.locked_nodup⟩

theorem unlock (h : Accounts slots (c :: others)) (hkey : c'.key = c.key)
    (hslot : c.slot? = some slot) (hlock : c.lock? = some slot)
    (hslot' : c'.slot? = some slot) (hlock' : c'.lock? = none) :
    Accounts (slots.unlock slot) (c' :: others) where
  unambiguous := h.unambiguous.of_held_subset rfl fun _ hother => List.mem_of_mem_erase hother
  recorded := h.recorded_of_slot? hkey fun _ hother => hslot.trans (hslot'.symm.trans hother)
  held_perm := by
    have hheld := h.held_perm.erase slot
    rw [List.flatMap_cons, Caller.handles, hslot, hlock] at hheld
    rw [List.flatMap_cons, Caller.handles, hslot', hlock']
    show (slots.held.erase slot).Perm _
    simpa using hheld
  locked_perm := by
    have hlocked := h.locked_perm.erase slot
    rw [List.filterMap_cons_some hlock, List.erase_cons_head] at hlocked
    rw [List.filterMap_cons_none hlock']
    exact hlocked
  locked_nodup := h.locked_nodup.erase slot

theorem drop (h : Accounts slots (c :: others)) (hkey : c'.key = c.key)
    (hslot : c.slot? = some slot) (hlock : c.lock? = none)
    (hslot' : c'.slot? = none) (hlock' : c'.lock? = none) :
    Accounts (slots.drop slot) (c' :: others) where
  unambiguous := h.unambiguous.of_held_subset rfl fun _ hother => List.mem_of_mem_erase hother
  recorded := h.recorded_of_slot? hkey fun _ hother => nomatch hslot'.symm.trans hother
  held_perm := by
    have hheld := h.held_perm.erase slot
    rw [List.flatMap_cons, Caller.handles, hslot, hlock] at hheld
    rw [List.flatMap_cons, Caller.handles, hslot', hlock']
    show (slots.held.erase slot).Perm _
    simpa using hheld
  locked_perm := by
    have hlocked := h.locked_perm
    rw [List.filterMap_cons_none hlock] at hlocked
    rw [List.filterMap_cons_none hlock']
    exact hlocked
  locked_nodup := h.locked_nodup

theorem arrive (h : Accounts slots callers) (call : Call) :
    Accounts slots (callers ++ [.arrive call]) where
  unambiguous := h.unambiguous
  recorded := by
    refine List.forall_mem_append.2 ⟨h.recorded, List.forall_mem_singleton.2 ?_⟩
    intro slot hslot
    cases hslot
  held_perm := by
    rw [List.flatMap_append]
    have hnone : [Caller.arrive call].flatMap Caller.handles = [] := rfl
    rw [hnone, List.append_nil]
    exact h.held_perm
  locked_perm := by
    have hnone : [Caller.arrive call].filterMap Caller.lock? = [] := rfl
    rw [List.filterMap_append, hnone, List.append_nil]
    exact h.locked_perm
  locked_nodup := h.locked_nodup

theorem step {e e' : Engine} {now : Nat} (h : Accounts e.slots (c :: others))
    (hstep : c.step? e now = some (e', c')) : Accounts e'.slots (c' :: others) := by
  obtain ⟨hcall, hstep⟩ := Caller.step_of_step? hstep
  obtain ⟨call, phase⟩ := c
  obtain ⟨call', phase'⟩ := c'
  obtain rfl : call' = call := hcall
  cases hstep with
  | refused => exact h.stay rfl rfl rfl
  | hit => exact h.stay rfl rfl rfl
  | miss => exact h.stay rfl rfl rfl
  | take => exact h.take rfl rfl rfl rfl rfl
  | lock hfree => exact h.lock rfl hfree rfl rfl rfl rfl
  | hitAgain => exact h.stay rfl rfl rfl
  | missAgain => exact h.stay rfl rfl rfl
  | compute =>
      rw [Engine.compute_slots]
      exact h.stay rfl rfl rfl
  | store => exact h.stay rfl rfl rfl
  | unlock => exact h.unlock rfl rfl rfl rfl rfl
  | drop => exact h.drop rfl rfl rfl rfl rfl

/-! ### What the accounts show -/

theorem slot_eq (h : Accounts slots callers) {d : Caller} (hc : c ∈ callers) (hd : d ∈ callers)
    (hkey : c.key = d.key) {first second : Nat} (hfirst : c.slot? = some first)
    (hsecond : d.slot? = some second) : first = second :=
  h.unambiguous.eq (h.recorded c hc first hfirst) (h.mem_held hc hfirst)
    (hkey ▸ h.recorded d hd second hsecond) (h.mem_held hd hsecond)

theorem lock?_eq_none (h : Accounts slots (c :: others)) (hlock : c.lock? = some slot) :
    ∀ d ∈ others, d.key = c.key → d.lock? = none := by
  intro d hd hkey
  by_contra hne
  obtain ⟨other, hother⟩ := Option.ne_none_iff_exists'.1 hne
  obtain rfl : slot = other :=
    h.slot_eq List.mem_cons_self (List.mem_cons_of_mem c hd) hkey.symm (Caller.slot?_of_lock? hlock)
      (Caller.slot?_of_lock? hother)
  have hnodup := h.locked_perm.nodup_iff.1 h.locked_nodup
  rw [List.filterMap_cons_some hlock, List.nodup_cons] at hnodup
  exact hnodup.1 (List.mem_filterMap.2 ⟨d, hd, hother⟩)

theorem exists_of_mem_locked (h : Accounts slots callers) (hslot : slot ∈ slots.locked) :
    ∃ c ∈ callers, c.lock? = some slot :=
  List.mem_filterMap.1 (h.locked_perm.mem_iff.1 hslot)

end Accounts

/-! ### Runs -/

namespace Traffic

theorem accounts_move {t : Traffic} (h : Accounts t.engine.slots t.callers) (m : Move) :
    Accounts (t.move m).engine.slots (t.move m).callers := by
  cases m with
  | arrives call => exact h.arrive call
  | proceeds number now =>
      rcases t.move_proceeds number now with ⟨hsame, -⟩ | ⟨c, c', others, hbefore, hstep, hafter, -⟩
      · rw [hsame]
        exact h
      · exact ((h.perm hbefore).step hstep).perm hafter.symm
  | invalidates a => exact h
  | registers p =>
      show Accounts (t.engine.register p).2.slots t.callers
      rw [Engine.register_slots]
      exact h
  | unregisters id => exact h

theorem accounts_run {t : Traffic} (h : Accounts t.engine.slots t.callers) (moves : List Move) :
    Accounts (t.run moves).engine.slots (t.run moves).callers := by
  induction moves generalizing t with
  | nil => exact h
  | cons m moves ih => exact ih (accounts_move h m)

theorem eq_of_lock? {t : Traffic} (h : Accounts t.engine.slots t.callers) {i j : Nat} {c d : Caller}
    (hc : t.callers[i]? = some c) (hd : t.callers[j]? = some d) (hkey : c.key = d.key)
    (hlock : c.lock?.isSome) (hlock' : d.lock?.isSome) : i = j := by
  by_contra hne
  obtain ⟨slot, hslot⟩ := Option.isSome_iff_exists.1 hlock
  obtain ⟨hlt, rfl⟩ := List.getElem?_eq_some_iff.1 hc
  have hsplit : t.callers.Perm (t.callers[i] :: t.callers.eraseIdx i) :=
    (List.getElem_cons_eraseIdx_perm hlt).symm
  have hmem : d ∈ t.callers.eraseIdx i := List.mem_eraseIdx_iff_getElem?.2 ⟨j, Ne.symm hne, hd⟩
  have hnone := (h.perm hsplit).lock?_eq_none hslot d hmem hkey.symm
  rw [hnone] at hlock'
  cases hlock'

/-- As long as somebody has no answer, somebody can take a step. -/
theorem answered_of_stuck {t : Traffic} (h : Accounts t.engine.slots t.callers)
    (hstuck : ∀ c ∈ t.callers, ∃ now, c.step? t.engine now = none) :
    ∀ c ∈ t.callers, ∃ answer, c.phase = .answered answer := by
  intro c hc
  -- Who waits for a lock waits for somebody who has it, and whoever has a lock can go on.
  obtain ⟨now, hnone⟩ := hstuck c hc
  rcases Caller.step?_eq_none hnone with ⟨slot, -, hlocked⟩ | hanswered
  · obtain ⟨d, hd, hlock⟩ := h.exists_of_mem_locked hlocked
    obtain ⟨now', hnone'⟩ := hstuck d hd
    rcases Caller.step?_eq_none hnone' with ⟨slot', hphase, -⟩ | ⟨answer, hphase⟩
    · rw [Caller.lock?, hphase] at hlock
      cases hlock
    · rw [Caller.lock?, hphase] at hlock
      cases hlock
  · exact hanswered

end Traffic
end Lending
