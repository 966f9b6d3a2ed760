import Mathlib.Data.List.Induction
import Lending.Proofs.Cache.Refinement

/-!
# The numbers of a cache

Entries are found by key, and keys by number. Whatever a cache has been through, each direction is the inverse
of the other, so that no number is left behind whose entry is gone. The number of an entry is the count of the
insertions before the last one of its key: numbers stand in the order in which the keys were last put in, and
what goes first to make room was put in longest ago.

Consistency alone says nothing about the past. `NumberedBy` relates a cache to the operations behind it, and
is kept by each further one.
-/

namespace Lending.Cache

variable {κ ν : Type}

/-! ### Insertions -/

/-- The key that an operation puts in. -/
def Operation.inserted? : Operation κ ν → Option κ
  | .insert key _ _ => some key
  | .get _ _ | .invalidate _ | .clear | .purge _ | .size => none

def insertionCount (operations : List (Operation κ ν)) : Nat :=
  operations.countP fun operation => operation.inserted?.isSome

/-- At this place stands the last of the operations that put in the key. -/
structure IsLastInsertion (operations : List (Operation κ ν)) (key : κ) (place : Nat) : Prop where
  inserted : ∃ operation, operations[place]? = some operation ∧ operation.inserted? = some key
  last : ∀ later operation, place < later → operations[later]? = some operation →
    operation.inserted? ≠ some key

variable {operations : List (Operation κ ν)} {operation : Operation κ ν} {key : κ} {place place' : Nat}

theorem insertionCount_concat_of_none (h : operation.inserted? = none) :
    insertionCount (operations ++ [operation]) = insertionCount operations := by
  simp [insertionCount, h]

theorem insertionCount_concat_of_some (h : operation.inserted? = some key) :
    insertionCount (operations ++ [operation]) = insertionCount operations + 1 := by
  simp [insertionCount, h]

namespace IsLastInsertion

theorem lt_length (h : IsLastInsertion operations key place) : place < operations.length := by
  obtain ⟨operation, hplace, -⟩ := h.inserted
  exact (List.getElem?_eq_some_iff.1 hplace).1

theorem take_concat (h : IsLastInsertion operations key place) (operation : Operation κ ν) :
    (operations ++ [operation]).take place = operations.take place :=
  List.take_append_of_le_length (Nat.le_of_lt h.lt_length)

theorem concat (h : IsLastInsertion operations key place) (hother : operation.inserted? ≠ some key) :
    IsLastInsertion (operations ++ [operation]) key place where
  inserted := by
    rw [List.getElem?_append_left h.lt_length]
    exact h.inserted
  last later operation' hlater hoperation' := by
    rcases Nat.lt_or_ge later operations.length with hold | hnew
    · rw [List.getElem?_append_left hold] at hoperation'
      exact h.last later operation' hlater hoperation'
    · rw [List.getElem?_append_right hnew] at hoperation'
      obtain rfl := List.mem_singleton.1 (List.mem_of_getElem? hoperation')
      exact hother

theorem concat_self (h : operation.inserted? = some key) :
    IsLastInsertion (operations ++ [operation]) key operations.length where
  inserted := ⟨operation, List.getElem?_concat_length, h⟩
  last later operation' hlater hoperation' := by
    have hlt := (List.getElem?_eq_some_iff.1 hoperation').1
    rw [List.length_append, List.length_singleton] at hlt
    omega

theorem le (h : IsLastInsertion operations key place) (h' : IsLastInsertion operations key place') :
    place' ≤ place := by
  obtain ⟨operation, hplace', hkey⟩ := h'.inserted
  exact Nat.le_of_not_lt fun hlt => h.last place' operation hlt hplace' hkey

theorem unique (h : IsLastInsertion operations key place) (h' : IsLastInsertion operations key place') :
    place = place' :=
  Nat.le_antisymm (h'.le h) (h.le h')

/-- Behind a last insertion more insertions have been made than before it. -/
theorem insertionCount_take_lt (h : IsLastInsertion operations key place) (hlt : place < place') :
    insertionCount (operations.take place) < insertionCount (operations.take place') := by
  obtain ⟨operation, hplace, hkey⟩ := h.inserted
  have hnext : operations.take (place + 1) = operations.take place ++ [operation] := by
    rw [List.take_add_one, hplace]
    rfl
  have hcount : insertionCount (operations.take (place + 1)) ≤ insertionCount (operations.take place') :=
    (List.take_sublist_take_left hlt).countP_le
  rw [hnext, insertionCount_concat_of_some hkey] at hcount
  exact hcount

theorem insertionCount_take_lt_iff {other : κ} (h : IsLastInsertion operations key place)
    (h' : IsLastInsertion operations other place') :
    insertionCount (operations.take place) < insertionCount (operations.take place') ↔ place < place' := by
  refine ⟨fun hcount => ?_, h.insertionCount_take_lt⟩
  by_contra hnot
  rcases Nat.lt_or_eq_of_le (Nat.le_of_not_lt hnot) with hlt | heq
  · exact Nat.lt_asymm hcount (h'.insertionCount_take_lt hlt)
  · rw [heq] at hcount
    exact Nat.lt_irrefl _ hcount

end IsLastInsertion

/-! ### Numbers and the past -/

variable {c d : Cache κ ν} [DecidableEq κ]

/-- The numbers of a cache are those that these operations have given out. -/
structure NumberedBy (operations : List (Operation κ ν)) (c : Cache κ ν) : Prop where
  nextSequence_eq : c.nextSequence = insertionCount operations
  sequence_eq : ∀ key e, c.find? key = some e →
    ∃ place, IsLastInsertion operations key place ∧ e.sequence = insertionCount (operations.take place)

namespace NumberedBy

theorem empty (capacity timeToLive : Nat) : NumberedBy [] (empty capacity timeToLive : Cache κ ν) where
  nextSequence_eq := rfl
  sequence_eq _ _ he := nomatch he

/-- What puts nothing in at most drops entries. -/
theorem keep (h : NumberedBy operations c) (hnone : operation.inserted? = none)
    (hnext : d.nextSequence = c.nextSequence)
    (hfind : ∀ key e, d.find? key = some e → c.find? key = some e) :
    NumberedBy (operations ++ [operation]) d where
  nextSequence_eq := by rw [hnext, h.nextSequence_eq, insertionCount_concat_of_none hnone]
  sequence_eq key e he := by
    obtain ⟨place, hplace, hsequence⟩ := h.sequence_eq key e (hfind key e he)
    refine ⟨place, hplace.concat (by simp [hnone]), ?_⟩
    rw [hplace.take_concat, hsequence]

theorem insert (h : NumberedBy operations c) (key : κ) (value : ν) (now : Nat) :
    NumberedBy (operations ++ [.insert key value now]) (c.insert key value now).2 where
  nextSequence_eq := by
    rw [insertionCount_concat_of_some rfl, ← h.nextSequence_eq, ← (makeRoom_sameSetup c key).nextSequence]
    rfl
  sequence_eq other e he := by
    by_cases heq : other = key
    · subst heq
      rw [find?_insert_self] at he
      obtain rfl := Option.some.inj he
      refine ⟨operations.length, .concat_self rfl, ?_⟩
      rw [List.take_left, ← h.nextSequence_eq, ← (makeRoom_sameSetup c other).nextSequence]
    · obtain ⟨place, hplace, hsequence⟩ := h.sequence_eq other e (find?_of_insert heq he)
      refine ⟨place, hplace.concat ?_, ?_⟩
      · exact fun hkey => heq (Option.some.inj hkey).symm
      · rw [hplace.take_concat, hsequence]

theorem perform (h : NumberedBy operations c) (operation : Operation κ ν) :
    NumberedBy (operations ++ [operation]) (c.perform operation).2 := by
  cases operation with
  | insert key value now => exact h.insert key value now
  | get key now =>
      rcases c.get_cases key now with ⟨e, -, -, hget⟩ | ⟨-, hget⟩
      · rw [Cache.perform, hget]
        exact h.keep rfl rfl fun _ _ he => he
      · rw [Cache.perform, hget]
        exact h.keep rfl (remove_sameSetup c key).nextSequence fun _ _ he => find?_of_remove he
  | invalidate key => exact h.keep rfl (remove_sameSetup c key).nextSequence fun _ _ he => find?_of_remove he
  | clear => exact h.keep rfl rfl fun _ _ he => nomatch he
  | purge now => exact h.keep rfl (purge_sameSetup c now).nextSequence fun _ _ he => find?_of_foldl_remove he
  | size => exact h.keep rfl rfl fun _ _ he => he

theorem after (capacity timeToLive : Nat) (operations : List (Operation κ ν)) :
    NumberedBy operations ((Cache.empty capacity timeToLive).after operations) := by
  induction operations using List.reverseRecOn with
  | nil => exact .empty capacity timeToLive
  | append_singleton operations operation ih =>
      rw [Cache.after, List.foldl_concat]
      exact ih.perform operation

end NumberedBy

/-! ### Both directions -/

theorem Consistent.find?_eq_some_iff (h : c.Consistent) {e : Entry ν} :
    c.find? key = some e ↔ (key, e) ∈ c.entries :=
  lookup_eq_some_iff_mem h.keys_nodup

theorem Consistent.mem_order_iff (h : c.Consistent) {number : Nat} :
    (number, key) ∈ c.order ↔ ∃ e, c.find? key = some e ∧ e.sequence = number := by
  rw [h.order_eq, List.mem_map]
  constructor
  · rintro ⟨⟨held, e⟩, hheld, hpair⟩
    obtain ⟨rfl, rfl⟩ := Prod.mk.inj hpair
    exact ⟨e, h.find?_eq_some_iff.2 hheld, rfl⟩
  · rintro ⟨e, he, rfl⟩
    exact ⟨(key, e), mem_of_find? he, rfl⟩

omit [DecidableEq κ] in
theorem Consistent.order_ascending (h : c.Consistent) : c.order.Pairwise fun a b => a.1 < b.1 := by
  rw [h.order_eq]
  exact List.pairwise_map.2 h.ascending

theorem Consistent.lookup_order_eq_some_iff (h : c.Consistent) {number : Nat} :
    c.order.lookup number = some key ↔ ∃ e, c.find? key = some e ∧ e.sequence = number := by
  have hnodup : (c.order.map Prod.fst).Nodup :=
    List.pairwise_map.2 (h.order_ascending.imp Nat.ne_of_lt)
  rw [lookup_eq_some_iff_mem hnodup, h.mem_order_iff]

theorem perform_capacity (c : Cache κ ν) (operation : Operation κ ν) :
    (c.perform operation).2.capacity = c.capacity := by
  cases operation with
  | insert key value now => exact (makeRoom_sameSetup c key).capacity
  | get key now =>
      rcases c.get_cases key now with ⟨e, -, -, hget⟩ | ⟨-, hget⟩ <;> rw [perform, hget]
      exact (remove_sameSetup c key).capacity
  | invalidate key => exact (remove_sameSetup c key).capacity
  | clear => rfl
  | purge now => exact (purge_sameSetup c now).capacity
  | size => rfl

theorem after_capacity (c : Cache κ ν) (operations : List (Operation κ ν)) :
    (c.after operations).capacity = c.capacity := by
  induction operations generalizing c with
  | nil => rfl
  | cons operation operations ih => exact (ih _).trans (perform_capacity c operation)

/-- **Keys and numbers find each other.** Whatever a cache has been through, there is one entry for a key and
one key for a number, and a number leads to a key exactly if the entry of the key has that number. All numbers
are below the next one, and they stand in the order of the last insertions of the keys. There are never more
entries than the capacity, for which 0 counts as 1. -/
theorem indexed_both_ways (capacity timeToLive : Nat) (operations : List (Operation κ ν)) :
    let c : Cache κ ν := (Cache.empty capacity timeToLive).after operations
    (c.entries.map Prod.fst).Nodup ∧ (c.order.Pairwise fun a b => a.1 < b.1) ∧
    (∀ number key, c.order.lookup number = some key ↔ ∃ e, c.find? key = some e ∧ e.sequence = number) ∧
    (∀ key e, c.find? key = some e → e.sequence < c.nextSequence ∧
      ∃ place, IsLastInsertion operations key place ∧ e.sequence = insertionCount (operations.take place)) ∧
    (∀ first e place second e' place', c.find? first = some e → c.find? second = some e' →
      IsLastInsertion operations first place → IsLastInsertion operations second place' →
        (e.sequence < e'.sequence ↔ place < place')) ∧
    c.size ≤ c.capacity ∧ c.capacity = max capacity 1 := by
  intro c
  have hc : c.Consistent := (consistent_empty capacity timeToLive).after operations
  have hnumbered : NumberedBy operations c := .after capacity timeToLive operations
  refine ⟨hc.keys_nodup, hc.order_ascending, fun _ _ => hc.lookup_order_eq_some_iff, ?numbers, ?ordered,
    hc.size_le, after_capacity _ operations⟩
  case numbers =>
    intro key e he
    exact ⟨hc.sequence_lt _ (mem_of_find? he), hnumbered.sequence_eq key e he⟩
  case ordered =>
    intro first e place second e' place' he he' hplace hplace'
    obtain ⟨found, hfound, hsequence⟩ := hnumbered.sequence_eq first e he
    obtain ⟨found', hfound', hsequence'⟩ := hnumbered.sequence_eq second e' he'
    obtain rfl := hfound.unique hplace
    obtain rfl := hfound'.unique hplace'
    rw [hsequence, hsequence', hplace.insertionCount_take_lt_iff hplace']

example :
    let c : Cache Nat Nat := (Cache.empty 2 10).after
      [.insert 1 100 0, .insert 2 200 5, .insert 1 300 6, .insert 3 400 7]
    c.order = [(2, 1), (3, 3)] ∧ c.nextSequence = 4 := by
  decide

end Lending.Cache
