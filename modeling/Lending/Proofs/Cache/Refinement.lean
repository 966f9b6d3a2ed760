import Lending.Cache.Queue
import Lending.Proofs.Cache.Consistency

/-!
# A cache is a queue

Whoever uses a cache cannot tell it from a plain queue of dated values: every reply is the same, for any
operations at any times. The queue of a consistent cache is read off its entries, and each operation on
the cache is that operation on its queue.
-/

namespace Lending

namespace Cache

/-- What may be asked of a cache. -/
inductive Operation (κ ν : Type) where
  | insert (key : κ) (value : ν) (now : Nat)
  | get (key : κ) (now : Nat)
  | invalidate (key : κ)
  | clear
  | purge (now : Nat)
  | size

/-- What is heard from a cache. -/
inductive Reply (κ ν : Type) where
  | evicted (key? : Option κ)
  | found (value? : Option ν)
  | removed (present : Bool)
  | cleared
  | purged (count : Nat)
  | size (count : Nat)
deriving DecidableEq

end Cache

open Cache (Operation Reply)

variable {κ ν : Type} [DecidableEq κ]

def Cache.perform (c : Cache κ ν) : Operation κ ν → Reply κ ν × Cache κ ν
  | .insert key value now => (.evicted (c.insert key value now).1, (c.insert key value now).2)
  | .get key now => (.found (c.get key now).1, (c.get key now).2)
  | .invalidate key => (.removed (c.invalidate key).1, (c.invalidate key).2)
  | .clear => (.cleared, c.clear)
  | .purge now => (.purged (c.purge now).1, (c.purge now).2)
  | .size => (.size c.size, c)

def Queue.perform (q : Queue κ ν) : Operation κ ν → Reply κ ν × Queue κ ν
  | .insert key value now => (.evicted (q.insert key value now).1, (q.insert key value now).2)
  | .get key now => (.found (q.get key now).1, (q.get key now).2)
  | .invalidate key => (.removed (q.invalidate key).1, (q.invalidate key).2)
  | .clear => (.cleared, q.clear)
  | .purge now => (.purged (q.purge now).1, (q.purge now).2)
  | .size => (.size q.items.length, q)

def Cache.replies (c : Cache κ ν) : List (Operation κ ν) → List (Reply κ ν)
  | [] => []
  | operation :: rest => (c.perform operation).1 :: (c.perform operation).2.replies rest

def Queue.replies (q : Queue κ ν) : List (Operation κ ν) → List (Reply κ ν)
  | [] => []
  | operation :: rest => (q.perform operation).1 :: (q.perform operation).2.replies rest

namespace Cache

variable {c : Cache κ ν}

theorem Consistent.perform (h : c.Consistent) (operation : Operation κ ν) :
    (c.perform operation).2.Consistent := by
  cases operation with
  | insert key value now => exact h.insert key value now
  | get key now => exact h.get key now
  | invalidate key => exact h.remove key
  | clear => exact h.clear
  | purge now => exact h.purge now
  | size => exact h

def after (c : Cache κ ν) (operations : List (Operation κ ν)) : Cache κ ν :=
  operations.foldl (fun c operation => (c.perform operation).2) c

theorem Consistent.after (h : c.Consistent) (operations : List (Operation κ ν)) :
    (c.after operations).Consistent := by
  induction operations generalizing c with
  | nil => exact h
  | cons operation rest ih => exact ih (h.perform operation)

/-! ### The queue of a cache -/

omit [DecidableEq κ]

def dated (held : κ × Entry ν) : Dated κ ν := ⟨held.1, held.2.value, held.2.insertedAt⟩

def queue (c : Cache κ ν) : Queue κ ν := ⟨c.entries.map dated, c.capacity, c.timeToLive⟩

theorem SameSetup.queue_eq {d : Cache κ ν} (h : SameSetup c d) :
    d.queue = { c.queue with items := d.queue.items } := by
  rw [queue, h.capacity, h.timeToLive]
  rfl

theorem queue_filter_entries (c : Cache κ ν) (keep : Dated κ ν → Bool) :
    (c.entries.filter fun held => keep (dated held)).map dated = c.queue.items.filter keep := by
  rw [queue, List.filter_map]
  rfl

theorem isFresh_queue (c : Cache κ ν) (now : Nat) (held : κ × Entry ν) :
    c.queue.isFresh now (dated held) = c.isFresh now held.2 := rfl

variable [DecidableEq κ]

theorem find?_queue (c : Cache κ ν) (key : κ) :
    c.queue.find? key = (c.find? key).map fun e => ⟨key, e.value, e.insertedAt⟩ := by
  unfold queue Queue.find? find?
  induction c.entries with
  | nil => rfl
  | cons head rest ih =>
      by_cases hkey : head.1 = key
      · rw [List.map_cons, List.find?_cons_of_pos (by simp [dated, hkey]), List.lookup_cons, hkey]
        simp [dated, hkey]
      · rw [List.map_cons, List.find?_cons_of_neg (by simp [dated, hkey]), ih, List.lookup_cons]
        have hbeq : (key == head.1) = false := beq_eq_false_iff_ne.2 (Ne.symm hkey)
        rw [hbeq]

theorem queue_remove (c : Cache κ ν) (key : κ) : (c.remove key).queue = c.queue.without key := by
  have hitems : (c.remove key).queue.items = c.queue.items.filter fun item => item.key != key := by
    rw [← queue_filter_entries, queue, remove_entries]
    rfl
  rw [(remove_sameSetup c key).queue_eq, hitems, Queue.without]

/-! ### Each operation on the queue -/

theorem queue_get (c : Cache κ ν) (key : κ) (now : Nat) :
    c.queue.get key now = ((c.get key now).1, (c.get key now).2.queue) := by
  unfold Queue.get Cache.get
  rw [find?_queue]
  cases c.find? key with
  | none => rfl
  | some e =>
      have hfresh : c.queue.isFresh now ⟨key, e.value, e.insertedAt⟩ = c.isFresh now e :=
        isFresh_queue c now (key, e)
      simp only [Option.map_some, hfresh]
      split
      · rfl
      · rw [queue_remove]

theorem queue_invalidate (c : Cache κ ν) (key : κ) :
    c.queue.invalidate key = ((c.invalidate key).1, (c.invalidate key).2.queue) := by
  rw [Queue.invalidate, Cache.invalidate, find?_queue, queue_remove, Option.isSome_map]

theorem queue_insert_of_makeRoom (c : Cache κ ν) (key : κ) (value : ν) (now : Nat) :
    (c.insert key value now).2.queue =
      { c.queue with items := (c.makeRoom key).2.queue.items ++ [⟨key, value, now⟩] } := by
  obtain ⟨-, hcapacity, htime⟩ := makeRoom_sameSetup c key
  simp only [queue, Cache.insert, List.map_append, List.map_cons, List.map_nil, hcapacity, htime]
  rfl

theorem Consistent.queue_insert (h : c.Consistent) (key : κ) (value : ν) (now : Nat) :
    c.queue.insert key value now = ((c.insert key value now).1, (c.insert key value now).2.queue) := by
  have hevicted : (c.insert key value now).1 = (c.makeRoom key).1 := rfl
  rw [queue_insert_of_makeRoom, hevicted]
  have hlength : c.queue.items.length = c.size := List.length_map _
  have hpresent : (c.queue.find? key).isSome = (c.find? key).isSome := by
    rw [find?_queue, Option.isSome_map]
  have hbound : c.queue.bound = c.capacity := rfl
  unfold Queue.insert Cache.makeRoom
  rw [hpresent, hlength, hbound]
  split
  · rw [queue_remove]
    rfl
  · split
    · rw [h.dropOldest_eq]
      simp only [queue, List.head?_map, Option.map_map, List.map_tail]
      rfl
    · rfl

theorem Consistent.queue_purge (h : c.Consistent) (now : Nat) :
    c.queue.purge now = ((c.purge now).1, (c.purge now).2.queue) := by
  have hitems : (c.purge now).2.queue.items = c.queue.items.filter (c.queue.isFresh now) := by
    rw [← queue_filter_entries, queue, h.purge_entries]
    rfl
  have hfresh : (c.queue.items.filter (c.queue.isFresh now)).length =
      (c.entries.filter fun held => c.isFresh now held.2).length := by
    rw [← hitems, queue, h.purge_entries, List.length_map]
  have hstale : (c.purge now).1 = (c.entries.filter fun held => !c.isFresh now held.2).length :=
    List.length_map _
  have hall : c.queue.items.length = c.entries.length := List.length_map _
  have hsplit := List.length_eq_length_filter_add (l := c.entries) fun held => c.isFresh now held.2
  have hcount : c.queue.items.length - (c.queue.items.filter (c.queue.isFresh now)).length =
      (c.purge now).1 := by omega
  rw [(purge_sameSetup c now).queue_eq, hitems, ← hcount]
  rfl

/-! ### Runs -/

theorem Consistent.queue_perform (h : c.Consistent) (operation : Operation κ ν) :
    c.queue.perform operation = ((c.perform operation).1, (c.perform operation).2.queue) := by
  cases operation with
  | insert key value now => rw [Queue.perform, h.queue_insert]; rfl
  | get key now => rw [Queue.perform, queue_get]; rfl
  | invalidate key => rw [Queue.perform, queue_invalidate]; rfl
  | clear => rfl
  | purge now => rw [Queue.perform, h.queue_purge]; rfl
  | size => rw [Queue.perform, queue, List.length_map]; rfl

theorem Consistent.replies_queue (h : c.Consistent) (operations : List (Operation κ ν)) :
    c.queue.replies operations = c.replies operations := by
  induction operations generalizing c with
  | nil => rfl
  | cons operation rest ih =>
      rw [Queue.replies, Cache.replies, h.queue_perform, ih (h.perform operation)]

/-- **A cache replies as a queue does**, whatever is asked of it and whatever the clock shows. -/
theorem replies_eq_queue_replies (capacity timeToLive : Nat) (operations : List (Operation κ ν)) :
    (Cache.empty capacity timeToLive : Cache κ ν).replies operations =
      (Queue.empty capacity timeToLive : Queue κ ν).replies operations :=
  ((consistent_empty capacity timeToLive).replies_queue operations).symm

end Cache
end Lending
