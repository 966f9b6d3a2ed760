import Lending.Proofs.Cache.Refinement

/-!
# Purging does not show

As long as the clock does not go back, nobody who looks up a key can tell whether stale entries were purged
or are still held. All is shown of queues: the values of one stand in the order of their age, so a purge
takes them from the front, and so does an insertion that needs room. A queue that was purged is therefore
the rest of one that was not, and what it lacks is stale (`Queue.Purged`).
-/

namespace Lending

/-! ### Clocks and look-ups -/

namespace Cache

variable {κ ν : Type}

def Operation.times : Operation κ ν → List Nat
  | .insert _ _ now | .get _ now | .purge now => [now]
  | .invalidate _ | .clear | .size => []

def Chronological (operations : List (Operation κ ν)) : Prop :=
  (operations.flatMap Operation.times).Pairwise (· ≤ ·)

instance (operations : List (Operation κ ν)) : Decidable (Chronological operations) :=
  inferInstanceAs (Decidable (List.Pairwise _ _))

/-- What the clock shows after an operation if it showed `start` before. -/
def Operation.clock (start : Nat) (operation : Operation κ ν) : Nat := operation.times.getLastD start

def Operation.isPurge : Operation κ ν → Bool
  | .purge _ => true
  | _ => false

def unpurged (operations : List (Operation κ ν)) : List (Operation κ ν) :=
  operations.filter fun operation => !operation.isPurge

def Reply.found? : Reply κ ν → Option (Option ν)
  | .found value? => some value?
  | _ => none

/-- What the look-ups among some operations found, in their order. -/
def found (replies : List (Reply κ ν)) : List (Option ν) := replies.filterMap Reply.found?

theorem found_cons (reply : Reply κ ν) (replies : List (Reply κ ν)) :
    found (reply :: replies) = reply.found?.toList ++ found replies := by
  rw [found, List.filterMap_cons]
  cases reply.found? <;> rfl

theorem clock_of_pairwise {start : Nat} {operation : Operation κ ν} {times : List Nat}
    (h : (start :: (operation.times ++ times)).Pairwise (· ≤ ·)) :
    start ≤ operation.clock start ∧ (operation.clock start :: times).Pairwise (· ≤ ·) := by
  cases operation <;> simp_all [Operation.times, Operation.clock]

end Cache

open Cache (Operation Reply)

/-! ### Queues in the order of age -/

namespace Queue

variable {κ ν : Type} {q r : Queue κ ν} {now later : Nat}

/-- At the time `now`, a queue holds at most what it may, and the older values stand first. -/
structure Orderly (q : Queue κ ν) (now : Nat) : Prop where
  keys_nodup : (q.items.map Dated.key).Nodup
  length_le : q.items.length ≤ q.bound
  bound_pos : 0 < q.bound
  ascending : q.items.Pairwise fun a b => a.insertedAt ≤ b.insertedAt
  past : ∀ item ∈ q.items, item.insertedAt ≤ now

theorem orderly_empty (capacity timeToLive : Nat) :
    (empty capacity timeToLive : Queue κ ν).Orderly 0 := by
  refine ⟨List.nodup_nil, Nat.zero_le _, Nat.le_max_right capacity 1, .nil, ?_⟩
  intro item hitem
  cases hitem

theorem Orderly.mono (h : q.Orderly now) (hle : now ≤ later) : q.Orderly later :=
  { h with past := fun item hitem => Nat.le_trans (h.past item hitem) hle }

theorem Orderly.of_sublist (h : q.Orderly now) {items : List (Dated κ ν)}
    (hitems : items.Sublist q.items) : Orderly { q with items := items } now where
  keys_nodup := h.keys_nodup.sublist (hitems.map _)
  length_le := Nat.le_trans hitems.length_le h.length_le
  bound_pos := h.bound_pos
  ascending := h.ascending.sublist hitems
  past item hitem := h.past item (hitems.subset hitem)

theorem isFresh_eq_false_of_le {item : Dated κ ν} (h : q.isFresh now item = false) (hle : now ≤ later) :
    q.isFresh later item = false := by
  simp only [isFresh, decide_eq_false_iff_not] at h ⊢
  omega

theorem Orderly.pairwise_isFresh (h : q.Orderly now) (later : Nat) :
    q.items.Pairwise fun a b => q.isFresh later a = true → q.isFresh later b = true := by
  refine h.ascending.imp fun {a b} hle hfresh => ?_
  simp only [isFresh, decide_eq_true_eq] at hfresh ⊢
  omega

/-- A list in which the chosen ones stand last falls into the others and them. -/
theorem eq_filter_not_append_filter {α : Type} {p : α → Bool} {l : List α}
    (h : l.Pairwise fun a b => p a = true → p b = true) :
    l = (l.filter fun a => !p a) ++ l.filter p := by
  induction l with
  | nil => rfl
  | cons a l ih =>
      obtain ⟨hhead, htail⟩ := List.pairwise_cons.1 h
      cases hp : p a with
      | false => simpa [hp] using ih htail
      | true =>
          have hall : ∀ b ∈ l, p b = true := fun b hb => hhead b hb hp
          have hnone : (l.filter fun a => !p a) = [] :=
            List.filter_eq_nil_iff.2 fun b hb => by simp [hall b hb]
          simp [hp, hnone, List.filter_eq_self.2 hall]

/-! ### A queue that was purged -/

/-- What `r` lacks of the queue `q` stands at the front of that and is stale. -/
def Purged (now : Nat) (q r : Queue κ ν) : Prop :=
  ∃ old, q = { r with items := old ++ r.items } ∧ ∀ item ∈ old, r.isFresh now item = false

namespace Purged

theorem refl (now : Nat) (q : Queue κ ν) : Purged now q q :=
  ⟨[], rfl, fun _ hitem => (nomatch hitem)⟩

theorem mono (h : Purged now q r) (hle : now ≤ later) : Purged later q r := by
  obtain ⟨old, hq, hstale⟩ := h
  exact ⟨old, hq, fun item hitem => isFresh_eq_false_of_le (hstale item hitem) hle⟩

theorem isFresh_eq (h : Purged now q r) : q.isFresh = r.isFresh := by
  obtain ⟨old, rfl, -⟩ := h
  rfl

theorem purge (h : Purged now q r) (hq : q.Orderly now) : Purged now q (r.purge now).2 := by
  obtain ⟨old, rfl, hstale⟩ := h
  have hrest : r.items = (r.items.filter fun item => !r.isFresh now item) ++ r.items.filter (r.isFresh now) :=
    eq_filter_not_append_filter
      ((hq.pairwise_isFresh now).sublist (List.sublist_append_right old r.items))
  refine ⟨old ++ r.items.filter fun item => !r.isFresh now item, ?_, ?_⟩
  · simp only [Queue.purge, List.append_assoc, ← hrest]
  · intro item hitem
    rcases List.mem_append.1 hitem with hold | hpurged
    · exact hstale item hold
    · have hnot : (!r.isFresh now item) = true := (List.mem_filter.1 hpurged).2
      rwa [Bool.not_eq_true'] at hnot

end Purged

/-! ### Operations on queues in order -/

variable [DecidableEq κ] {key : κ}

theorem find?_eq_none_iff : q.find? key = none ↔ ∀ item ∈ q.items, item.key ≠ key := by
  simp [find?, List.find?_eq_none]

theorem without_of_find?_eq_none (h : q.find? key = none) : q.without key = q := by
  rw [without, List.filter_eq_self.2 fun item hitem => by simpa using find?_eq_none_iff.1 h item hitem]

theorem Orderly.without (h : q.Orderly now) (key : κ) : (q.without key).Orderly now :=
  h.of_sublist List.filter_sublist

theorem get_cases (q : Queue κ ν) (key : κ) (now : Nat) :
    (∃ item, q.find? key = some item ∧ q.isFresh now item = true ∧ q.get key now = (some item.value, q)) ∨
      ((∀ item, q.find? key = some item → q.isFresh now item = false) ∧
        q.get key now = (none, q.without key)) := by
  unfold get
  cases hfind : q.find? key with
  -- nothing is held, so removing the key is no change: one case less for the callers
  | none => exact Or.inr ⟨fun item hitem => (nomatch hitem), by rw [without_of_find?_eq_none hfind]⟩
  | some item =>
      cases hfresh : q.isFresh now item with
      | true => exact Or.inl ⟨item, rfl, hfresh, by simp [hfresh]⟩
      | false => exact Or.inr ⟨fun other hother => Option.some.inj hother ▸ hfresh, by simp [hfresh]⟩

/-- What stays when a value is put under a key. -/
def room (q : Queue κ ν) (key : κ) : List (Dated κ ν) :=
  if (q.find? key).isSome then (q.without key).items
  else if q.bound ≤ q.items.length then q.items.tail
  else q.items

theorem insert_queue (q : Queue κ ν) (key : κ) (value : ν) (now : Nat) :
    (q.insert key value now).2 = { q with items := q.room key ++ [⟨key, value, now⟩] } := by
  unfold insert room
  split
  · rfl
  · split <;> rfl

theorem room_sublist (q : Queue κ ν) (key : κ) : (q.room key).Sublist q.items := by
  unfold room
  split
  · exact List.filter_sublist
  · split
    · exact List.tail_sublist _
    · exact List.Sublist.refl _

theorem key_ne_of_mem_room {item : Dated κ ν} (h : item ∈ q.room key) : item.key ≠ key := by
  cases hfind : q.find? key with
  | none => exact find?_eq_none_iff.1 hfind item ((q.room_sublist key).subset h)
  | some held =>
      rw [room, hfind, if_pos Option.isSome_some, without, List.mem_filter] at h
      simpa using h.2

theorem Orderly.length_room_lt (h : q.Orderly now) (key : κ) : (q.room key).length < q.bound := by
  have hlength := h.length_le
  have hpos := h.bound_pos
  unfold room
  split
  · rename_i hpresent
    obtain ⟨item, hitem⟩ := Option.isSome_iff_exists.1 hpresent
    have hmem : item ∈ q.items := List.mem_of_find?_eq_some hitem
    have hkey : item.key = key := by simpa using List.find?_some hitem
    refine Nat.lt_of_lt_of_le ?_ hlength
    exact List.length_filter_lt_length_iff_exists.2 ⟨item, hmem, by simp [hkey]⟩
  · split
    · rw [List.length_tail]
      omega
    · rename_i hroom
      exact Nat.lt_of_not_le hroom

theorem Orderly.insert (h : q.Orderly now) (key : κ) (value : ν) :
    (q.insert key value now).2.Orderly now := by
  obtain ⟨hnodup, -, hpos, hascending, hpast⟩ := h.of_sublist (q.room_sublist key)
  have hlength := h.length_room_lt key
  rw [insert_queue]
  refine ⟨?_, ?_, hpos, ?_, ?_⟩
  · rw [List.map_append, List.nodup_append]
    refine ⟨hnodup, List.nodup_singleton _, ?_⟩
    intro other hother fresh hfresh
    obtain ⟨item, hitem, rfl⟩ := List.mem_map.1 hother
    rw [List.map_singleton, List.mem_singleton] at hfresh
    exact hfresh ▸ key_ne_of_mem_room hitem
  · simp only [List.length_append, List.length_singleton]
    omega
  · refine List.pairwise_append.2 ⟨hascending, List.pairwise_singleton _ _, ?_⟩
    intro item hitem fresh hfresh
    rw [List.mem_singleton.1 hfresh]
    exact hpast item hitem
  · intro item hitem
    rcases List.mem_append.1 hitem with hheld | hfresh
    · exact hpast item hheld
    · obtain rfl := List.mem_singleton.1 hfresh
      exact Nat.le_refl now

theorem Orderly.perform {start : Nat} (h : q.Orderly start) (operation : Operation κ ν)
    (hle : start ≤ operation.clock start) :
    (q.perform operation).2.Orderly (operation.clock start) := by
  have hnow := h.mono hle
  cases operation with
  | insert key value now => exact hnow.insert key value
  | get key now =>
      rcases q.get_cases key now with ⟨item, -, -, hget⟩ | ⟨-, hget⟩
      · rw [Queue.perform, hget]
        exact hnow
      · rw [Queue.perform, hget]
        exact hnow.without key
  | invalidate key => exact hnow.without key
  | clear => exact hnow.of_sublist (List.nil_sublist _)
  | purge now => exact hnow.of_sublist List.filter_sublist
  | size => exact hnow

/-! ### Operations on a queue that was purged -/

namespace Purged

theorem find?_of_find? (h : Purged now q r) (hq : q.Orderly now) {item : Dated κ ν}
    (hfind : r.find? key = some item) : q.find? key = some item := by
  obtain ⟨old, rfl, -⟩ := h
  have hmem : item ∈ r.items := List.mem_of_find?_eq_some hfind
  have hkey : item.key = key := by simpa using List.find?_some hfind
  have hnodup := hq.keys_nodup
  rw [List.map_append, List.nodup_append] at hnodup
  have hold : old.find? (fun item => item.key == key) = none := by
    rw [List.find?_eq_none]
    intro other hother
    have hne := hnodup.2.2 other.key (List.mem_map_of_mem hother) item.key (List.mem_map_of_mem hmem)
    simpa [hkey] using hne
  rw [find?, List.find?_append, hold, Option.none_or]
  exact hfind

theorem find?_of_isFresh (h : Purged now q r) {item : Dated κ ν} (hfind : q.find? key = some item)
    (hfresh : r.isFresh now item = true) : r.find? key = some item := by
  obtain ⟨old, rfl, hstale⟩ := h
  rw [find?, List.find?_append, Option.or_eq_some_iff] at hfind
  rcases hfind with hold | ⟨-, hrest⟩
  · rw [hstale item (List.mem_of_find?_eq_some hold)] at hfresh
    cases hfresh
  · exact hrest

theorem without (h : Purged now q r) (key : κ) : Purged now (q.without key) (r.without key) := by
  obtain ⟨old, rfl, hstale⟩ := h
  refine ⟨old.filter fun item => item.key != key, ?_, ?_⟩
  · simp only [Queue.without, List.filter_append]
  · intro item hitem
    exact hstale item (List.mem_of_mem_filter hitem)

theorem get (h : Purged now q r) (hq : q.Orderly now) (key : κ) :
    (q.get key now).1 = (r.get key now).1 ∧ Purged now (q.get key now).2 (r.get key now).2 := by
  rcases r.get_cases key now with ⟨item, hitem, hfresh, hget⟩ | ⟨hstale, hget⟩
  · have hfind := h.find?_of_find? hq hitem
    rw [hget, Queue.get, hfind, h.isFresh_eq]
    simpa [hfresh] using h
  · rcases q.get_cases key now with ⟨item, hitem, hfresh, -⟩ | ⟨-, hget'⟩
    · rw [h.isFresh_eq] at hfresh
      rw [hstale item (h.find?_of_isFresh hitem hfresh)] at hfresh
      cases hfresh
    · rw [hget, hget']
      exact ⟨rfl, h.without key⟩

/-- To make room in both, at most stale values go from the front of the one that was not purged. -/
theorem room (h : Purged now q r) (hq : q.Orderly now) (key : κ) :
    ∃ old, q.room key = old ++ r.room key ∧ ∀ item ∈ old, r.isFresh now item = false := by
  cases hpresent : r.find? key with
  | some item =>
      have hfind := h.find?_of_find? hq hpresent
      obtain ⟨old, hwithout, hstale⟩ := h.without key
      refine ⟨old, ?_, hstale⟩
      simp only [Queue.room, hpresent, hfind, Option.isSome_some, if_true, hwithout]
  | none =>
      have hlength := hq.length_le
      obtain ⟨old, rfl, hstale⟩ := h
      simp only [List.length_append] at hlength
      -- where a stale value is still held, the purged queue has a place to spare
      have hspare (hne : old ≠ []) : r.room key = r.items := by
        have hpos := List.length_pos_iff.2 hne
        rw [Queue.room, hpresent, if_neg (by simp), if_neg (by omega)]
      cases old with
      | nil => exact ⟨[], rfl, hstale⟩
      | cons oldest old =>
          rw [hspare (List.cons_ne_nil _ _)]
          have hrest : r.without key = r := without_of_find?_eq_none hpresent
          unfold Queue.room
          split
          · refine ⟨(oldest :: old).filter fun item => item.key != key, ?_, ?_⟩
            · have hitems : r.items.filter (fun item => item.key != key) = r.items :=
                congrArg Queue.items hrest
              rw [Queue.without, List.filter_append, hitems]
            · intro item hitem
              exact hstale item (List.mem_of_mem_filter hitem)
          · split
            · exact ⟨old, rfl, fun item hitem => hstale item (List.mem_cons_of_mem _ hitem)⟩
            · exact ⟨oldest :: old, rfl, hstale⟩

theorem insert (h : Purged now q r) (hq : q.Orderly now) (key : κ) (value : ν) :
    Purged now (q.insert key value now).2 (r.insert key value now).2 := by
  obtain ⟨old, hroom, hstale⟩ := h.room hq key
  rw [insert_queue, insert_queue, hroom]
  obtain ⟨-, rfl, -⟩ := h
  exact ⟨old, by simp only [List.append_assoc], hstale⟩

/-- The same operation on both finds the same, and leaves one of them purged as before. -/
theorem perform {start : Nat} (h : Purged start q r) (hq : q.Orderly start) (operation : Operation κ ν)
    (hkept : operation.isPurge = false) (hle : start ≤ operation.clock start) :
    (q.perform operation).1.found? = (r.perform operation).1.found? ∧
      Purged (operation.clock start) (q.perform operation).2 (r.perform operation).2 := by
  have hnow := h.mono hle
  have hqnow := hq.mono hle
  cases operation with
  | insert key value now => exact ⟨rfl, hnow.insert hqnow key value⟩
  | get key now =>
      obtain ⟨hfound, hpurged⟩ := hnow.get hqnow key
      exact ⟨congrArg some hfound, hpurged⟩
  | invalidate key => exact ⟨rfl, hnow.without key⟩
  | clear =>
      obtain ⟨old, rfl, -⟩ := hnow
      exact ⟨rfl, refl _ _⟩
  | purge now => cases hkept
  | size => exact ⟨rfl, hnow⟩

end Purged

/-! ### Runs of queues -/

def after (q : Queue κ ν) (operations : List (Operation κ ν)) : Queue κ ν :=
  operations.foldl (fun q operation => (q.perform operation).2) q

theorem Orderly.after {start : Nat} (h : q.Orderly start) {operations : List (Operation κ ν)}
    (hclock : (start :: (operations.flatMap Operation.times ++ [now])).Pairwise (· ≤ ·)) :
    (q.after operations).Orderly now := by
  induction operations generalizing q start with
  | nil => exact h.mono ((List.pairwise_cons.1 hclock).1 now (by simp))
  | cons operation rest ih =>
      rw [List.flatMap_cons, List.append_assoc] at hclock
      obtain ⟨hle, hrest⟩ := Cache.clock_of_pairwise hclock
      exact ih (h.perform operation hle) hrest

theorem Purged.found_eq {start : Nat} (h : Purged start q r) (hq : q.Orderly start)
    {operations : List (Operation κ ν)}
    (hclock : (start :: operations.flatMap Operation.times).Pairwise (· ≤ ·)) :
    Cache.found (q.replies (Cache.unpurged operations)) = Cache.found (r.replies operations) := by
  induction operations generalizing q r start with
  | nil => rfl
  | cons operation rest ih =>
      rw [List.flatMap_cons] at hclock
      obtain ⟨hle, hrest⟩ := Cache.clock_of_pairwise hclock
      cases hpurge : operation.isPurge with
      | true =>
          cases operation with
          | purge now =>
              exact ih ((h.mono hle).purge (hq.mono hle)) (hq.mono hle) hrest
          | _ => cases hpurge
      | false =>
          obtain ⟨hfound, hpurged⟩ := h.perform hq operation hpurge hle
          have hkept : Cache.unpurged (operation :: rest) = operation :: Cache.unpurged rest :=
            List.filter_cons_of_pos (by simp [hpurge])
          rw [hkept, replies, replies, Cache.found_cons, Cache.found_cons, hfound,
            ih hpurged (hq.perform operation hle) hrest]

theorem Orderly.isFresh_of_evicted (h : q.Orderly now) {value : ν} {evicted : κ}
    (hevicted : (q.insert key value now).1 = some evicted) :
    ∃ item, q.find? evicted = some item ∧
      (q.isFresh now item = true → ∀ other ∈ q.items, q.isFresh now other = true) := by
  unfold Queue.insert at hevicted
  split at hevicted
  · cases hevicted
  · split at hevicted
    · obtain ⟨oldest, holdest, rfl⟩ := Option.map_eq_some_iff.1 hevicted
      obtain ⟨rest, hitems⟩ := List.head?_eq_some_iff.1 holdest
      have hfresh := h.pairwise_isFresh now
      rw [hitems, List.pairwise_cons] at hfresh
      refine ⟨oldest, by simp [find?, hitems], fun holdest other hother => ?_⟩
      rw [hitems] at hother
      rcases List.mem_cons.1 hother with rfl | hother
      · exact holdest
      · exact hfresh.1 other hother holdest
    · cases hevicted

end Queue

/-! ### Runs of caches -/

namespace Cache

variable {κ ν : Type} [DecidableEq κ]

theorem Consistent.queue_after {c : Cache κ ν} (h : c.Consistent) (operations : List (Operation κ ν)) :
    (c.after operations).queue = c.queue.after operations := by
  induction operations generalizing c with
  | nil => rfl
  | cons operation rest ih =>
      have hcons : c.after (operation :: rest) = (c.perform operation).2.after rest := rfl
      rw [hcons, ih (h.perform operation), Queue.after, Queue.after, List.foldl_cons, h.queue_perform]

/-- **Purging does not show.** While the clock does not go back, the look-ups find the same whether or
not stale entries are purged in between. And if an insertion throws out an entry that is fresh, then all
that are held are fresh. -/
theorem found_unpurged (capacity timeToLive : Nat) (operations : List (Operation κ ν))
    (hclock : Chronological operations) :
    let start : Cache κ ν := empty capacity timeToLive
    found (start.replies operations) = found (start.replies (unpurged operations)) ∧
    ∀ earlier key value now rest evicted, operations = earlier ++ .insert key value now :: rest →
      let c := start.after earlier
      (c.insert key value now).1 = some evicted →
        ∃ e, c.find? evicted = some e ∧
          (c.isFresh now e = true → ∀ held ∈ c.entries, c.isFresh now held.2 = true) := by
  intro start
  have hstart : start.Consistent := consistent_empty capacity timeToLive
  have horderly : start.queue.Orderly 0 := Queue.orderly_empty capacity timeToLive
  refine ⟨?lookUps, ?evictions⟩
  case lookUps =>
    have hzero : (0 :: operations.flatMap Operation.times).Pairwise (· ≤ ·) :=
      List.pairwise_cons.2 ⟨fun now _ => Nat.zero_le now, hclock⟩
    rw [← hstart.replies_queue, ← hstart.replies_queue]
    exact ((Queue.Purged.refl 0 start.queue).found_eq horderly hzero).symm
  case evictions =>
    intro earlier key value now rest evicted hoperations c hevicted
    have hc : c.Consistent := hstart.after earlier
    have hearlier : (0 :: (earlier.flatMap Operation.times ++ [now])).Pairwise (· ≤ ·) := by
      rw [Chronological, hoperations, List.flatMap_append, List.flatMap_cons, ← List.append_assoc] at hclock
      exact List.pairwise_cons.2 ⟨fun now _ => Nat.zero_le now, (List.pairwise_append.1 hclock).1⟩
    have hqueue : c.queue.Orderly now := by
      rw [hstart.queue_after]
      exact horderly.after hearlier
    have hevicted' : (c.queue.insert key value now).1 = some evicted := by
      rw [hc.queue_insert]
      exact hevicted
    obtain ⟨item, hitem, hall⟩ := hqueue.isFresh_of_evicted hevicted'
    rw [find?_queue] at hitem
    obtain ⟨e, he, rfl⟩ := Option.map_eq_some_iff.1 hitem
    exact ⟨e, he, fun hfresh held hheld => hall hfresh (dated held) (List.mem_map_of_mem hheld)⟩

/-- A full cache whose first entry is purged, and whose second makes room while it is fresh. -/
def busyMorning : List (Operation Nat Nat) :=
  [.insert 1 100 0, .insert 2 200 5, .get 1 8, .purge 12, .insert 3 300 12, .get 2 13] ++
    .insert 4 400 14 :: [.purge 15, .get 3 22, .get 1 30]

theorem found_unpurged_busyMorning :
    let start : Cache Nat Nat := empty 2 10
    let c := start.after (busyMorning.take 6)
    Chronological busyMorning ∧
      found (start.replies (unpurged busyMorning)) = [some 100, some 200, some 300, none] ∧
      (c.insert 4 400 14).1 = some 2 ∧ ∀ held ∈ c.entries, c.isFresh 14 held.2 = true := by
  obtain ⟨hfound, hevictions⟩ := found_unpurged 2 10 busyMorning (by decide)
  obtain ⟨e, he, hfresh⟩ := hevictions _ 4 400 14 _ 2 rfl rfl
  refine ⟨by decide, hfound.symm.trans rfl, rfl, hfresh ?_⟩
  obtain rfl := Option.some.inj he
  rfl

end Cache
end Lending
