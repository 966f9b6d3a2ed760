/-!
# The cache of results

Values under keys for a limited time. Beside the entries, the cache keeps the order in which the keys
were last put in, as numbers that only grow; the oldest entry makes room when a new key comes to a full
cache. A stale entry is dropped when it is looked up or purged, and is never given out.
-/

namespace Lending

/-- A value in a cache: when it was put in, by the clock and by the count of insertions. -/
structure Entry (ν : Type) where
  value : ν
  insertedAt : Nat
  sequence : Nat
deriving DecidableEq

structure Cache (κ ν : Type) where
  entries : List (κ × Entry ν)
  /-- The keys by the number of their insertion, oldest first. -/
  order : List (Nat × κ)
  nextSequence : Nat
  capacity : Nat
  /-- How long an entry stays fresh, in milliseconds. -/
  timeToLive : Nat
deriving DecidableEq

namespace Cache

variable {κ ν : Type} [DecidableEq κ]

/-- An empty cache; one of capacity 0 still holds one entry. -/
def empty (capacity timeToLive : Nat) : Cache κ ν := ⟨[], [], 0, max capacity 1, timeToLive⟩

def standard : Cache κ ν := empty 100 3600000

def size (c : Cache κ ν) : Nat := c.entries.length

def find? (c : Cache κ ν) (key : κ) : Option (Entry ν) := c.entries.lookup key

/-- Whether an entry may still be given out. A clock that went back makes it no older. -/
def isFresh (c : Cache κ ν) (now : Nat) (e : Entry ν) : Bool := now - e.insertedAt ≤ c.timeToLive

/-- Drops the entry of a key, if there is one, with its number. -/
def remove (c : Cache κ ν) (key : κ) : Cache κ ν :=
  match c.find? key with
  | some e =>
    { c with
      entries := c.entries.filter fun held => held.1 != key
      order := c.order.filter fun numbered => numbered.1 != e.sequence }
  | none => c

/-- Drops the entry whose number is the smallest, and tells its key. -/
def dropOldest (c : Cache κ ν) : Option κ × Cache κ ν :=
  match c.order with
  | (_, key) :: order =>
    (some key, { c with entries := c.entries.filter fun held => held.1 != key, order := order })
  | [] => (none, c)

/-- The value of a key, if it is fresh; a stale one is dropped. -/
def get (c : Cache κ ν) (key : κ) (now : Nat) : Option ν × Cache κ ν :=
  match c.find? key with
  | some e => if c.isFresh now e then (some e.value, c) else (none, c.remove key)
  | none => (none, c)

/-- Makes room for a key: its own entry goes, or the oldest one if the cache is full. -/
def makeRoom (c : Cache κ ν) (key : κ) : Option κ × Cache κ ν :=
  if (c.find? key).isSome then (none, c.remove key)
  else if c.capacity ≤ c.size then c.dropOldest
  else (none, c)

/-- Puts a value under a key, and tells which other key had to go. -/
def insert (c : Cache κ ν) (key : κ) (value : ν) (now : Nat) : Option κ × Cache κ ν :=
  let (evicted, c) := c.makeRoom key
  (evicted,
    { c with
      entries := c.entries ++ [(key, ⟨value, now, c.nextSequence⟩)]
      order := c.order ++ [(c.nextSequence, key)]
      nextSequence := c.nextSequence + 1 })

/-- Drops the entry of a key, and tells whether there was one. -/
def invalidate (c : Cache κ ν) (key : κ) : Bool × Cache κ ν :=
  ((c.find? key).isSome, c.remove key)

def clear (c : Cache κ ν) : Cache κ ν := { c with entries := [], order := [] }

/-- Drops all stale entries, and tells how many there were. -/
def purge (c : Cache κ ν) (now : Nat) : Nat × Cache κ ν :=
  let stale := (c.entries.filter fun held => !c.isFresh now held.2).map (·.1)
  (stale.length, stale.foldl remove c)

end Cache
end Lending
