/-!
# A queue of dated values

The plainest thing that a cache can be seen as: values under distinct keys in the order in which they
were put in, with a bound on their number.
-/

namespace Lending

/-- A value with its key and the time at which it was put in. -/
structure Dated (κ ν : Type) where
  key : κ
  value : ν
  insertedAt : Nat
deriving DecidableEq

/-- Dated values, oldest first. -/
structure Queue (κ ν : Type) where
  items : List (Dated κ ν)
  bound : Nat
  timeToLive : Nat
deriving DecidableEq

namespace Queue

variable {κ ν : Type} [DecidableEq κ]

def empty (capacity timeToLive : Nat) : Queue κ ν := ⟨[], max capacity 1, timeToLive⟩

def find? (q : Queue κ ν) (key : κ) : Option (Dated κ ν) := q.items.find? fun item => item.key == key

def without (q : Queue κ ν) (key : κ) : Queue κ ν :=
  { q with items := q.items.filter fun item => item.key != key }

def isFresh (q : Queue κ ν) (now : Nat) (item : Dated κ ν) : Bool :=
  now - item.insertedAt ≤ q.timeToLive

def get (q : Queue κ ν) (key : κ) (now : Nat) : Option ν × Queue κ ν :=
  match q.find? key with
  | some item => if q.isFresh now item then (some item.value, q) else (none, q.without key)
  | none => (none, q)

/-- Appends a value after deleting the old one of its key, or the head of a full queue for a new key. -/
def insert (q : Queue κ ν) (key : κ) (value : ν) (now : Nat) : Option κ × Queue κ ν :=
  let append (items : List (Dated κ ν)) : Queue κ ν := { q with items := items ++ [⟨key, value, now⟩] }
  if (q.find? key).isSome then (none, append (q.without key).items)
  else if q.bound ≤ q.items.length then (q.items.head?.map Dated.key, append q.items.tail)
  else (none, append q.items)

def invalidate (q : Queue κ ν) (key : κ) : Bool × Queue κ ν := ((q.find? key).isSome, q.without key)

def clear (q : Queue κ ν) : Queue κ ν := { q with items := [] }

def purge (q : Queue κ ν) (now : Nat) : Nat × Queue κ ν :=
  let fresh := q.items.filter fun item => q.isFresh now item
  (q.items.length - fresh.length, { q with items := fresh })

end Queue
end Lending
