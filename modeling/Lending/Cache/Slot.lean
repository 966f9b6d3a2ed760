/-!
# Slots

A slot is what the callers who want the result of one key wait at, so that one of them computes it. The
table records which slot belongs to which key, without keeping the slot alive: a slot lives while
somebody holds it, and the record of one that nobody holds is removed when the next slot is asked for.
-/

namespace Lending

/-- Slots by number. A slot has as many holders as it stands in `held`, and is locked if it stands in
`locked`. -/
structure SlotTable (κ : Type) where
  records : List (κ × Nat)
  held : List Nat
  locked : List Nat
  nextSlot : Nat
deriving DecidableEq

namespace SlotTable

variable {κ : Type} [DecidableEq κ]

def empty : SlotTable κ := ⟨[], [], [], 0⟩

instance : Inhabited (SlotTable κ) := ⟨empty⟩

/-- Removes the records of slots that nobody holds. -/
def prune (t : SlotTable κ) : SlotTable κ :=
  { t with records := t.records.filter fun record => t.held.contains record.2 }

/-- Gives out the slot of a key, a new one if it has none, and counts the holder. -/
def take (t : SlotTable κ) (key : κ) : Nat × SlotTable κ :=
  let t := t.prune
  match t.records.lookup key with
  | some slot => (slot, { t with held := slot :: t.held })
  | none =>
    (t.nextSlot,
      { t with
        records := t.records ++ [(key, t.nextSlot)]
        held := t.nextSlot :: t.held
        nextSlot := t.nextSlot + 1 })

/-- One holder gives a slot back. -/
def drop (t : SlotTable κ) (slot : Nat) : SlotTable κ := { t with held := t.held.erase slot }

/-- Locks a slot if it is not locked. The lock is one more holder. -/
def tryLock (t : SlotTable κ) (slot : Nat) : Option (SlotTable κ) :=
  if t.locked.contains slot then none
  else some { t with held := slot :: t.held, locked := slot :: t.locked }

def unlock (t : SlotTable κ) (slot : Nat) : SlotTable κ :=
  { t with held := t.held.erase slot, locked := t.locked.erase slot }

def inflight (t : SlotTable κ) : Nat :=
  (t.records.filter fun record => t.held.contains record.2).length

end SlotTable
end Lending
