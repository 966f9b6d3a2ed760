import Lending.Engine.Basic

/-!
# Callers at the same time

Several callers may be under way at once. Each goes through the steps below, and the steps of different
callers may come in any order. The slot of a key lets one caller at a time past the second look into the
cache, so callers of one key wait for the result of the first.
-/

namespace Lending

structure Call where
  application : Application
  options : Options
deriving DecidableEq

/-- How far a caller has come. -/
inductive Phase where
  | arrived
  /-- The application was not in the cache. -/
  | missed
  /-- Holds the slot, not its lock. -/
  | waiting (slot : Nat)
  | locked (slot : Nat)
  /-- Has the lock, and the application still was not in the cache. -/
  | computing (slot : Nat)
  /-- Has a result that is not stored yet. -/
  | computed (slot : Nat) (assessment : Assessment)
  /-- Has a result, and still the lock. -/
  | leaving (slot : Nat) (assessment : Assessment)
  /-- Has a result, and still the slot. -/
  | unlocked (slot : Nat) (assessment : Assessment)
  | answered (answer : Except ServiceFault Assessment)

structure Caller where
  call : Call
  phase : Phase

namespace Caller

def arrive (call : Call) : Caller := ⟨call, .arrived⟩

def answer? (c : Caller) : Option (Except ServiceFault Assessment) :=
  match c.phase with
  | .answered answer => some answer
  | _ => none

/-- The next step of a caller; there is none while another caller has the lock, and after the answer. -/
def step? (e : Engine) (c : Caller) (now : Nat) : Option (Engine × Caller) :=
  let a := c.call.application
  match c.phase with
  | .arrived =>
    match Engine.check a c.call.options with
    | .error fault => some (e, { c with phase := .answered (.error fault) })
    | .ok () =>
      match e.lookUp a now with
      | (some found, e) => some (e, { c with phase := .answered (.ok found) })
      | (none, e) => some (e, { c with phase := .missed })
  | .missed =>
    let (slot, slots) := e.slots.take a.key
    some ({ e with slots := slots }, { c with phase := .waiting slot })
  | .waiting slot =>
    (e.slots.tryLock slot).map fun slots => ({ e with slots := slots }, { c with phase := .locked slot })
  | .locked slot =>
    match e.lookUp a now with
    | (some found, e) => some (e, { c with phase := .leaving slot found })
    | (none, e) => some (e, { c with phase := .computing slot })
  | .computing slot =>
    let (assessment, e) := e.compute a c.call.options
    some (e, { c with phase := .computed slot assessment })
  | .computed slot assessment =>
    some (e.store a assessment now, { c with phase := .leaving slot assessment })
  | .leaving slot assessment =>
    some ({ e with slots := e.slots.unlock slot }, { c with phase := .unlocked slot assessment })
  | .unlocked slot assessment =>
    some ({ e with slots := e.slots.drop slot }, { c with phase := .answered (.ok assessment) })
  | .answered _ => none

end Caller
end Lending
