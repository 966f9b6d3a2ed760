import Lending.Engine.Caller

/-!
# A crowd of callers

Callers that arrive together, served one event at a time: a caller runs until it waits for a lock or for
its partners. Events at one time keep the order in which they were caused, and the lock of a slot goes
to the caller who came first. What partners do are events too: they take up the questions of a caller,
and the last of them answers.
-/

namespace Lending

inductive EventKind where
  | proceeds
  /-- The partners take up the questions of the caller. -/
  | asks
  /-- The last of the partners has answered. -/
  | hears
deriving DecidableEq

/-- What is to happen to a caller at some time. -/
structure Event where
  time : Nat
  caller : Nat
  kind : EventKind
deriving DecidableEq

structure Crowd where
  /-- What the clock of the cache shows. -/
  clock : Nat
  engine : Engine
  callers : List Caller
  /-- What is to happen, in the order of time and, at one time, of cause. -/
  agenda : List Event

namespace Crowd

/-- Puts an event behind all that happen no later. -/
def schedule (event : Event) : List Event → List Event
  | [] => [event]
  | other :: rest =>
    if event.time < other.time then event :: other :: rest else other :: schedule event rest

def waitsFor (slot : Nat) (c : Caller) : Bool :=
  match c.phase with
  | .waiting held => held == slot
  | _ => false

def tasks (e : Engine) (c : Caller) : List Task := e.setting.tasks c.call.application c.call.options

/-- Lets a caller run until it has to wait. As a lock comes free, the first caller who waits for it is
woken. -/
def run (number now : Nat) : (fuel : Nat) → Crowd → Crowd
  | 0, crowd => crowd
  | fuel + 1, crowd =>
    match crowd.callers[number]? with
    | none => crowd
    | some c =>
      match c.step? crowd.engine crowd.clock with
      | none => crowd
      | some (engine, c') =>
        let crowd' := { crowd with engine := engine, callers := crowd.callers.set number c' }
        match c.phase with
        | .computing _ =>
          if (tasks crowd.engine c).isEmpty then run number now fuel crowd'
          else { crowd' with agenda := schedule ⟨now, number, .asks⟩ crowd'.agenda }
        | .leaving slot _ =>
          run number now fuel <| match crowd'.callers.findIdx? (waitsFor slot) with
            | some next => { crowd' with agenda := schedule ⟨now, next, .proceeds⟩ crowd'.agenda }
            | none => crowd'
        | _ => run number now fuel crowd'

/-- For how long a caller waits for its partners. -/
def probing (number : Nat) (crowd : Crowd) : Nat :=
  match crowd.callers[number]? with
  | some c => Probing.duration (tasks crowd.engine c)
  | none => 0

/-- Lets an event happen. Questions that take no time are answered as soon as they are taken up. -/
def happen (event : Event) (crowd : Crowd) : Crowd :=
  let next (time : Nat) (kind : EventKind) : Crowd :=
    { crowd with agenda := schedule ⟨time, event.caller, kind⟩ crowd.agenda }
  match event.kind with
  | .proceeds => run event.caller event.time 8 crowd
  | .asks =>
    let wait := probing event.caller crowd
    if wait = 0 then next event.time .proceeds else next (event.time + wait) .hears
  | .hears => next event.time .proceeds

def serve : (fuel : Nat) → Crowd → Crowd
  | 0, crowd => crowd
  | fuel + 1, crowd =>
    match crowd.agenda with
    | [] => crowd
    | event :: agenda => serve fuel (happen event { crowd with agenda := agenda })

end Crowd

/-- Answers calls that arrive together at the time `now`, in their order. -/
def Engine.preQualifyAll (e : Engine) (calls : List Call) (now : Nat) :
    List (Except ServiceFault Assessment) × Engine :=
  let crowd : Crowd :=
    ⟨now, e, calls.map Caller.arrive, (List.range calls.length).map fun i => ⟨0, i, .proceeds⟩⟩
  -- A caller arrives, may be woken, may ask and hear, and goes on.
  let served := Crowd.serve (5 * calls.length) crowd
  (served.callers.filterMap Caller.answer?, served.engine)

end Lending
