import Lending.Offer.Build

/-!
# Probing

The partners in question are asked all at once, each within a time limit of its own. The answers come
in any order; what is gathered is one candidate for each partner, in the order of the partners.
-/

namespace Lending

/-- The limit for a partner: its own where it has one, but never more than that of the service. -/
def effectiveLimit (service own : Nat) : Nat := if own = 0 then service else min own service

/-- What is known once a reply has come or the limit has passed. -/
def Probe.settle (probe : Probe) (limit : Nat) : Outcome :=
  if probe.delay ≤ limit then
    match probe.reply with
    | .answer eligibility => .answered eligibility
    | .fault fault => .failed fault.message
    | .aborted => .failed "partner check aborted"
  else .failed (PartnerFault.timeout limit).message

structure Task where
  partner : Partner
  probability : Nat
  limit : Nat
  probe : Probe

namespace Task

def start (service : Nat) (profile : Profile) (partner : Partner) (probability : Nat) : Task :=
  ⟨partner, probability, effectiveLimit service partner.timeout, partner.check profile⟩

/-- After how many milliseconds the task is over. -/
def duration (t : Task) : Nat := min t.probe.delay t.limit

def outcome (t : Task) : Outcome := t.probe.settle t.limit

def candidate (t : Task) (outcome : Outcome) : Candidate :=
  ⟨t.partner.id, t.partner.listing.name, t.probability, outcome⟩

end Task

namespace Probing

/-- The questions to all partners, each with its probability. -/
def ask (service : Nat) (profile : Profile) (partners : List (Partner × Nat)) : List Task :=
  partners.map fun (p, probability) => .start service profile p probability

/-- The outcomes so far, after the task with this number is over too. -/
def settle (tasks : List Task) (settled : List (Option Outcome)) (number : Nat) :
    List (Option Outcome) :=
  match tasks[number]? with
  | some task => settled.set number (some task.outcome)
  | none => settled

/-- The candidates of all tasks that are over, when they end in the given order. -/
def gather (order : List Nat) (tasks : List Task) : List Candidate :=
  let settled := order.foldl (settle tasks) (tasks.map fun _ => none)
  (tasks.zip settled).filterMap fun (task, outcome?) => outcome?.map task.candidate

/-- The numbers of the tasks in the order in which they end. -/
def endingOrder (tasks : List Task) : List Nat :=
  (List.range tasks.length).mergeSort fun i j =>
    (tasks[i]?.map Task.duration).getD 0 ≤ (tasks[j]?.map Task.duration).getD 0

def duration (tasks : List Task) : Nat := (tasks.map Task.duration).foldl max 0

end Probing
end Lending
