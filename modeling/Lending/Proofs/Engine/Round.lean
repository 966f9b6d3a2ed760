import Lending.Engine.Assessment
import Lending.Partner.Policy
import Lending.Proofs.Engine.Probing

/-!
# Rounds of questions

All partners are asked at once, and then the service waits for their answers in the order of the
partners. Meanwhile the questions end in any order, each by an answer, by a fault, at its limit or because
the partner breaks off; what comes early is kept until the service gets to it. A round is kept `Sound`:
every question that has ended is settled with its own outcome, and the candidates taken up so far are the
first ones in the order of the partners.
-/

namespace Lending

/-- The questions of a round, what is known of those that have ended, and the candidates taken up. -/
structure Round where
  tasks : List Task
  settled : List (Option Outcome)
  candidates : List Candidate

/-- What may happen next in a round. -/
inductive Turn where
  /-- The question with this number ends. -/
  | ends (number : Nat)
  /-- The service looks for the answer that it waits for. -/
  | looks

namespace Round

def start (tasks : List Task) : Round := ⟨tasks, tasks.map fun _ => none, []⟩

/-- The candidate that the service waits for, once its question has ended. -/
def next? (r : Round) : Option Candidate :=
  match r.tasks[r.candidates.length]?, r.settled[r.candidates.length]? with
  | some task, some (some outcome) => some (task.candidate outcome)
  | _, _ => none

def advance (r : Round) : Turn → Round
  | .ends number => { r with settled := Probing.settle r.tasks r.settled number }
  | .looks => { r with candidates := r.candidates ++ r.next?.toList }

def run (r : Round) (turns : List Turn) : Round := turns.foldl advance r

def IsOver (r : Round) : Prop := r.candidates.length = r.tasks.length

/-- The candidates that the questions come to, in the order of the questions. -/
def yield (tasks : List Task) : List Candidate := tasks.map fun t => t.candidate t.outcome

theorem length_yield (tasks : List Task) : (yield tasks).length = tasks.length := List.length_map _

/-- What the turns of a round keep. -/
structure Sound (r : Round) : Prop where
  length : r.settled.length = r.tasks.length
  own : ∀ (i : Nat) outcome, r.settled[i]? = some (some outcome) → r.tasks[i]?.map Task.outcome = some outcome
  ordered : r.candidates <+: yield r.tasks

variable {r : Round} {tasks : List Task} {i : Nat}

theorem advance_tasks (r : Round) (turn : Turn) : (r.advance turn).tasks = r.tasks := by
  cases turn <;> rfl

theorem run_tasks (r : Round) (turns : List Turn) : (r.run turns).tasks = r.tasks := by
  induction turns generalizing r with
  | nil => rfl
  | cons turn turns ih => exact (ih (r.advance turn)).trans (r.advance_tasks turn)

/-! ### Nothing is mistaken for anything else -/

theorem sound_start (tasks : List Task) : (start tasks).Sound where
  length := List.length_map _
  own i outcome h := by
    rw [start, List.getElem?_map, Option.map_eq_some_iff] at h
    obtain ⟨_, -, h⟩ := h
    cases h
  ordered := List.nil_prefix

theorem Sound.ends (h : r.Sound) (number : Nat) : (r.advance (.ends number)).Sound where
  length := (Probing.length_settle r.settled number).trans h.length
  own i outcome hsettled := by
    rw [advance, Probing.getElem?_settle h.length] at hsettled
    split at hsettled
    · obtain ⟨task, htask, houtcome⟩ := Option.map_eq_some_iff.1 hsettled
      rw [advance, htask, Option.map_some, Option.some.inj houtcome]
    · exact h.own i outcome hsettled
  ordered := h.ordered

theorem Sound.next?_eq (h : r.Sound) {candidate : Candidate} (hnext : r.next? = some candidate) :
    (yield r.tasks)[r.candidates.length]? = some candidate := by
  unfold next? at hnext
  split at hnext
  · rename_i task outcome htask hsettled
    have hown := h.own _ _ hsettled
    rw [htask, Option.map_some] at hown
    rw [yield, List.getElem?_map, htask, Option.map_some, Option.some.inj hown]
    exact hnext
  · cases hnext

theorem Sound.looks (h : r.Sound) : (r.advance .looks).Sound where
  length := h.length
  own := h.own
  ordered := by
    cases hnext : r.next? with
    | none =>
        rw [advance, hnext, Option.toList_none, List.append_nil]
        exact h.ordered
    | some candidate =>
        have hhead : r.candidates = (yield r.tasks).take r.candidates.length :=
          List.prefix_iff_eq_take.1 h.ordered
        have hcandidates : r.candidates ++ [candidate] =
            (yield r.tasks).take (r.candidates.length + 1) := by
          rw [List.take_add_one, h.next?_eq hnext, ← hhead, Option.toList_some]
        rw [advance, hnext, Option.toList_some, hcandidates]
        exact List.take_prefix _ _

theorem Sound.advance (h : r.Sound) (turn : Turn) : (r.advance turn).Sound := by
  cases turn with
  | ends number => exact h.ends number
  | looks => exact h.looks

theorem Sound.run (h : r.Sound) (turns : List Turn) : (r.run turns).Sound := by
  induction turns generalizing r with
  | nil => exact h
  | cons turn turns ih => exact ih (h.advance turn)

theorem Sound.length_candidates_le (h : r.Sound) : r.candidates.length ≤ r.tasks.length :=
  length_yield r.tasks ▸ h.ordered.length_le

theorem Sound.eq_of_isOver (h : r.Sound) (hover : r.IsOver) : r.candidates = yield r.tasks :=
  h.ordered.eq_of_length (hover.trans (length_yield r.tasks).symm)

/-! ### Nothing is waited for in vain -/

def Ended (r : Round) (i : Nat) : Prop := ∃ outcome, r.settled[i]? = some (some outcome)

theorem ended_ends (h : r.Sound) (hi : i < r.tasks.length) : (r.advance (.ends i)).Ended i :=
  ⟨r.tasks[i].outcome, by
    rw [Round.advance, Probing.getElem?_settle h.length, if_pos rfl, List.getElem?_eq_getElem hi,
      Option.map_some]⟩

theorem Ended.advance (hended : r.Ended i) (h : r.Sound) (turn : Turn) : (r.advance turn).Ended i := by
  cases turn with
  | looks => exact hended
  | ends number =>
      obtain ⟨outcome, hsettled⟩ := hended
      by_cases hi : i = number
      · have hlt : i < r.tasks.length := h.length ▸ (List.getElem?_eq_some_iff.1 hsettled).1
        exact hi ▸ ended_ends h hlt
      · refine ⟨outcome, ?_⟩
        rw [Round.advance, Probing.getElem?_settle h.length, if_neg hi]
        exact hsettled

theorem Ended.run (hended : r.Ended i) (h : r.Sound) (turns : List Turn) : (r.run turns).Ended i := by
  induction turns generalizing r with
  | nil => exact hended
  | cons turn turns ih => exact ih (hended.advance h turn) (h.advance turn)

theorem ended_run (h : r.Sound) (hi : i < r.tasks.length) {turns : List Turn} (hturns : .ends i ∈ turns) :
    (r.run turns).Ended i := by
  induction turns generalizing r with
  | nil => cases hturns
  | cons turn turns ih =>
      rcases List.mem_cons.1 hturns with rfl | hturns
      · exact (ended_ends h hi).run (h.advance _) turns
      · exact ih (h.advance turn) ((r.advance_tasks turn).symm ▸ hi) hturns

/-- The service gets on by one candidate with each look, as long as there are any. -/
theorem length_looks (hended : ∀ i < r.tasks.length, r.Ended i) :
    (r.advance .looks).candidates.length = r.candidates.length + 1 ∨
      r.tasks.length ≤ r.candidates.length := by
  rcases Nat.lt_or_ge r.candidates.length r.tasks.length with hlt | hge
  · obtain ⟨outcome, hsettled⟩ := hended _ hlt
    refine Or.inl ?_
    rw [Round.advance, next?, List.getElem?_eq_getElem hlt, hsettled, Option.toList_some,
      List.length_append, List.length_singleton]
  · exact Or.inr hge

theorem isOver_of_looks (h : r.Sound) (hended : ∀ i < r.tasks.length, r.Ended i) {looks : Nat}
    (hlooks : r.tasks.length ≤ r.candidates.length + looks) :
    (r.run (.replicate looks .looks)).IsOver := by
  induction looks generalizing r with
  | zero => exact Nat.le_antisymm h.length_candidates_le hlooks
  | succ looks ih =>
      refine ih h.looks hended ?_
      rcases length_looks hended with hlength | hdone
      · rw [advance_tasks, hlength]
        omega
      · have hgrows : r.candidates.length ≤ (r.advance .looks).candidates.length :=
          (List.prefix_append _ _).length_le
        rw [advance_tasks]
        omega

/-- Once all questions have ended, as many looks as there are questions are enough. -/
theorem isOver_of_ends {turns : List Turn} (hturns : ∀ i < tasks.length, .ends i ∈ turns) :
    (((start tasks).run turns).run (.replicate tasks.length .looks)).IsOver := by
  have htasks : ((start tasks).run turns).tasks = tasks := run_tasks _ turns
  refine isOver_of_looks ((sound_start tasks).run turns) (fun i hi => ?_) ?_
  · have hi' : i < tasks.length := htasks ▸ hi
    exact ended_run (sound_start tasks) hi' (hturns i hi')
  · rw [htasks]
    exact Nat.le_add_left _ _

end Round

/-! ### Findings -/

namespace Setting

variable {s : Setting} {a : Application} {options : Options}

theorem ofCandidates_yield :
    Findings.ofCandidates a options (s.decision a) (Round.yield (s.tasks a options)) =
      s.findings a options := by
  rw [findings, findingsIn, Probing.gather_eq_map fun i hi => Probing.mem_endingOrder hi]
  rfl

theorem findingsIn_eq_findings {order : List Nat}
    (horder : ∀ i < (s.tasks a options).length, i ∈ order) :
    s.findingsIn order a options = s.findings a options := by
  rw [findingsIn, Probing.gather_eq_map horder]
  exact ofCandidates_yield

end Setting

/-- **The order of the answers does not show.** Let partners be asked, each with a probability, let the
questions end in any order, each in whatever way it does, and the service look for the next answer at any
time. At each moment the candidates taken up are the first of these: for each partner one with its
identifier, its name, its probability and the outcome of its own question, in the order of the partners.
All of them are taken up once every question has ended, and what is found is the same for every order. -/
theorem Round.candidates_in_any_order (partners : List (Partner × Nat)) (service : Nat) (profile : Profile)
    (turns : List Turn) :
    let tasks := Probing.ask service profile partners
    let candidates : List Candidate := partners.map fun (p, probability) =>
      ⟨p.id, p.listing.name, probability, (p.check profile).settle (effectiveLimit service p.timeout)⟩
    let round := (start tasks).run turns
    round.candidates <+: candidates ∧
    (round.IsOver → round.candidates = candidates) ∧
    ((∀ i < partners.length, .ends i ∈ turns) →
      (round.run (.replicate partners.length .looks)).IsOver) ∧
    (∀ order, (∀ i < partners.length, i ∈ order) → Probing.gather order tasks = candidates) ∧
    ∀ (s : Setting) a options, s.tasks a options = tasks →
      (round.IsOver → .ofCandidates a options (s.decision a) round.candidates = s.findings a options) ∧
      ∀ order, (∀ i < partners.length, i ∈ order) →
        s.findingsIn order a options = s.findings a options := by
  intro tasks candidates round
  have hlength : tasks.length = partners.length := List.length_map _
  have hyield : yield tasks = candidates := by
    simp only [yield, tasks, Probing.ask, List.map_map]
    rfl
  have hsound : round.Sound := (sound_start tasks).run turns
  have htasks : round.tasks = tasks := run_tasks _ turns
  have hover : round.IsOver → round.candidates = yield tasks := fun h => htasks ▸ hsound.eq_of_isOver h
  refine ⟨?ordered, fun h => (hover h).trans hyield, fun hturns => ?finished, fun order horder => ?gathered,
    fun s a options hs => ⟨fun h => ?found, fun order horder => ?foundIn⟩⟩
  case ordered =>
    rw [← hyield, ← htasks]
    exact hsound.ordered
  case finished =>
    rw [← hlength]
    exact isOver_of_ends (hlength ▸ hturns)
  case gathered => exact (Probing.gather_eq_map (hlength ▸ horder)).trans hyield
  case found =>
    rw [hover h, ← hs]
    exact Setting.ofCandidates_yield
  case foundIn =>
    refine Setting.findingsIn_eq_findings ?_
    rw [hs, hlength]
    exact horder

theorem Round.candidates_in_any_order_unreliable :
    let unreliable (id : PartnerId) (delay : Nat) : Partner :=
      { (Policy.named id id).partner with check := fun _ => ⟨delay, .aborted⟩ }
    let partners := [(unreliable "late" 9000, 80), (unreliable "broken" 0, 60)]
    let tasks := Probing.ask 5000 .empty partners
    ((start tasks).run [.looks, .ends 1, .looks, .ends 0, .looks, .looks]).candidates =
      [⟨"late", "late", 80, .failed (PartnerFault.timeout 5000).message⟩,
       ⟨"broken", "broken", 60, .failed "partner check aborted"⟩] := by
  intro unreliable partners tasks
  obtain ⟨-, hcandidates, -⟩ := candidates_in_any_order partners 5000 .empty
    [.looks, .ends 1, .looks, .ends 0, .looks, .looks]
  exact (hcandidates rfl).trans rfl

end Lending
