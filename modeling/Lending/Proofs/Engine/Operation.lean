import Lending.Engine.Caller
import Lending.Proofs.Cache.Lookup

/-!
# Operations on an engine, one after another

A run is a list of calls, invalidations and changes of the directory. A call takes from its arrival to the
time at which its answer is stored. `compute_eq` says what a computation comes to and what it counts, and
`answer_cases` all that a call can do, and the rest relies on these alone: a call is refused, or it is
answered from the cache, and either way changes nothing, or it computes.
-/

namespace Lending.Engine

/-- What may be done to an engine. -/
inductive Operation where
  | answers (call : Call) (arrival finish : Nat)
  | invalidates (a : Application)
  | registers (p : Partner)
  | unregisters (id : PartnerId)

def Operation.times : Operation → List Nat
  | .answers _ arrival finish => [arrival, finish]
  | _ => []

def Chronological (operations : List Operation) : Prop :=
  (operations.flatMap Operation.times).Pairwise (· ≤ ·)

instance (operations : List Operation) : Decidable (Chronological operations) :=
  inferInstanceAs (Decidable (List.Pairwise _ _))

def reply (e : Engine) (call : Call) (arrival finish : Nat) : Except ServiceFault Assessment :=
  (e.answer call.application call.options arrival finish).1

def perform (e : Engine) : Operation → Engine
  | .answers call arrival finish => (e.answer call.application call.options arrival finish).2
  | .invalidates a => (e.invalidate a).2
  | .registers p => (e.register p).2
  | .unregisters id => (e.unregister id).2

def after (e : Engine) (operations : List Operation) (n : Nat) : Engine :=
  (operations.take n).foldl perform e

/-- A call computes: it is in order, and there is no fresh answer to it when it arrives. -/
def Computes (e : Engine) (call : Call) (arrival : Nat) : Prop :=
  check call.application call.options = .ok () ∧ (e.lookUp call.application arrival).1 = none

/-- What a call computes if it does. -/
def result (e : Engine) (call : Call) : Assessment := (e.compute call.application call.options).1

variable {e : Engine} {call : Call} {arrival finish : Nat}

theorem after_zero (e : Engine) (operations : List Operation) : e.after operations 0 = e := rfl

theorem after_succ {operations : List Operation} {n : Nat} {operation : Operation}
    (h : operations[n]? = some operation) :
    e.after operations (n + 1) = (e.after operations n).perform operation := by
  simp only [after, List.take_add_one, h, Option.toList_some, List.foldl_append, List.foldl_cons,
    List.foldl_nil]

/-- What every operation keeps is kept by all of them. -/
theorem after_of_perform {P : Engine → Prop}
    (hperform : ∀ (e : Engine) operation, P e → P (e.perform operation)) (h : P e)
    (operations : List Operation) (n : Nat) : P (e.after operations n) := by
  unfold after
  induction operations.take n generalizing e with
  | nil => exact h
  | cons operation rest ih => exact ih (hperform e operation h)

/-! ### What a call does -/

/-- Each partner is asked once, and counted once. -/
theorem askAll_eq (e : Engine) (a : Application) (entries : List (Partner × Nat)) :
    e.askAll a entries = (Probing.ask e.config.probeLimit a.profile entries,
      { e with probes := entries.foldl (fun probes entry => countProbe entry.1.id probes) e.probes }) := by
  induction entries generalizing e with
  | nil => rfl
  | cons entry rest ih =>
      simp only [askAll, ask, ih]
      rfl

/-- What is computed comes from the setting, and the rest of the engine only counts. -/
theorem compute_eq (e : Engine) (a : Application) (options : Options) :
    e.compute a options = (⟨e.computed, e.setting.findings a options⟩,
      { e with
        probes := ((e.setting.decision a).shortlisted (e.directory.offering a.request.product) options).foldl
          (fun probes entry => countProbe entry.1.id probes) e.probes
        scorerCalls := e.scorerCalls + 1
        computed := e.computed + 1 }) := by
  simp only [compute, score, askAll_eq]
  rfl

@[simp] theorem compute_cache (e : Engine) (a : Application) (options : Options) :
    (e.compute a options).2.cache = e.cache := by rw [compute_eq]

@[simp] theorem compute_slots (e : Engine) (a : Application) (options : Options) :
    (e.compute a options).2.slots = e.slots := by rw [compute_eq]

@[simp] theorem compute_scorerCalls (e : Engine) (a : Application) (options : Options) :
    (e.compute a options).2.scorerCalls = e.scorerCalls + 1 := by rw [compute_eq]

theorem result_findings (e : Engine) (call : Call) :
    (e.result call).findings = e.setting.findings call.application call.options := by
  rw [result, compute_eq]

theorem lookUp_cases (e : Engine) (a : Application) (now : Nat) :
    (∃ entry, e.cache.find? a.key = some entry ∧ e.cache.isFresh now entry = true ∧
      e.lookUp a now = (some entry.value, e)) ∨
    ((∀ entry, e.cache.find? a.key = some entry → e.cache.isFresh now entry = false) ∧
      e.lookUp a now = (none, { e with cache := e.cache.remove a.key })) := by
  rcases e.cache.get_cases a.key now with ⟨entry, hentry, hfresh, hget⟩ | ⟨hstale, hget⟩
  · exact Or.inl ⟨entry, hentry, hfresh, by simp only [lookUp, hget]⟩
  · exact Or.inr ⟨hstale, by simp only [lookUp, hget]⟩

/-- A refused call leaves the engine alone, and so does one that the cache can answer. Any other call
drops a stale answer, and stores a new one in its place. -/
theorem answer_cases (e : Engine) (call : Call) (arrival finish : Nat) :
    (∃ fault, check call.application call.options = .error fault ∧
      e.answer call.application call.options arrival finish = (.error fault, e)) ∨
    (∃ entry, e.cache.find? call.application.key = some entry ∧
      e.cache.isFresh arrival entry = true ∧ ¬ e.Computes call arrival ∧
      e.answer call.application call.options arrival finish = (.ok entry.value, e)) ∨
    (e.Computes call arrival ∧ e.reply call arrival finish = .ok (e.result call) ∧
      (e.perform (.answers call arrival finish)).cache =
        ((e.cache.remove call.application.key).insert call.application.key (e.result call) finish).2) := by
  cases hcheck : check call.application call.options with
  | error fault =>
      refine Or.inl ⟨fault, rfl, ?_⟩
      simp only [answer, hcheck]
  | ok =>
      refine Or.inr ?_
      rcases e.lookUp_cases call.application arrival with ⟨entry, hentry, hfresh, hlook⟩ | ⟨-, hlook⟩
      · refine Or.inl ⟨entry, hentry, hfresh, ?_, ?_⟩
        · rintro ⟨-, hmissed⟩
          rw [hlook] at hmissed
          cases hmissed
        · simp only [answer, hcheck, hlook]
      · refine Or.inr ⟨⟨hcheck, by rw [hlook]⟩, ?_, ?_⟩
        · simp only [reply, result, answer, hcheck, hlook, compute_eq]
          rfl
        · simp only [perform, result, answer, hcheck, hlook, compute_eq]
          rfl

theorem reply_of_computes (h : e.Computes call arrival) (finish : Nat) :
    e.reply call arrival finish = .ok (e.result call) := by
  rcases e.answer_cases call arrival finish with
    ⟨fault, hfault, -⟩ | ⟨entry, -, -, hnot, -⟩ | ⟨-, hreply, -⟩
  · rw [h.1] at hfault
    cases hfault
  · exact absurd h hnot
  · exact hreply

theorem answer_frame (e : Engine) (a : Application) (options : Options) (arrival finish : Nat) :
    ∃ cache slots probes scorerCalls computed, (e.answer a options arrival finish).2 =
      ⟨e.directory, e.scorer, e.config, cache, slots, probes, scorerCalls, computed⟩ := by
  unfold answer
  split
  · exact ⟨_, _, _, _, _, rfl⟩
  · rcases e.lookUp_cases a arrival with ⟨entry, -, -, hlook⟩ | ⟨-, hlook⟩
    · rw [hlook]
      exact ⟨_, _, _, _, _, rfl⟩
    · simp only [hlook, compute_eq]
      exact ⟨_, _, _, _, _, rfl⟩

theorem answer_directory (e : Engine) (a : Application) (options : Options) (arrival finish : Nat) :
    (e.answer a options arrival finish).2.directory = e.directory := by
  obtain ⟨_, _, _, _, _, hanswer⟩ := e.answer_frame a options arrival finish
  rw [hanswer]

theorem answer_scorer (e : Engine) (a : Application) (options : Options) (arrival finish : Nat) :
    (e.answer a options arrival finish).2.scorer = e.scorer := by
  obtain ⟨_, _, _, _, _, hanswer⟩ := e.answer_frame a options arrival finish
  rw [hanswer]

/-! ### What a registration does -/

/-- A registration changes the directory, and counts questions from then on; all else it leaves alone. -/
theorem register_frame (e : Engine) (p : Partner) :
    ∃ probes, (e.register p).2 =
      { e with directory := (e.directory.register p).2, probes := probes } := by
  unfold register
  split
  · rename_i hregister
    rw [hregister]
    exact ⟨_, rfl⟩
  · rename_i hregister
    rw [hregister]
    exact ⟨e.probes, rfl⟩

theorem register_directory (e : Engine) (p : Partner) :
    (e.register p).2.directory = (e.directory.register p).2 := by
  obtain ⟨_, hregister⟩ := e.register_frame p
  rw [hregister]

theorem register_scorer (e : Engine) (p : Partner) : (e.register p).2.scorer = e.scorer := by
  obtain ⟨_, hregister⟩ := e.register_frame p
  rw [hregister]

theorem register_cache (e : Engine) (p : Partner) : (e.register p).2.cache = e.cache := by
  obtain ⟨_, hregister⟩ := e.register_frame p
  rw [hregister]

theorem register_slots (e : Engine) (p : Partner) : (e.register p).2.slots = e.slots := by
  obtain ⟨_, hregister⟩ := e.register_frame p
  rw [hregister]

theorem register_scorerCalls (e : Engine) (p : Partner) :
    (e.register p).2.scorerCalls = e.scorerCalls := by
  obtain ⟨_, hregister⟩ := e.register_frame p
  rw [hregister]

/-- A call by one applicant, who may report a credit score. -/
def sampleCall (amount : Nat) (credit? : Option Nat) : Call :=
  ⟨⟨"tenant", "user", { Profile.empty with credit? := credit? }, ⟨.ofNat amount, .termLoan, none, none⟩⟩,
    .standard⟩

end Lending.Engine
