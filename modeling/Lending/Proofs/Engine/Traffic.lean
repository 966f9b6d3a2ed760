import Mathlib.Data.List.Perm.Basic
import Lending.Engine.Caller
import Lending.Proofs.Engine.Operation

/-!
# Traffic

An engine with any number of callers under way. In a run, callers arrive and take their steps in any
order, and answers are forgotten and partners come and go between any two steps. `Step` lists all that a
caller can do, with what it finds and what it changes; every invariant of traffic is kept by its cases.
-/

namespace Lending

def Phase.slot? : Phase → Option Nat
  | .waiting slot | .locked slot | .computing slot | .computed slot _ | .leaving slot _
  | .unlocked slot _ => some slot
  | .arrived | .missed | .answered _ => none

def Phase.lock? : Phase → Option Nat
  | .locked slot | .computing slot | .computed slot _ | .leaving slot _ => some slot
  | .arrived | .missed | .waiting _ | .unlocked _ _ | .answered _ => none

def Phase.result? : Phase → Option Assessment
  | .computed _ assessment | .leaving _ assessment | .unlocked _ assessment
  | .answered (.ok assessment) => some assessment
  | .arrived | .missed | .waiting _ | .locked _ | .computing _ | .answered (.error _) => none

namespace Caller

def key (c : Caller) : CacheKey := c.call.application.key

def slot? (c : Caller) : Option Nat := c.phase.slot?

def lock? (c : Caller) : Option Nat := c.phase.lock?

def result? (c : Caller) : Option Assessment := c.phase.result?

/-- How the caller counts among the holders of slots. -/
def handles (c : Caller) : List Nat := c.lock?.toList ++ c.slot?.toList

theorem slot?_of_lock? {c : Caller} {slot : Nat} (h : c.lock? = some slot) : c.slot? = some slot := by
  obtain ⟨call, phase⟩ := c
  cases phase <;> first | exact h | cases h

theorem answered_of_answer? {c : Caller} (h : c.answer?.isSome) :
    ∃ answer, c.phase = .answered answer := by
  obtain ⟨call, phase⟩ := c
  cases phase <;> first | exact ⟨_, rfl⟩ | cases h

def check (c : Caller) : Except ServiceFault Unit := Engine.check c.call.application c.call.options

end Caller

/-! ### Steps of a caller -/

/-- The steps of a caller by what it finds. -/
inductive Step (e : Engine) (call : Call) (now : Nat) : Phase → Engine → Phase → Prop
  | refused {fault : ServiceFault} (hcheck : Engine.check call.application call.options = .error fault) :
      Step e call now .arrived e (.answered (.error fault))
  | hit {entry : Entry Assessment} (hcheck : Engine.check call.application call.options = .ok ())
      (hentry : e.cache.find? call.application.key = some entry)
      (hfresh : e.cache.isFresh now entry = true) :
      Step e call now .arrived e (.answered (.ok entry.value))
  | miss (hcheck : Engine.check call.application call.options = .ok ())
      (hstale : ∀ entry, e.cache.find? call.application.key = some entry →
        e.cache.isFresh now entry = false) :
      Step e call now .arrived { e with cache := e.cache.remove call.application.key } .missed
  | take :
      Step e call now .missed { e with slots := (e.slots.take call.application.key).2 }
        (.waiting (e.slots.take call.application.key).1)
  | lock {slot : Nat} (hfree : slot ∉ e.slots.locked) :
      Step e call now (.waiting slot)
        { e with slots := { e.slots with held := slot :: e.slots.held, locked := slot :: e.slots.locked } }
        (.locked slot)
  | hitAgain {slot : Nat} {entry : Entry Assessment}
      (hentry : e.cache.find? call.application.key = some entry)
      (hfresh : e.cache.isFresh now entry = true) :
      Step e call now (.locked slot) e (.leaving slot entry.value)
  | missAgain {slot : Nat}
      (hstale : ∀ entry, e.cache.find? call.application.key = some entry →
        e.cache.isFresh now entry = false) :
      Step e call now (.locked slot) { e with cache := e.cache.remove call.application.key }
        (.computing slot)
  | compute {slot : Nat} :
      Step e call now (.computing slot) (e.compute call.application call.options).2
        (.computed slot (e.compute call.application call.options).1)
  | store {slot : Nat} {assessment : Assessment} :
      Step e call now (.computed slot assessment) (e.store call.application assessment now)
        (.leaving slot assessment)
  | unlock {slot : Nat} {assessment : Assessment} :
      Step e call now (.leaving slot assessment) { e with slots := e.slots.unlock slot }
        (.unlocked slot assessment)
  | drop {slot : Nat} {assessment : Assessment} :
      Step e call now (.unlocked slot assessment) { e with slots := e.slots.drop slot }
        (.answered (.ok assessment))

theorem Caller.step_of_step? {e e' : Engine} {c c' : Caller} {now : Nat}
    (h : c.step? e now = some (e', c')) :
    c'.call = c.call ∧ Step e c.call now c.phase e' c'.phase := by
  obtain ⟨call, phase⟩ := c
  cases phase with
  | arrived =>
      cases hcheck : Engine.check call.application call.options with
      | error fault =>
          simp only [step?, hcheck, Option.some.injEq, Prod.mk.injEq] at h
          obtain ⟨rfl, rfl⟩ := h
          exact ⟨rfl, .refused hcheck⟩
      | ok =>
          rcases e.lookUp_cases call.application now with ⟨entry, hentry, hfresh, hlook⟩ | ⟨hstale, hlook⟩
          · simp only [step?, hcheck, hlook, Option.some.injEq, Prod.mk.injEq] at h
            obtain ⟨rfl, rfl⟩ := h
            exact ⟨rfl, .hit hcheck hentry hfresh⟩
          · simp only [step?, hcheck, hlook, Option.some.injEq, Prod.mk.injEq] at h
            obtain ⟨rfl, rfl⟩ := h
            exact ⟨rfl, .miss hcheck hstale⟩
  | missed =>
      simp only [step?, Option.some.injEq, Prod.mk.injEq] at h
      obtain ⟨rfl, rfl⟩ := h
      exact ⟨rfl, .take⟩
  | waiting slot =>
      by_cases hfree : slot ∈ e.slots.locked
      · simp [step?, SlotTable.tryLock, hfree] at h
      · simp only [step?, SlotTable.tryLock, List.contains_iff_mem, hfree, if_false, Option.map_some,
          Option.some.injEq, Prod.mk.injEq] at h
        obtain ⟨rfl, rfl⟩ := h
        exact ⟨rfl, .lock hfree⟩
  | locked slot =>
      rcases e.lookUp_cases call.application now with ⟨entry, hentry, hfresh, hlook⟩ | ⟨hstale, hlook⟩
      · simp only [step?, hlook, Option.some.injEq, Prod.mk.injEq] at h
        obtain ⟨rfl, rfl⟩ := h
        exact ⟨rfl, .hitAgain hentry hfresh⟩
      · simp only [step?, hlook, Option.some.injEq, Prod.mk.injEq] at h
        obtain ⟨rfl, rfl⟩ := h
        exact ⟨rfl, .missAgain hstale⟩
  | computing slot =>
      simp only [step?, Option.some.injEq, Prod.mk.injEq] at h
      obtain ⟨rfl, rfl⟩ := h
      exact ⟨rfl, .compute⟩
  | computed slot assessment =>
      simp only [step?, Option.some.injEq, Prod.mk.injEq] at h
      obtain ⟨rfl, rfl⟩ := h
      exact ⟨rfl, .store⟩
  | leaving slot assessment =>
      simp only [step?, Option.some.injEq, Prod.mk.injEq] at h
      obtain ⟨rfl, rfl⟩ := h
      exact ⟨rfl, .unlock⟩
  | unlocked slot assessment =>
      simp only [step?, Option.some.injEq, Prod.mk.injEq] at h
      obtain ⟨rfl, rfl⟩ := h
      exact ⟨rfl, .drop⟩
  | answered answer =>
      simp only [step?, reduceCtorEq] at h

/-- Only a caller who waits for a lock, or is done, takes no step. -/
theorem Caller.step?_eq_none {e : Engine} {c : Caller} {now : Nat} (h : c.step? e now = none) :
    (∃ slot, c.phase = .waiting slot ∧ slot ∈ e.slots.locked) ∨ ∃ answer, c.phase = .answered answer := by
  obtain ⟨call, phase⟩ := c
  cases phase with
  | arrived =>
      cases hcheck : Engine.check call.application call.options with
      | error fault => simp only [step?, hcheck, reduceCtorEq] at h
      | ok =>
          rcases e.lookUp_cases call.application now with ⟨_, -, -, hlook⟩ | ⟨-, hlook⟩
          · simp only [step?, hcheck, hlook, reduceCtorEq] at h
          · simp only [step?, hcheck, hlook, reduceCtorEq] at h
  | waiting slot =>
      by_cases hlocked : slot ∈ e.slots.locked
      · exact Or.inl ⟨slot, rfl, hlocked⟩
      · simp [step?, SlotTable.tryLock, hlocked] at h
  | locked slot =>
      rcases e.lookUp_cases call.application now with ⟨_, -, -, hlook⟩ | ⟨-, hlook⟩
      · simp only [step?, hlook, reduceCtorEq] at h
      · simp only [step?, hlook, reduceCtorEq] at h
  | answered answer => exact Or.inr ⟨answer, rfl⟩
  | missed => simp only [step?, reduceCtorEq] at h
  | computing slot => simp only [step?, reduceCtorEq] at h
  | computed slot assessment => simp only [step?, reduceCtorEq] at h
  | leaving slot assessment => simp only [step?, reduceCtorEq] at h
  | unlocked slot assessment => simp only [step?, reduceCtorEq] at h

/-- What the caller computes in its next step, and for which key. -/
def Caller.computation? (c : Caller) (e : Engine) : Option (CacheKey × Assessment) :=
  match c.phase with
  | .computing _ => some (c.key, (e.compute c.call.application c.call.options).1)
  | _ => none

theorem Caller.computation?_eq_none {e : Engine} {c : Caller} {now : Nat} (h : c.step? e now = none) :
    c.computation? e = none := by
  rcases Caller.step?_eq_none h with ⟨slot, hphase, -⟩ | ⟨answer, hphase⟩
  · simp only [computation?, hphase]
  · simp only [computation?, hphase]

/-- The results among these computations that are for a key. -/
def resultsFor (key : CacheKey) (computations : List (CacheKey × Assessment)) : List Assessment :=
  (computations.filter fun computation => computation.1 == key).map Prod.snd

/-! ### Runs -/

structure Traffic where
  engine : Engine
  callers : List Caller

inductive Move where
  | arrives (call : Call)
  /-- The caller with this number takes its next step, if it can. -/
  | proceeds (number now : Nat)
  | invalidates (a : Application)
  | registers (p : Partner)
  | unregisters (id : PartnerId)

namespace Traffic

def move (t : Traffic) : Move → Traffic
  | .arrives call => { t with callers := t.callers ++ [.arrive call] }
  | .proceeds number now =>
    match t.callers[number]?.bind fun c => c.step? t.engine now with
    | some (engine, c) => ⟨engine, t.callers.set number c⟩
    | none => t
  | .invalidates a => { t with engine := (t.engine.invalidate a).2 }
  | .registers p => { t with engine := (t.engine.register p).2 }
  | .unregisters id => { t with engine := (t.engine.unregister id).2 }

def run (t : Traffic) (moves : List Move) : Traffic := moves.foldl move t

/-- A new engine, and nobody there yet. -/
def start (scorer : Scorer) (config : EngineConfig) (capacity timeToLive : Nat) : Traffic :=
  ⟨.start scorer config (.empty capacity timeToLive), []⟩

def computed? (t : Traffic) : Move → Option (CacheKey × Assessment)
  | .proceeds number _ => t.callers[number]?.bind fun c => c.computation? t.engine
  | _ => none

def computations (t : Traffic) : List Move → List (CacheKey × Assessment)
  | [] => []
  | m :: moves => (t.computed? m).toList ++ (t.move m).computations moves

def results (t : Traffic) (key : CacheKey) (moves : List Move) : List Assessment :=
  resultsFor key (t.computations moves)

/-- Once the cache has an answer under the key, it keeps one: the answer is not invalidated, it does not
expire, and it need not make room for another. -/
def Keeps (key : CacheKey) (t : Traffic) : List Move → Prop
  | [] => True
  | m :: moves =>
    ((t.engine.cache.find? key).isSome → ((t.move m).engine.cache.find? key).isSome) ∧
      (t.move m).Keeps key moves

instance Keeps.decidable (key : CacheKey) : ∀ t moves, Decidable (Keeps key t moves)
  | _, [] => .isTrue trivial
  | t, m :: moves =>
    have := Keeps.decidable key (t.move m) moves
    inferInstanceAs (Decidable (_ ∧ _))

theorem results_cons (t : Traffic) (key : CacheKey) (m : Move) (moves : List Move) :
    t.results key (m :: moves) =
      resultsFor key (t.computed? m).toList ++ (t.move m).results key moves := by
  simp only [results, computations, resultsFor, List.filter_append, List.map_append]

/-- A caller takes a step, or nothing happens. It does not matter which number the caller has. -/
theorem move_proceeds (t : Traffic) (number now : Nat) :
    (t.move (.proceeds number now) = t ∧ t.computed? (.proceeds number now) = none) ∨
      ∃ c c' others, t.callers.Perm (c :: others) ∧
        c.step? t.engine now = some ((t.move (.proceeds number now)).engine, c') ∧
        (t.move (.proceeds number now)).callers.Perm (c' :: others) ∧
        t.computed? (.proceeds number now) = c.computation? t.engine := by
  cases hc : t.callers[number]? with
  | none =>
      refine Or.inl ⟨?_, ?_⟩
      · simp only [move, hc, Option.bind_none]
      · simp only [computed?, hc, Option.bind_none]
  | some c =>
      cases hstep : c.step? t.engine now with
      | none =>
          refine Or.inl ⟨?_, ?_⟩
          · simp only [move, hc, Option.bind_some, hstep]
          · simp only [computed?, hc, Option.bind_some]
            exact Caller.computation?_eq_none hstep
      | some stepped =>
          obtain ⟨engine, c'⟩ := stepped
          obtain ⟨hlt, rfl⟩ := List.getElem?_eq_some_iff.1 hc
          have hmove : t.move (.proceeds number now) = ⟨engine, t.callers.set number c'⟩ := by
            simp only [move, hc, Option.bind_some, hstep]
          refine Or.inr ⟨t.callers[number], c', t.callers.eraseIdx number, ?_, ?_, ?_, ?_⟩
          · exact (List.getElem_cons_eraseIdx_perm hlt).symm
          · rw [hmove]
            exact hstep
          · rw [hmove]
            exact List.set_perm_cons_eraseIdx hlt c'
          · simp only [computed?, hc, Option.bind_some]

end Traffic
end Lending
