import Lending.Proofs.Engine.Flight

/-!
# One computation for all

While callers of one key come and go in any order, at most one of them computes a result, and the others
leave with it, as long as the cache does not lose it. The cache loses a result only if somebody asks for
that, or finds the result stale, or if it has to make room.
-/

namespace Lending

/-! ### What callers are told -/

/-- A caller is refused exactly if its call is not in order. -/
def Caller.Checked (c : Caller) : Prop :=
  match c.phase with
  | .arrived => True
  | .answered (.error fault) => c.check = .error fault
  | _ => c.check = .ok ()

theorem Caller.Checked.step {e e' : Engine} {c c' : Caller} {now : Nat} (h : c.Checked)
    (hstep : c.step? e now = some (e', c')) : c'.Checked := by
  obtain ⟨hcall, hstep⟩ := Caller.step_of_step? hstep
  obtain ⟨call, phase⟩ := c
  obtain ⟨call', phase'⟩ := c'
  obtain rfl : call' = call := hcall
  cases hstep with
  | refused hcheck => exact hcheck
  | hit hcheck => exact hcheck
  | miss hcheck => exact hcheck
  | take => exact h
  | lock => exact h
  | hitAgain => exact h
  | missAgain => exact h
  | compute => exact h
  | store => exact h
  | unlock => exact h
  | drop => exact h

/-- A caller who has an answer has the fault of its call, or else a result. -/
theorem Caller.Checked.answered {c : Caller} (h : c.Checked) {answer : Except ServiceFault Assessment}
    (hphase : c.phase = .answered answer) :
    (∃ fault, c.check = .error fault ∧ answer = .error fault) ∨
      c.check = .ok () ∧ ∃ r, answer = .ok r ∧ c.result? = some r := by
  obtain ⟨call, phase⟩ := c
  obtain rfl : phase = .answered answer := hphase
  cases answer with
  | error fault => exact Or.inl ⟨fault, h, rfl⟩
  | ok r => exact Or.inr ⟨h, r, rfl, rfl⟩

theorem Caller.step_scorerCalls {e e' : Engine} {c c' : Caller} {now : Nat}
    (h : c.step? e now = some (e', c')) :
    e'.scorerCalls = e.scorerCalls + (c.computation? e).toList.length := by
  obtain ⟨-, hstep⟩ := Caller.step_of_step? h
  obtain ⟨call, phase⟩ := c
  obtain ⟨call', phase'⟩ := c'
  cases hstep with
  | compute => exact e.compute_scorerCalls call.application call.options
  | _ => rfl

/-! ### Runs -/

namespace Traffic

variable {t : Traffic} {key : CacheKey} {results : List Assessment}

theorem checked_move (h : ∀ c ∈ t.callers, c.Checked) (m : Move) :
    ∀ c ∈ (t.move m).callers, c.Checked := by
  cases m with
  | arrives call => exact List.forall_mem_append.2 ⟨h, List.forall_mem_singleton.2 trivial⟩
  | proceeds number now =>
      rcases t.move_proceeds number now with ⟨hsame, -⟩ | ⟨c, c', others, hbefore, hstep, hafter, -⟩
      · rw [hsame]
        exact h
      · intro d hd
        rcases List.mem_cons.1 (hafter.mem_iff.1 hd) with rfl | hd
        · exact (h c (hbefore.mem_iff.2 List.mem_cons_self)).step hstep
        · exact h d (hbefore.mem_iff.2 (List.mem_cons_of_mem c hd))
  | invalidates a => exact h
  | registers p => exact h
  | unregisters id => exact h

theorem checked_run (h : ∀ c ∈ t.callers, c.Checked) (moves : List Move) :
    ∀ c ∈ (t.run moves).callers, c.Checked := by
  induction moves generalizing t with
  | nil => exact h
  | cons m moves ih => exact ih (checked_move h m)

theorem move_scorerCalls (t : Traffic) (m : Move) :
    (t.move m).engine.scorerCalls = t.engine.scorerCalls + (t.computed? m).toList.length := by
  cases m with
  | proceeds number now =>
      rcases t.move_proceeds number now with ⟨hsame, hnone⟩ | ⟨c, c', others, -, hstep, -, hcomputed⟩
      · rw [hsame, hnone]
        rfl
      · rw [hcomputed]
        exact Caller.step_scorerCalls hstep
  | arrives call => rfl
  | invalidates a => rfl
  | registers p => exact Engine.register_scorerCalls t.engine p
  | unregisters id => rfl

theorem run_scorerCalls (t : Traffic) (moves : List Move) :
    (t.run moves).engine.scorerCalls = t.engine.scorerCalls + (t.computations moves).length := by
  induction moves generalizing t with
  | nil => rfl
  | cons m moves ih =>
      calc ((t.move m).run moves).engine.scorerCalls
        _ = (t.move m).engine.scorerCalls + ((t.move m).computations moves).length := ih (t.move m)
        _ = t.engine.scorerCalls + (t.computations (m :: moves)).length := by
            rw [move_scorerCalls, computations, List.length_append, Nat.add_assoc]

theorem flight_move (h : Flight key t.engine.cache t.callers results)
    (haccounts : Accounts t.engine.slots t.callers) (m : Move)
    (hkeeps : (t.engine.cache.find? key).isSome → ((t.move m).engine.cache.find? key).isSome) :
    Flight key (t.move m).engine.cache (t.move m).callers
      (results ++ resultsFor key (t.computed? m).toList) := by
  cases m with
  | proceeds number now =>
      rcases t.move_proceeds number now with
        ⟨hsame, hnone⟩ | ⟨c, c', others, hbefore, hstep, hafter, hcomputed⟩
      · rw [hsame, hnone]
        exact (List.append_nil results).symm ▸ h
      · rw [hcomputed]
        exact ((h.perm hbefore).step (haccounts.perm hbefore) hstep hkeeps).perm hafter.symm
  | arrives call => exact (List.append_nil results).symm ▸ h.arrive call
  | invalidates a =>
      refine (List.append_nil results).symm ▸ h.of_cache (fun entry hentry => ?_) hkeeps
      rw [show (t.move (.invalidates a)).engine.cache = t.engine.cache.remove a.key from rfl,
        Cache.find?_remove] at hentry
      split at hentry
      · cases hentry
      · exact hentry
  | registers p =>
      refine (List.append_nil results).symm ▸ h.of_cache (fun entry hentry => ?_) hkeeps
      rw [show (t.move (.registers p)).engine.cache = t.engine.cache from
        Engine.register_cache t.engine p] at hentry
      exact hentry
  | unregisters id => exact (List.append_nil results).symm ▸ h

theorem flight_run {moves : List Move} (h : Flight key t.engine.cache t.callers results)
    (haccounts : Accounts t.engine.slots t.callers) (hkeeps : t.Keeps key moves) :
    Flight key (t.run moves).engine.cache (t.run moves).callers (results ++ t.results key moves) := by
  induction moves generalizing t results with
  | nil => exact (List.append_nil results).symm ▸ h
  | cons m moves ih =>
      have hmove := ih (flight_move h haccounts m hkeeps.1) (accounts_move haccounts m) hkeeps.2
      rw [List.append_assoc, ← results_cons] at hmove
      exact hmove

/-! ### Losing a result -/

/-- What takes an entry away: it is asked for, it is found stale, or it makes room. -/
theorem lost_cases {m : Move} {entry : Entry Assessment}
    (hsome : t.engine.cache.find? key = some entry)
    (hnone : (t.move m).engine.cache.find? key = none) :
    (∃ a, m = .invalidates a ∧ a.key = key) ∨
    ∃ number now, m = .proceeds number now ∧ ∃ c ∈ t.callers,
      (c.key = key ∧ t.engine.cache.isFresh now entry = false) ∨
      ∃ slot r, c.phase = .computed slot r ∧ (t.engine.cache.insert c.key r now).1 = some key := by
  cases m with
  | proceeds number now =>
      rcases t.move_proceeds number now with ⟨hsame, -⟩ | ⟨c, c', others, hbefore, hstep, -, -⟩
      · rw [hsame, hsome] at hnone
        cases hnone
      · refine Or.inr ⟨number, now, rfl, c, hbefore.mem_iff.2 List.mem_cons_self, ?_⟩
        exact (Caller.step_of_step? hstep).2.lost hsome hnone
  | invalidates a =>
      have hremove : (t.engine.cache.remove a.key).find? key = none := hnone
      by_cases hkey : key = a.key
      · exact Or.inl ⟨a, rfl, hkey.symm⟩
      · rw [Cache.find?_remove_of_ne _ hkey, hsome] at hremove
        cases hremove
  | arrives call => cases hsome.symm.trans hnone
  | registers p =>
      have hcache : (t.engine.register p).2.cache.find? key = none := hnone
      rw [Engine.register_cache, hsome] at hcache
      cases hcache
  | unregisters id => cases hsome.symm.trans hnone

/-! ### Single flight -/

/-- **Single flight.** Callers of one key never have the lock together, so only one of them at a time
computes and stores, and as long as somebody has no answer, somebody can go on. If the cache does not
lose the result of a key, then it is computed once, and all callers whose calls are in order leave
with it. -/
theorem single_flight (scorer : Scorer) (config : EngineConfig) (capacity timeToLive : Nat)
    (moves : List Move) :
    let before := start scorer config capacity timeToLive
    let after := before.run moves
    (∀ (i j : Nat) (c d : Caller), after.callers[i]? = some c → after.callers[j]? = some d →
      c.key = d.key → c.lock?.isSome → d.lock?.isSome → i = j) ∧
    ((∀ c ∈ after.callers, ∃ now, c.step? after.engine now = none) →
      ∀ c ∈ after.callers, ∃ answer, c.phase = .answered answer) ∧
    after.engine.scorerCalls = (before.computations moves).length ∧
    ∀ key, before.Keeps key moves →
      (before.results key moves).length ≤ 1 ∧
      ∀ c ∈ after.callers, c.key = key → ∀ answer, c.phase = .answered answer →
        (∃ fault, c.check = .error fault ∧ answer = .error fault) ∨
          c.check = .ok () ∧ ∃ r, before.results key moves = [r] ∧ answer = .ok r := by
  intro before after
  have haccounts : Accounts before.engine.slots before.callers := .of_idle rfl rfl
  have haccounts' : Accounts after.engine.slots after.callers := accounts_run haccounts moves
  have hchecked : ∀ c ∈ after.callers, c.Checked :=
    checked_run (fun _ hc => absurd hc List.not_mem_nil) moves
  refine ⟨?exclusion, answered_of_stuck haccounts', ?scorer, ?once⟩
  case exclusion =>
    intro i j c d hc hd hkey hlock hlock'
    exact eq_of_lock? haccounts' hc hd hkey hlock hlock'
  case scorer => exact (run_scorerCalls before moves).trans (Nat.zero_add _)
  case once =>
    intro key hkeeps
    have hflight := flight_run (.of_none rfl) haccounts hkeeps
    refine ⟨hflight.single, fun c hc hkey answer hphase => ?_⟩
    rcases (hchecked c hc).answered hphase with hfault | ⟨hcheck, r, rfl, hresult⟩
    · exact Or.inl hfault
    · exact Or.inr ⟨hcheck, r, (hflight.agrees c hc hkey).shared r hresult, rfl⟩

/-- The first two callers want the same, the third wants more. The first has to wait for the second. -/
def crossing : List Move :=
  [.arrives (Engine.sampleCall 1000 none), .arrives (Engine.sampleCall 1000 (some 700)),
    .arrives (Engine.sampleCall 2000 none),
    .proceeds 0 0, .proceeds 1 0, .proceeds 1 0, .proceeds 0 1, .proceeds 1 1, .proceeds 0 1,
    .proceeds 2 1, .proceeds 2 1, .proceeds 2 1, .proceeds 1 2, .proceeds 2 2, .proceeds 1 3,
    .proceeds 2 3, .proceeds 2 4, .invalidates (Engine.sampleCall 2000 none).application,
    .proceeds 1 4, .proceeds 1 5, .proceeds 0 5, .proceeds 1 6, .proceeds 0 6, .proceeds 0 7,
    .proceeds 0 7]

theorem single_flight_crossing :
    let before := start .standard .standard 2 10
    let key := (Engine.sampleCall 1000 none).application.key
    before.Keeps key crossing ∧
      ((before.run crossing).callers.map fun c => decide (c.key = key)) = [true, true, false] ∧
      ∃ r, before.results key crossing = [r] ∧
        ∀ c ∈ (before.run crossing).callers, c.key = key → c.answer? = some (.ok r) := by
  intro before key
  have hkeeps : before.Keeps key crossing := by decide +kernel
  have hdone : ∀ c ∈ (before.run crossing).callers, c.key = key →
      c.check.isOk = true ∧ c.answer?.isSome = true := by decide +kernel
  obtain ⟨-, -, -, honce⟩ := single_flight .standard .standard 2 10 crossing
  have hanswers : ∀ c ∈ (before.run crossing).callers, c.key = key →
      ∃ r, before.results key crossing = [r] ∧ c.answer? = some (.ok r) := by
    intro c hc hkey
    obtain ⟨hcheck, hanswered⟩ := hdone c hc hkey
    obtain ⟨answer, hphase⟩ := Caller.answered_of_answer? hanswered
    rcases (honce key hkeeps).2 c hc hkey answer hphase with ⟨fault, hfault, -⟩ | ⟨-, r, hresults, rfl⟩
    · rw [hfault] at hcheck
      cases hcheck
    · exact ⟨r, hresults, by rw [Caller.answer?, hphase]⟩
  have hfirst : ∃ c ∈ (before.run crossing).callers, c.key = key := by decide +kernel
  obtain ⟨c, hc, hkey⟩ := hfirst
  obtain ⟨r, hresults, -⟩ := hanswers c hc hkey
  refine ⟨hkeeps, by decide +kernel, r, hresults, fun d hd hkey' => ?_⟩
  obtain ⟨r', hresults', hanswer⟩ := hanswers d hd hkey'
  rw [hanswer, List.singleton_inj.1 (hresults.symm.trans hresults')]

end Traffic
end Lending
