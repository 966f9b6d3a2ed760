import Lending.Proofs.Engine.Exclusion

/-!
# Flights

What was computed for a key, and what the cache and the callers have of it. Every step keeps a `Flight`,
as long as the cache does not lose the result: what callers of the key have, and what the cache has, is
the one result that was computed; and once it was computed, either the cache has it or the caller who
computed it is about to store it, with the lock that keeps all others from computing another.
-/

namespace Lending

/-! ### What a step finds and leaves -/

namespace Step

variable {e e' : Engine} {call : Call} {now : Nat} {phase phase' : Phase} {key : CacheKey}
  {entry : Entry Assessment} {assessment : Assessment} {slot : Nat}

/-- An entry was there before, or it is the one that the caller has computed. -/
theorem find?_eq_some (h : Step e call now phase e' phase') (hentry : e'.cache.find? key = some entry) :
    e.cache.find? key = some entry ∨
      (call.application.key = key ∧ ∃ slot, phase = .computed slot entry.value) := by
  have hremoved : (e.cache.remove call.application.key).find? key = some entry →
      e.cache.find? key = some entry := by
    intro hremove
    rw [Cache.find?_remove] at hremove
    split at hremove
    · cases hremove
    · exact hremove
  cases h with
  | miss => exact Or.inl (hremoved hentry)
  | missAgain => exact Or.inl (hremoved hentry)
  | @store slot assessment =>
      by_cases hkey : key = call.application.key
      · subst hkey
        refine Or.inr ⟨rfl, slot, ?_⟩
        have hstored := (e.cache.find?_insert_self call.application.key assessment now).symm.trans hentry
        rw [← Option.some.inj hstored]
      · exact Or.inl (Cache.find?_of_insert hkey hentry)
  | refused => exact Or.inl hentry
  | hit => exact Or.inl hentry
  | take => exact Or.inl hentry
  | lock => exact Or.inl hentry
  | hitAgain => exact Or.inl hentry
  | compute =>
      rw [Engine.compute_cache] at hentry
      exact Or.inl hentry
  | unlock => exact Or.inl hentry
  | drop => exact Or.inl hentry

theorem find?_isSome (h : Step e call now (.computed slot assessment) e' phase') :
    (e'.cache.find? call.application.key).isSome := by
  cases h with
  | store =>
      show ((e.cache.insert call.application.key assessment now).2.find? _).isSome
      rw [Cache.find?_insert_self]
      rfl

theorem computing (h : Step e call now phase e' (.computing slot)) :
    phase = .locked slot ∧ e'.cache.find? call.application.key = none := by
  cases h with
  | missAgain => exact ⟨rfl, Cache.find?_remove_self _ _⟩

/-- A result is one that the caller had, found, or computed. -/
theorem result?_eq_some (h : Step e call now phase e' phase')
    (hresult : phase'.result? = some assessment) :
    phase.result? = some assessment ∨
      (∃ entry, e.cache.find? call.application.key = some entry ∧ entry.value = assessment) ∨
      ∃ slot, phase = .computing slot ∧
        (e.compute call.application call.options).1 = assessment := by
  cases h with
  | hit _ hentry => exact Or.inr (Or.inl ⟨_, hentry, Option.some.inj hresult⟩)
  | hitAgain hentry => exact Or.inr (Or.inl ⟨_, hentry, Option.some.inj hresult⟩)
  | compute => exact Or.inr (Or.inr ⟨_, rfl, Option.some.inj hresult⟩)
  | store => exact Or.inl hresult
  | unlock => exact Or.inl hresult
  | drop => exact Or.inl hresult
  | refused => cases hresult
  | miss => cases hresult
  | take => cases hresult
  | lock => cases hresult
  | missAgain => cases hresult

/-- An entry goes if it is found stale, or to make room for the result of another key. -/
theorem lost (h : Step e call now phase e' phase') (hsome : e.cache.find? key = some entry)
    (hnone : e'.cache.find? key = none) :
    (call.application.key = key ∧ e.cache.isFresh now entry = false) ∨
      ∃ slot r, phase = .computed slot r ∧
        (e.cache.insert call.application.key r now).1 = some key := by
  have hremoved : (e.cache.remove call.application.key).find? key = none →
      call.application.key = key := by
    intro hremove
    by_contra hne
    rw [Cache.find?_remove_of_ne _ (Ne.symm hne), hsome] at hremove
    cases hremove
  cases h with
  | miss _ hstale =>
      have hkey := hremoved hnone
      exact Or.inl ⟨hkey, hstale entry (hkey ▸ hsome)⟩
  | missAgain hstale =>
      have hkey := hremoved hnone
      exact Or.inl ⟨hkey, hstale entry (hkey ▸ hsome)⟩
  | @store slot assessment =>
      have hgone : (e.cache.insert call.application.key assessment now).2.find? key = none := hnone
      by_cases hkey : key = call.application.key
      · rw [hkey, Cache.find?_insert_self] at hgone
        cases hgone
      · exact Or.inr ⟨slot, assessment, rfl, Cache.insert_evicts hkey hsome hgone⟩
  | refused => cases hsome.symm.trans hnone
  | hit => cases hsome.symm.trans hnone
  | take => cases hsome.symm.trans hnone
  | lock => cases hsome.symm.trans hnone
  | hitAgain => cases hsome.symm.trans hnone
  | compute =>
      rw [Engine.compute_cache] at hnone
      cases hsome.symm.trans hnone
  | unlock => cases hsome.symm.trans hnone
  | drop => cases hsome.symm.trans hnone

end Step

/-! ### What was computed for a key -/

/-- A caller has no result but the only one, and computes none when there is one. -/
structure Caller.Agrees (c : Caller) (results : List Assessment) : Prop where
  shared : ∀ r, c.result? = some r → results = [r]
  first : ∀ slot, c.phase = .computing slot → results = []

/-- The results that were computed for a key, with what the cache and the callers have of them. -/
structure Flight (key : CacheKey) (cache : Cache CacheKey Assessment) (callers : List Caller)
    (results : List Assessment) : Prop where
  single : results.length ≤ 1
  stored : ∀ entry, cache.find? key = some entry → results = [entry.value]
  agrees : ∀ c ∈ callers, c.key = key → c.Agrees results
  kept : results ≠ [] → (cache.find? key).isSome ∨
    ∃ c ∈ callers, c.key = key ∧ ∃ slot r, c.phase = .computed slot r

namespace Flight

variable {key : CacheKey} {cache cache' : Cache CacheKey Assessment} {callers others : List Caller}
  {results : List Assessment} {c c' : Caller} {e e' : Engine} {now : Nat}

theorem of_none (hnone : cache.find? key = none) : Flight key cache [] [] where
  single := Nat.zero_le 1
  stored _ hentry := nomatch hnone.symm.trans hentry
  agrees _ hc := nomatch hc
  kept hne := absurd rfl hne

theorem perm (h : Flight key cache callers results) {callers' : List Caller}
    (hperm : callers.Perm callers') : Flight key cache callers' results where
  single := h.single
  stored := h.stored
  agrees c hc := h.agrees c (hperm.mem_iff.2 hc)
  kept hne := by
    rcases h.kept hne with hsome | ⟨c, hc, hcomputed⟩
    · exact Or.inl hsome
    · exact Or.inr ⟨c, hperm.mem_iff.1 hc, hcomputed⟩

/-- The cache may drop other entries. -/
theorem of_cache (h : Flight key cache callers results)
    (hsub : ∀ entry, cache'.find? key = some entry → cache.find? key = some entry)
    (hkeeps : (cache.find? key).isSome → (cache'.find? key).isSome) :
    Flight key cache' callers results where
  single := h.single
  stored entry hentry := h.stored entry (hsub entry hentry)
  agrees := h.agrees
  kept hne := (h.kept hne).imp_left hkeeps

theorem arrive (h : Flight key cache callers results) (call : Call) :
    Flight key cache (callers ++ [.arrive call]) results where
  single := h.single
  stored := h.stored
  agrees := by
    refine List.forall_mem_append.2 ⟨h.agrees, List.forall_mem_singleton.2 fun _ => ?_⟩
    constructor
    · intro r hr
      cases hr
    · intro slot hslot
      cases hslot
  kept hne := by
    rcases h.kept hne with hsome | ⟨c, hc, hcomputed⟩
    · exact Or.inl hsome
    · exact Or.inr ⟨c, List.mem_append_left _ hc, hcomputed⟩

/-- A caller goes on, and no result for the key is added. -/
theorem goOn (h : Flight key cache (c :: others) results) (hkey : c'.key = c.key)
    (hstored : ∀ entry, cache'.find? key = some entry → results = [entry.value])
    (hkeeps : (cache.find? key).isSome → (cache'.find? key).isSome)
    (hagrees : c.key = key → c'.Agrees results)
    (hcomputed : c.key = key → ∀ slot r, c.phase = .computed slot r → (cache'.find? key).isSome) :
    Flight key cache' (c' :: others) results where
  single := h.single
  stored := hstored
  agrees d hd hd' := by
    rcases List.mem_cons.1 hd with rfl | hd
    · exact hagrees (hkey ▸ hd')
    · exact h.agrees d (List.mem_cons_of_mem c hd) hd'
  kept hne := by
    rcases h.kept hne with hsome | ⟨d, hd, hd', slot, r, hphase⟩
    · exact Or.inl (hkeeps hsome)
    · rcases List.mem_cons.1 hd with rfl | hd
      · exact Or.inl (hcomputed hd' slot r hphase)
      · exact Or.inr ⟨d, List.mem_cons_of_mem c' hd, hd', slot, r, hphase⟩

/-- Who has the lock and finds no entry is the first to compute. -/
theorem eq_nil_of_locked (h : Flight key e.cache (c :: others) results)
    (haccounts : Accounts e.slots (c :: others)) (hkey : c.key = key) {slot : Nat}
    (hphase : c.phase = .locked slot) (hnone : e.cache.find? key = none) : results = [] := by
  by_contra hne
  rcases h.kept hne with hsome | ⟨d, hd, hd', other, r, hcomputed⟩
  · rw [hnone] at hsome
    cases hsome
  · have hlock : c.lock? = some slot := by rw [Caller.lock?, hphase, Phase.lock?]
    rcases List.mem_cons.1 hd with rfl | hd
    · rw [hphase] at hcomputed
      cases hcomputed
    · have hlock' := haccounts.lock?_eq_none hlock d hd (hd'.trans hkey.symm)
      rw [Caller.lock?, hcomputed] at hlock'
      cases hlock'

theorem compute (h : Flight key e.cache (c :: others) results)
    (haccounts : Accounts e.slots (c :: others)) (hkey : c.key = key) (hkey' : c'.key = c.key)
    {slot : Nat} (hphase : c.phase = .computing slot) {r : Assessment}
    (hphase' : c'.phase = .computed slot r) :
    Flight key e.cache (c' :: others) (results ++ [r]) := by
  have hnil : results = [] := (h.agrees c List.mem_cons_self hkey).first slot hphase
  have hlock : c.lock? = some slot := by rw [Caller.lock?, hphase, Phase.lock?]
  subst hnil
  constructor
  case single => exact Nat.le_refl 1
  case stored =>
    intro entry hentry
    cases h.stored entry hentry
  case agrees =>
    intro d hd hd'
    rcases List.mem_cons.1 hd with rfl | hd
    · constructor
      · intro r' hr'
        rw [Caller.result?, hphase'] at hr'
        rw [← Option.some.inj hr', List.nil_append]
      · intro other hother
        rw [hphase'] at hother
        cases hother
    · -- nobody else had a result before, and nobody else has the lock
      have hagrees := h.agrees d (List.mem_cons_of_mem c hd) hd'
      constructor
      · intro r' hr'
        cases hagrees.shared r' hr'
      · intro other hother
        have hnone := haccounts.lock?_eq_none hlock d hd (hd'.trans hkey.symm)
        rw [Caller.lock?, hother] at hnone
        cases hnone
  case kept =>
    intro _
    exact Or.inr ⟨c', List.mem_cons_self, hkey'.trans hkey, slot, r, hphase'⟩

theorem step (h : Flight key e.cache (c :: others) results)
    (haccounts : Accounts e.slots (c :: others)) (hstep : c.step? e now = some (e', c'))
    (hkeeps : (e.cache.find? key).isSome → (e'.cache.find? key).isSome) :
    Flight key e'.cache (c' :: others) (results ++ resultsFor key (c.computation? e).toList) := by
  obtain ⟨hcall, hstep⟩ := Caller.step_of_step? hstep
  have hkey' : c'.key = c.key := by rw [Caller.key, Caller.key, hcall]
  -- only a computation for the key adds a result; every other step goes on with those there are
  by_cases hfirst : c.key = key ∧ ∃ slot, c.phase = .computing slot
  · obtain ⟨hkey, slot, hphase⟩ := hfirst
    have hcomputation : resultsFor key (c.computation? e).toList =
        [(e.compute c.call.application c.call.options).1] := by
      simp [resultsFor, Caller.computation?, hphase, hkey]
    rw [hcomputation]
    rw [hphase] at hstep
    generalize hafter : c'.phase = phase' at hstep
    cases hstep with
    | compute =>
        rw [Engine.compute_cache]
        exact h.compute haccounts hkey hkey' hphase hafter
  · have hnone : resultsFor key (c.computation? e).toList = [] := by
      unfold Caller.computation?
      split
      · rename_i slot hphase
        have hne : c.key ≠ key := fun hkey => hfirst ⟨hkey, slot, hphase⟩
        simp [resultsFor, hne]
      · rfl
    rw [hnone, List.append_nil]
    refine h.goOn hkey' ?stored hkeeps ?agrees ?computed
    case stored =>
      intro entry hentry
      rcases hstep.find?_eq_some hentry with hbefore | ⟨hkey, slot, hphase⟩
      · exact h.stored entry hbefore
      · refine (h.agrees c List.mem_cons_self hkey).shared entry.value ?_
        rw [Caller.result?, hphase, Phase.result?]
    case agrees =>
      intro hkey
      constructor
      · intro r hr
        rcases hstep.result?_eq_some hr with hhad | ⟨entry, hentry, rfl⟩ | ⟨slot, hphase, -⟩
        · exact (h.agrees c List.mem_cons_self hkey).shared r hhad
        · exact h.stored entry (hkey ▸ hentry)
        · exact absurd ⟨hkey, slot, hphase⟩ hfirst
      · intro slot hphase'
        rw [hphase'] at hstep
        obtain ⟨hphase, hgone⟩ := hstep.computing
        refine h.eq_nil_of_locked haccounts hkey hphase ?_
        cases hbefore : e.cache.find? key with
        | none => rfl
        | some entry =>
            have hsome := hkeeps (by rw [hbefore]; rfl)
            rw [← hkey, show c.key = c.call.application.key from rfl, hgone] at hsome
            cases hsome
    case computed =>
      intro hkey slot r hphase
      rw [hphase] at hstep
      rw [← hkey]
      exact hstep.find?_isSome

end Flight

end Lending
