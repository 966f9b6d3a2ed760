import Lending.Proofs.Engine.Recommendation

/-!
# Work is done once

The engine counts how often it asked its scorer, and how often each registered partner. Only a call that
computes adds to the counts: one for the scorer, and one for each partner in question, in its registration
at that time. Partners that were removed and registered again have several entries, of which the last is the
one that the directory knows (`IsLatest`).
-/

namespace Lending.Engine

/-! ### Counting questions -/

/-- The entry with this number is for the partner, and it is the last one that is. -/
def IsLatest (probes : List (PartnerId × Nat)) (i : Nat) (id : PartnerId) : Prop :=
  (probes.map Prod.fst)[i]? = some id ∧ id ∉ (probes.map Prod.fst).drop (i + 1)

instance (probes : List (PartnerId × Nat)) (i : Nat) (id : PartnerId) : Decidable (IsLatest probes i id) :=
  inferInstanceAs (Decidable (_ ∧ _))

variable {probes : List (PartnerId × Nat)} {ids : List PartnerId}

theorem countProbe_cons (id : PartnerId) (head : PartnerId × Nat) (rest : List (PartnerId × Nat)) :
    countProbe id (head :: rest) =
      if head.1 = id ∧ id ∉ rest.map Prod.fst then (head.1, head.2 + 1) :: rest
      else head :: countProbe id rest := by
  have hall : (rest.all fun entry => entry.1 != id) = true ↔ id ∉ rest.map Prod.fst := by
    rw [List.all_eq_true, List.mem_map]
    constructor
    · rintro h ⟨entry, hentry, heq⟩
      exact bne_iff_ne.1 (h entry hentry) heq
    · exact fun h entry hentry => bne_iff_ne.2 fun heq => h ⟨entry, hentry, heq⟩
  simp only [countProbe, hall]

theorem map_fst_countProbe (id : PartnerId) (probes : List (PartnerId × Nat)) :
    (countProbe id probes).map Prod.fst = probes.map Prod.fst := by
  induction probes with
  | nil => rfl
  | cons entry rest ih =>
      rw [countProbe_cons]
      split
      · rfl
      · rw [List.map_cons, ih, List.map_cons]

theorem isLatest_countProbe (id : PartnerId) (i : Nat) (other : PartnerId) :
    IsLatest (countProbe id probes) i other ↔ IsLatest probes i other := by
  rw [IsLatest, IsLatest, map_fst_countProbe]

/-- The latest entry of the partner goes up by one, the others stay. -/
theorem getElem?_countProbe (id : PartnerId) (probes : List (PartnerId × Nat)) (i : Nat) :
    (countProbe id probes)[i]? = probes[i]?.map fun entry =>
      (entry.1, entry.2 + if entry.1 = id ∧ IsLatest probes i entry.1 then 1 else 0) := by
  induction probes generalizing i with
  | nil => rfl
  | cons head rest ih =>
      rw [countProbe_cons]
      cases i with
      | zero =>
          have hlatest : IsLatest (head :: rest) 0 head.1 ↔ head.1 ∉ rest.map Prod.fst := by
            simp [IsLatest]
          split
          · rename_i hhead
            have hlast : head.1 = id ∧ head.1 ∉ rest.map Prod.fst := ⟨hhead.1, hhead.1 ▸ hhead.2⟩
            simp only [List.getElem?_cons_zero, Option.map_some, hlatest, if_pos hlast]
          · rename_i hhead
            have hlast : ¬ (head.1 = id ∧ head.1 ∉ rest.map Prod.fst) :=
              fun h => hhead ⟨h.1, h.1 ▸ h.2⟩
            simp only [List.getElem?_cons_zero, Option.map_some, hlatest, if_neg hlast, Nat.add_zero]
      | succ i =>
          have hlatest (other : PartnerId) : IsLatest (head :: rest) (i + 1) other ↔ IsLatest rest i other :=
            Iff.rfl
          split
          · rename_i hhead
            rw [List.getElem?_cons_succ, List.getElem?_cons_succ]
            cases hentry : rest[i]? with
            | none => rfl
            | some entry =>
                have hne : entry.1 ≠ id := fun heq =>
                  hhead.2 (heq ▸ List.mem_map_of_mem (List.mem_of_getElem? hentry))
                simp [hne]
          · rw [List.getElem?_cons_succ, List.getElem?_cons_succ, ih]
            simp only [hlatest]

theorem getElem?_foldl_countProbe (hnodup : ids.Nodup) (probes : List (PartnerId × Nat)) (i : Nat) :
    (ids.foldl (fun probes id => countProbe id probes) probes)[i]? = probes[i]?.map fun entry =>
      (entry.1, entry.2 + if entry.1 ∈ ids ∧ IsLatest probes i entry.1 then 1 else 0) := by
  induction ids generalizing probes with
  | nil => simp
  | cons id ids ih =>
      obtain ⟨hid, hnodup⟩ := List.nodup_cons.1 hnodup
      rw [List.foldl_cons, ih hnodup, getElem?_countProbe, Option.map_map]
      refine congrArg (fun f => probes[i]?.map f) (funext fun entry => ?_)
      simp only [Function.comp_apply, isLatest_countProbe, List.mem_cons]
      by_cases heq : entry.1 = id
      · simp [heq, hid]
      · simp [heq]

theorem map_fst_foldl_countProbe (ids : List PartnerId) (probes : List (PartnerId × Nat)) :
    (ids.foldl (fun probes id => countProbe id probes) probes).map Prod.fst = probes.map Prod.fst := by
  induction ids generalizing probes with
  | nil => rfl
  | cons id ids ih => rw [List.foldl_cons, ih, map_fst_countProbe]

theorem exists_isLatest {id : PartnerId} (h : id ∈ probes.map Prod.fst) :
    ∃ i, IsLatest probes i id := by
  induction probes with
  | nil => cases h
  | cons head rest ih =>
      by_cases hrest : id ∈ rest.map Prod.fst
      · obtain ⟨i, hlatest⟩ := ih hrest
        exact ⟨i + 1, hlatest⟩
      · rw [List.map_cons, List.mem_cons] at h
        rcases h with rfl | h
        · exact ⟨0, rfl, hrest⟩
        · exact absurd h hrest

/-! ### What an operation adds -/

instance (e : Engine) (call : Call) (arrival : Nat) : Decidable (e.Computes call arrival) :=
  inferInstanceAs (Decidable (_ ∧ _))

def Misses (e : Engine) : Operation → Prop
  | .answers call arrival _ => e.Computes call arrival
  | _ => False

instance (e : Engine) : (operation : Operation) → Decidable (e.Misses operation)
  | .answers call arrival _ => inferInstanceAs (Decidable (e.Computes call arrival))
  | .invalidates _ | .registers _ | .unregisters _ => inferInstanceAs (Decidable False)

/-- The operation is a call that computes, and the registration with this number is the current one of a
partner that offers the product and has a score that is high enough. -/
def Asks (e : Engine) (i : Nat) (id : PartnerId) : Operation → Prop
  | .answers call arrival _ =>
    e.Computes call arrival ∧ id ∈ e.setting.qualified call.application call.options ∧
      IsLatest e.probes i id
  | _ => False

instance (e : Engine) (i : Nat) (id : PartnerId) : (operation : Operation) → Decidable (e.Asks i id operation)
  | .answers _ _ _ => inferInstanceAs (Decidable (_ ∧ _ ∧ _))
  | .invalidates _ | .registers _ | .unregisters _ => inferInstanceAs (Decidable False)

variable {e : Engine} {call : Call} {arrival finish : Nat}

theorem perform_of_not_computes (h : ¬ e.Computes call arrival) (finish : Nat) :
    e.perform (.answers call arrival finish) = e := by
  rcases e.answer_cases call arrival finish with ⟨_, -, hanswer⟩ | ⟨_, -, -, -, hanswer⟩ | ⟨hcomputes, -⟩
  · rw [perform, hanswer]
  · rw [perform, hanswer]
  · exact absurd hcomputes h

theorem perform_of_computes (h : e.Computes call arrival) (finish : Nat) :
    (e.perform (.answers call arrival finish)).scorerCalls = e.scorerCalls + 1 ∧
      (e.perform (.answers call arrival finish)).probes =
        ((e.setting.shortlist call.application call.options).map fun entry => entry.1.id).foldl
          (fun probes id => countProbe id probes) e.probes := by
  obtain ⟨hcheck, hmissed⟩ := h
  rcases e.lookUp_cases call.application arrival with ⟨entry, -, -, hlook⟩ | ⟨-, hlook⟩
  · rw [hlook] at hmissed
    cases hmissed
  · simp only [perform, answer, hcheck, hlook, compute_eq]
    refine ⟨rfl, ?_⟩
    rw [List.foldl_map]
    rfl

theorem register_probes (e : Engine) (p : Partner) :
    ((e.register p).2.probes = e.probes ∧ (e.register p).2.directory = e.directory) ∨
      ((e.register p).2.probes = e.probes ++ [(p.id, 0)] ∧
        (e.register p).2.directory = ⟨e.directory.partners ++ [p]⟩) := by
  unfold register
  rcases e.directory.register_cases p with ⟨-, h⟩ | ⟨-, -, h⟩ | ⟨-, -, h⟩
  · rw [h]
    exact Or.inl ⟨rfl, rfl⟩
  · rw [h]
    exact Or.inl ⟨rfl, rfl⟩
  · rw [h]
    exact Or.inr ⟨rfl, rfl⟩

theorem perform_scorerCalls (e : Engine) (operation : Operation) :
    (e.perform operation).scorerCalls = e.scorerCalls + if e.Misses operation then 1 else 0 := by
  cases operation with
  | answers call arrival finish =>
      have hmisses : e.Misses (.answers call arrival finish) ↔ e.Computes call arrival := Iff.rfl
      by_cases h : e.Computes call arrival
      · rw [(perform_of_computes h finish).1, if_pos (hmisses.2 h)]
      · rw [perform_of_not_computes h, if_neg (mt hmisses.1 h), Nat.add_zero]
  | invalidates a => rfl
  | registers p => exact register_scorerCalls e p
  | unregisters id => rfl

/-- The entries that there are only grow, each by one if its partner is asked. -/
theorem getElem?_perform_probes (hdistinct : e.directory.Distinct) (operation : Operation) {i : Nat}
    {id : PartnerId} {count : Nat} (hentry : e.probes[i]? = some (id, count)) :
    (e.perform operation).probes[i]? =
      some (id, count + if e.Asks i id operation then 1 else 0) := by
  cases operation with
  | answers call arrival finish =>
      by_cases h : e.Computes call arrival
      · have hasked : (id ∈ (e.setting.shortlist call.application call.options).map
            fun entry => entry.1.id) ↔ id ∈ e.setting.qualified call.application call.options := by
          rw [← Setting.toFinset_shortlist, List.mem_toFinset]
        rw [(perform_of_computes h finish).2, getElem?_foldl_countProbe (Setting.nodup_shortlist hdistinct),
          hentry, Option.map_some]
        simp only [hasked, Asks, h, true_and]
      · rw [perform_of_not_computes h, hentry, if_neg fun hasks => h hasks.1, Nat.add_zero]
  | invalidates a => exact hentry
  | registers p =>
      rcases e.register_probes p with ⟨hprobes, -⟩ | ⟨hprobes, -⟩
      · rw [perform, hprobes]
        exact hentry
      · have hlt : i < e.probes.length := (List.getElem?_eq_some_iff.1 hentry).1
        rw [perform, hprobes, List.getElem?_append_left hlt]
        exact hentry
  | unregisters id => exact hentry

/-! ### Runs -/

/-- Every partner in the directory has an entry. -/
def Recorded (e : Engine) : Prop := ∀ p ∈ e.directory.partners, p.id ∈ e.probes.map Prod.fst

theorem map_fst_perform_answers (e : Engine) (call : Call) (arrival finish : Nat) :
    (e.perform (.answers call arrival finish)).probes.map Prod.fst = e.probes.map Prod.fst := by
  by_cases h : e.Computes call arrival
  · rw [(perform_of_computes h finish).2, map_fst_foldl_countProbe]
  · rw [perform_of_not_computes h]

theorem eq_zero_of_new {operation : Operation} {i : Nat} {id : PartnerId} {count : Nat}
    (hnew : e.probes[i]? = none) (hentry : (e.perform operation).probes[i]? = some (id, count)) :
    count = 0 := by
  cases operation with
  | answers call arrival finish =>
      have hkeys := congrArg List.length (e.map_fst_perform_answers call arrival finish)
      rw [List.length_map, List.length_map] at hkeys
      rw [List.getElem?_eq_none_iff, ← hkeys, ← List.getElem?_eq_none_iff, hentry] at hnew
      cases hnew
  | invalidates a => exact nomatch hnew.symm.trans hentry
  | registers p =>
      rcases e.register_probes p with ⟨hprobes, -⟩ | ⟨hprobes, -⟩
      · rw [perform, hprobes, hnew] at hentry
        cases hentry
      · rw [perform, hprobes, List.getElem?_append_right (List.getElem?_eq_none_iff.1 hnew)] at hentry
        have hmem := List.mem_of_getElem? hentry
        rw [List.mem_singleton] at hmem
        exact congrArg Prod.snd hmem
  | unregisters id => exact nomatch hnew.symm.trans hentry

theorem recorded_start (scorer : Scorer) (config : EngineConfig) (cache : Cache CacheKey Assessment) :
    (start scorer config cache).Recorded := by
  intro p hp
  cases hp

theorem Recorded.perform (h : e.Recorded) (operation : Operation) : (e.perform operation).Recorded := by
  cases operation with
  | answers call arrival finish =>
      intro p hp
      rw [Engine.perform, answer_directory] at hp
      rw [map_fst_perform_answers]
      exact h p hp
  | invalidates a => exact h
  | registers q =>
      intro p hp
      rcases e.register_probes q with ⟨hprobes, hdirectory⟩ | ⟨hprobes, hdirectory⟩
      · rw [Engine.perform, hdirectory] at hp
        rw [Engine.perform, hprobes]
        exact h p hp
      · rw [Engine.perform, hdirectory] at hp
        rw [Engine.perform, hprobes, List.map_append]
        rcases List.mem_append.1 hp with hheld | hnew
        · exact List.mem_append_left _ (h p hheld)
        · rw [List.mem_singleton.1 hnew]
          exact List.mem_append_right _ (List.mem_singleton_self _)
  | unregisters id => exact fun p hp => h p (List.mem_of_mem_filter hp)

theorem Recorded.after (h : e.Recorded) (operations : List Operation) (n : Nat) :
    (e.after operations n).Recorded :=
  after_of_perform (fun _ operation hbefore => hbefore.perform operation) h operations n

/-- **Work is done once for each result.** Whatever was done to the engine before, an operation has the
scorer asked once if it is a call that misses, and not at all otherwise. Of a registered partner, the entry
of its latest registration goes up by one if the operation is a call that misses and the partner is in
question for it; no other entry changes, and a new one begins at 0. -/
theorem counts_perform (scorer : Scorer) (config : EngineConfig) (cache : Cache CacheKey Assessment)
    (operations : List Operation) (n : Nat) (operation : Operation) :
    let e := (start scorer config cache).after operations n
    let next := e.perform operation
    next.scorerCalls = e.scorerCalls + (if e.Misses operation then 1 else 0) ∧
    (∀ p ∈ e.directory.partners, ∃ i, IsLatest e.probes i p.id) ∧
    (∀ (i : Nat) id count, e.probes[i]? = some (id, count) →
      next.probes[i]? = some (id, count + if e.Asks i id operation then 1 else 0)) ∧
    ∀ (i : Nat) id count, e.probes[i]? = none → next.probes[i]? = some (id, count) → count = 0 := by
  intro e next
  have hdistinct : e.directory.Distinct := after_distinct Directory.distinct_empty operations n
  have hrecorded : e.Recorded := (recorded_start scorer config cache).after operations n
  exact ⟨perform_scorerCalls e operation, fun p hp => exists_isLatest (hrecorded p hp),
    fun i id count hentry => getElem?_perform_probes hdistinct operation hentry,
    fun i id count hnew hentry => eq_zero_of_new hnew hentry⟩

end Lending.Engine
