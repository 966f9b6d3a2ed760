import Lending.Proofs.Decimal.Normal
import Lending.Proofs.Engine.Operation

/-!
# Where an answer comes from

Every answer was computed for the user of the tenant who gets it, for the product and the amount asked
for, and is the latest that was. The invariant is that each entry of the cache has such an origin: a call
that computed it, after which no operation forgot or replaced it.
-/

namespace Lending

/-- One user of one tenant asks for one product and one amount, with whatever profile and purpose, and
however the amount was written. -/
def Application.Alike (a b : Application) : Prop :=
  a.tenant = b.tenant ∧ a.user = b.user ∧ a.request.product = b.request.product ∧
    Decimal.Same a.request.amount.value b.request.amount.value

theorem Application.key_eq_iff {a b : Application} : a.key = b.key ↔ a.Alike b := by
  rw [key, key, CacheKey.mk.injEq, Amount.eq_iff_same, Alike]
  tauto

namespace Engine

open Application (key_eq_iff)

/-- The operation forgets the answer to an application, or computes another one. -/
def Renews (e : Engine) (a : Application) : Operation → Prop
  | .answers call arrival _ => call.application.Alike a ∧ e.Computes call arrival
  | .invalidates b => b.Alike a
  | _ => False

/-- Before operation `n`, the last to renew the answer to `a` was operation `j`, a call that computed
`assessment` and stored it at the time `finish`. -/
structure Origin (e : Engine) (operations : List Operation) (n : Nat) (a : Application)
    (assessment : Assessment) (finish j : Nat) (call : Call) (arrival : Nat) : Prop where
  lt : j < n
  operation : operations[j]? = some (.answers call arrival finish)
  alike : call.application.Alike a
  computes : (e.after operations j).Computes call arrival
  result_eq : (e.after operations j).result call = assessment
  untouched : ∀ m operation, j < m → m < n → operations[m]? = some operation →
    ¬ (e.after operations m).Renews a operation

variable {e : Engine} {operations : List Operation} {a : Application} {entry : Entry Assessment}

/-- An entry was there before and was not renewed, or it was computed just now. -/
theorem find?_perform {operation : Operation}
    (h : (e.perform operation).cache.find? a.key = some entry) :
    (e.cache.find? a.key = some entry ∧ ¬ e.Renews a operation) ∨
      ∃ call arrival, operation = .answers call arrival entry.insertedAt ∧
        call.application.Alike a ∧ e.Computes call arrival ∧ e.result call = entry.value := by
  cases operation with
  | answers call arrival finish =>
      rcases e.answer_cases call arrival finish with
        ⟨fault, hcheck, hanswer⟩ | ⟨_, -, -, hnot, hanswer⟩ | ⟨hcomputes, -, hcache⟩
      · refine Or.inl ⟨?_, ?_⟩
        · simpa only [perform, hanswer] using h
        · rintro ⟨-, hok, -⟩
          rw [hcheck] at hok
          cases hok
      · refine Or.inl ⟨?_, fun hrenews => hnot hrenews.2⟩
        simpa only [perform, hanswer] using h
      · rw [hcache] at h
        by_cases hkey : call.application.key = a.key
        · rw [hkey, Cache.find?_insert_self] at h
          obtain rfl := Option.some.inj h
          exact Or.inr ⟨call, arrival, rfl, key_eq_iff.1 hkey, hcomputes, rfl⟩
        · have hold := Cache.find?_of_insert (Ne.symm hkey) h
          rw [Cache.find?_remove_of_ne _ (Ne.symm hkey)] at hold
          exact Or.inl ⟨hold, fun hrenews => hkey (key_eq_iff.2 hrenews.1)⟩
  | invalidates b =>
      have hremove : (e.perform (.invalidates b)).cache = e.cache.remove b.key := rfl
      rw [hremove, Cache.find?_remove] at h
      split at h
      · cases h
      · rename_i hne
        exact Or.inl ⟨h, fun halike => hne (key_eq_iff.2 halike).symm⟩
  | registers p =>
      rw [perform, register_cache] at h
      exact Or.inl ⟨h, id⟩
  | unregisters id => exact Or.inl ⟨h, fun hfalse => hfalse⟩

theorem exists_origin (hempty : e.cache.entries = []) {n : Nat} (hn : n ≤ operations.length)
    (h : (e.after operations n).cache.find? a.key = some entry) :
    ∃ j call arrival,
      Origin e operations n a entry.value entry.insertedAt j call arrival := by
  induction n generalizing entry with
  | zero =>
      rw [after_zero, Cache.find?, hempty] at h
      cases h
  | succ n ih =>
      have hlt : n < operations.length := hn
      have hget : operations[n]? = some operations[n] := List.getElem?_eq_getElem hlt
      rw [after_succ hget] at h
      rcases find?_perform h with ⟨hold, hkept⟩ | ⟨call, arrival, hoperation, halike, hcomputes, hresult⟩
      · obtain ⟨j, call, arrival, origin⟩ := ih (Nat.le_of_lt hlt) hold
        refine ⟨j, call, arrival, { origin with lt := Nat.lt_succ_of_lt origin.lt, untouched := ?_ }⟩
        intro m operation hj hm hoperation
        rcases Nat.lt_succ_iff_lt_or_eq.1 hm with hm | rfl
        · exact origin.untouched m operation hj hm hoperation
        · rw [hget] at hoperation
          exact Option.some.inj hoperation ▸ hkept
      · refine ⟨n, call, arrival, Nat.lt_succ_self n, hoperation ▸ hget, halike, hcomputes, hresult, ?_⟩
        intro m _ hj hm
        omega

theorem Chronological.le (h : Chronological operations) {i j : Nat} (hij : i < j)
    {first second : Operation} (hi : operations[i]? = some first) (hj : operations[j]? = some second)
    {x y : Nat} (hx : x ∈ first.times) (hy : y ∈ second.times) : x ≤ y := by
  have hpairs := (List.pairwise_flatMap.1 h).2
  obtain ⟨hilt, rfl⟩ := List.getElem?_eq_some_iff.1 hi
  obtain ⟨hjlt, rfl⟩ := List.getElem?_eq_some_iff.1 hj
  exact List.pairwise_iff_getElem.1 hpairs i j hilt hjlt hij x hx y hy

theorem perform_timeToLive (e : Engine) (operation : Operation) :
    (e.perform operation).cache.timeToLive = e.cache.timeToLive := by
  cases operation with
  | answers call arrival finish =>
      rcases e.answer_cases call arrival finish with ⟨_, -, h⟩ | ⟨_, -, -, -, h⟩ | ⟨-, -, h⟩
      · rw [perform, h]
      · rw [perform, h]
      · rw [h, Cache.insert_timeToLive, (Cache.remove_sameSetup _ _).timeToLive]
  | invalidates b => exact (Cache.remove_sameSetup e.cache b.key).timeToLive
  | registers p => rw [perform, register_cache]
  | unregisters id => rfl

theorem after_timeToLive (e : Engine) (operations : List Operation) (n : Nat) :
    (e.after operations n).cache.timeToLive = e.cache.timeToLive :=
  after_of_perform (P := fun before => before.cache.timeToLive = e.cache.timeToLive)
    (fun before operation h => (before.perform_timeToLive operation).trans h) rfl operations n

/-- **Provenance.** An answer is the result of the call that gets it, if that call computes, and
otherwise the latest result for the same user, tenant, product and amount, which then is no older than
the time to live. -/
theorem reply_provenance (hempty : e.cache.entries = []) (hclock : Chronological operations)
    {i : Nat} {call : Call} {arrival finish : Nat} {assessment : Assessment}
    (hcall : operations[i]? = some (.answers call arrival finish))
    (hreply : (e.after operations i).reply call arrival finish = .ok assessment) :
    ((e.after operations i).Computes call arrival ∧
      (e.after operations i).result call = assessment) ∨
    (¬ (e.after operations i).Computes call arrival ∧
      ∃ j earlier before stored,
        Origin e operations i call.application assessment stored j earlier before ∧
        stored ≤ arrival ∧ arrival - stored ≤ e.cache.timeToLive) := by
  obtain ⟨hi, -⟩ := List.getElem?_eq_some_iff.1 hcall
  rcases (e.after operations i).answer_cases call arrival finish with
    ⟨fault, -, hanswer⟩ | ⟨entry, hentry, hfresh, hnot, hanswer⟩ | ⟨hcomputes, hresult, -⟩
  · rw [reply, hanswer] at hreply
    cases hreply
  · rw [reply, hanswer] at hreply
    obtain rfl := Except.ok.inj hreply
    obtain ⟨j, earlier, before, origin⟩ := exists_origin hempty (Nat.le_of_lt hi) hentry
    refine Or.inr ⟨hnot, j, earlier, before, entry.insertedAt, origin, ?_, ?_⟩
    · exact hclock.le origin.lt origin.operation hcall (by simp [Operation.times])
        (by simp [Operation.times])
    · rw [← after_timeToLive e operations i]
      simpa [Cache.isFresh] using hfresh
  · rw [hresult] at hreply
    exact Or.inl ⟨hcomputes, Except.ok.inj hreply⟩

def forgetfulEngine : Engine := start .standard .standard (.empty 1 10)

/-- The applicant comes again, with a credit score, while the first answer is fresh. -/
def repeatedCalls : List Operation :=
  [.answers (sampleCall 1000 none) 0 2, .answers (sampleCall 1000 (some 700)) 9 9]

theorem reply_provenance_repeatedCalls :
    Chronological repeatedCalls ∧
      (forgetfulEngine.after repeatedCalls 1).reply (sampleCall 1000 (some 700)) 9 9 =
        .ok (forgetfulEngine.result (sampleCall 1000 none)) ∧
      ∃ j earlier before stored,
        Origin forgetfulEngine repeatedCalls 1 (sampleCall 1000 (some 700)).application
          (forgetfulEngine.result (sampleCall 1000 none)) stored j earlier before ∧
        stored ≤ 9 ∧ 9 - stored ≤ 10 := by
  have hreply : (forgetfulEngine.after repeatedCalls 1).reply (sampleCall 1000 (some 700)) 9 9 =
      .ok (forgetfulEngine.result (sampleCall 1000 none)) := by decide +kernel
  have hfound : ((forgetfulEngine.after repeatedCalls 1).lookUp
      (sampleCall 1000 (some 700)).application 9).1.isSome = true := by decide +kernel
  refine ⟨by decide, hreply, ?_⟩
  rcases reply_provenance rfl (by decide) rfl hreply with ⟨⟨-, hmissed⟩, -⟩ | ⟨-, horigin⟩
  · rw [hmissed] at hfound
    cases hfound
  · exact horigin

end Engine
end Lending
