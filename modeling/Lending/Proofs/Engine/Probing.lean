import Lending.Engine.Probing

/-!
# Gathering answers

The order in which the questions to partners end does not show: as long as each of them ends, every
partner becomes a candidate with its own outcome, in the order of the partners.
-/

namespace Lending

/-- A question fails unless an answer comes within the limit. -/
theorem Probe.exists_failed {probe : Probe} {limit : Nat}
    (h : ∀ eligibility, probe.reply = .answer eligibility → limit < probe.delay) :
    ∃ reason, probe.settle limit = .failed reason := by
  unfold settle
  split
  · rename_i hdelay
    split
    · rename_i eligibility hreply
      exact absurd hdelay (Nat.not_le.2 (h eligibility hreply))
    · exact ⟨_, rfl⟩
    · exact ⟨_, rfl⟩
  · exact ⟨_, rfl⟩

theorem Candidate.offer_of_failed {c : Candidate} {reason : String} (h : c.outcome = .failed reason)
    (product : Product) (requested : Amount) :
    (c.offer product requested).rate = .ofNat 16 ∧ (c.offer product requested).amount = requested ∧
      (c.offer product requested).approvalTime = .ofDays 2 3 := by
  rw [offer, h]
  exact ⟨rfl, rfl, rfl⟩

namespace Probing

variable {tasks : List Task}

theorem length_settle (settled : List (Option Outcome)) (number : Nat) :
    (settle tasks settled number).length = settled.length := by
  unfold settle
  split
  · rw [List.length_set]
  · rfl

theorem getElem?_settle {settled : List (Option Outcome)} (hlength : settled.length = tasks.length)
    (number i : Nat) :
    (settle tasks settled number)[i]? =
      if i = number then tasks[i]?.map (fun t => some t.outcome) else settled[i]? := by
  unfold settle
  split
  · rename_i task htask
    by_cases hi : i = number
    · have hlt : i < settled.length := by
        rw [hlength, hi]
        exact (List.getElem?_eq_some_iff.1 htask).1
      rw [if_pos hi, hi, htask, ← hi, List.getElem?_set_self hlt, Option.map_some]
    · rw [if_neg hi, List.getElem?_set_ne (Ne.symm hi)]
  · rename_i hnone
    by_cases hi : i = number
    · rw [if_pos hi, hi, hnone, Option.map_none, List.getElem?_eq_none_iff, hlength]
      exact List.getElem?_eq_none_iff.1 hnone
    · rw [if_neg hi]

/-- The tasks that have ended are settled, and no others. -/
theorem getElem?_foldl_settle (order : List Nat) {settled : List (Option Outcome)}
    (hlength : settled.length = tasks.length) (i : Nat) :
    (order.foldl (settle tasks) settled)[i]? =
      if i ∈ order then tasks[i]?.map (fun t => some t.outcome) else settled[i]? := by
  induction order generalizing settled with
  | nil => simp
  | cons number order ih =>
      rw [List.foldl_cons, ih ((length_settle settled number).trans hlength),
        getElem?_settle hlength number i]
      by_cases hi : i ∈ order
      · rw [if_pos hi, if_pos (List.mem_cons_of_mem number hi)]
      · rw [if_neg hi]
        simp only [List.mem_cons, hi, or_false]

theorem foldl_settle {order : List Nat} (horder : ∀ i < tasks.length, i ∈ order) :
    order.foldl (settle tasks) (tasks.map fun _ => none) = tasks.map fun t => some t.outcome := by
  refine List.ext_getElem? fun i => ?_
  rw [getElem?_foldl_settle order (List.length_map _)]
  simp only [List.getElem?_map]
  by_cases hi : i < tasks.length
  · rw [if_pos (horder i hi)]
  · have hnone : tasks[i]? = none := List.getElem?_eq_none (Nat.le_of_not_lt hi)
    simp only [hnone, Option.map_none, ite_self]

theorem gather_eq_map {order : List Nat} (horder : ∀ i < tasks.length, i ∈ order) :
    gather order tasks = tasks.map fun t => t.candidate t.outcome := by
  unfold gather
  rw [foldl_settle horder]
  clear horder
  induction tasks with
  | nil => rfl
  | cons task tasks ih =>
      simp only [List.map_cons, List.zip_cons_cons, List.filterMap_cons, Option.map_some]
      exact congrArg _ ih

theorem mem_endingOrder {i : Nat} (hi : i < tasks.length) : i ∈ endingOrder tasks :=
  (List.mergeSort_perm _ _).mem_iff.2 (List.mem_range.2 hi)

end Probing
end Lending
