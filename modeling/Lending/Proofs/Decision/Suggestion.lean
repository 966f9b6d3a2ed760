import Mathlib.Data.List.Basic
import Mathlib.Data.List.Induction
import Lending.Decision.Suggestion

/-!
# Suggestions are told apart first and cut off then

Texts are added one by one, and adding ends as soon as there are enough of them. The outcome is the same as if
all repetitions were dropped first and the rest were cut off then: whether a text is fresh depends on what was
taken before it, and all that was taken stands within the limit.
-/

namespace Lending

/-! ### First occurrences -/

section FirstOccurrences

variable {α : Type} [BEq α] [LawfulBEq α]

theorem pairwise_idxOf_eraseDups (l : List α) :
    l.eraseDups.Pairwise fun a b => l.idxOf a < l.idxOf b := by
  induction l using List.reverseRecOn with
  | nil => exact List.Pairwise.nil
  | append_singleton l c ih =>
      have hbefore : ∀ a ∈ l, (l ++ [c]).idxOf a = l.idxOf a := fun a ha => List.idxOf_append_of_mem ha
      have hkept : l.eraseDups.Pairwise fun a b => (l ++ [c]).idxOf a < (l ++ [c]).idxOf b := by
        refine ih.imp_of_mem fun {a b} ha hb hlt => ?_
        rwa [hbefore a (List.mem_eraseDups.1 ha), hbefore b (List.mem_eraseDups.1 hb)]
      rw [List.eraseDups_append]
      by_cases hc : c ∈ l
      · have hnone : [c].removeAll l = [] := by simp [List.removeAll, hc]
        rw [hnone, List.eraseDups_nil, List.append_nil]
        exact hkept
      · have hone : [c].removeAll l = [c] := by simp [List.removeAll, hc]
        rw [hone, List.eraseDups_cons, List.filter_nil, List.eraseDups_nil, List.pairwise_append]
        refine ⟨hkept, List.pairwise_singleton _ c, fun a ha b hb => ?_⟩
        have ha := List.mem_eraseDups.1 ha
        rw [List.mem_singleton.1 hb, hbefore a ha, List.idxOf_append_of_notMem hc]
        exact Nat.lt_add_right _ (List.idxOf_lt_length_of_mem ha)

theorem filter_removeAll (l taken : List α) (a : α) :
    (l.removeAll taken).filter (fun b => !b == a) = l.removeAll (taken ++ [a]) := by
  simp only [List.removeAll, List.filter_filter]
  refine List.filter_congr fun b _ => ?_
  by_cases hb : b = a <;> simp [hb]

end FirstOccurrences

/-! ### Adding up to a limit -/

theorem addFresh_eq {limit : Nat} {texts taken : List String} (h : taken.length ≤ limit) :
    addFresh limit texts taken =
      taken ++ (texts.removeAll taken).eraseDups.take (limit - taken.length) := by
  induction texts generalizing taken with
  | nil => simp [addFresh, List.removeAll]
  | cons text texts ih =>
      rw [addFresh]
      split
      · rename_i hfull
        rw [hfull, Nat.sub_self, List.take_zero, List.append_nil]
      · rename_i hroom
        by_cases htaken : text ∈ taken
        · have hremove : (text :: texts).removeAll taken = texts.removeAll taken := by
            simp [List.removeAll, htaken]
          rw [if_pos (List.contains_iff_mem.2 htaken), ih h, hremove]
        · have hremove : (text :: texts).removeAll taken = text :: texts.removeAll taken := by
            simp [List.removeAll, htaken]
          have hlength : (taken ++ [text]).length = taken.length + 1 := List.length_append
          have hleft : limit - taken.length = limit - (taken.length + 1) + 1 := by omega
          rw [if_neg (by simpa using htaken), ih (by omega), hremove, List.eraseDups_cons, filter_removeAll,
            hlength, hleft, List.take_succ_cons, List.append_assoc, List.singleton_append]

example : addFresh 3 ["a", "b", "a", "b", "c", "d"] [] = ["a", "b", "c"] := by decide

/-! ### The advice -/

theorem Verdict.eraseDups_advice (verdict : Verdict) : verdict.advice.eraseDups = verdict.advice := by
  cases verdict <;> simp [advice, List.eraseDups_cons]

theorem Verdict.length_advice_le (verdict : Verdict) : verdict.advice.length ≤ 5 := by
  cases verdict <;> decide

/-- **Suggestions are the first five different texts.** They are the advice that belongs to the verdict and
the recommendations behind it, each text where it first occurs, cut off behind the fifth. So none stands
twice, they keep their order, and the advice is always there as a whole. -/
theorem Verdict.suggestions_eq_take_eraseDups (verdict : Verdict) (recommendations : List String) :
    let texts := verdict.advice ++ recommendations
    let given := verdict.suggestions recommendations
    given = texts.eraseDups.take 5 ∧ given.Nodup ∧
      (given.Pairwise fun a b => texts.idxOf a < texts.idxOf b) ∧ verdict.advice <+: given := by
  intro texts given
  have hgiven : given = texts.eraseDups.take 5 := by
    have hall : texts.removeAll [] = texts := by simp [List.removeAll]
    show addFresh 5 texts [] = _
    rw [addFresh_eq (Nat.zero_le 5), hall, List.nil_append]
    rfl
  have hordered : given.Pairwise fun a b => texts.idxOf a < texts.idxOf b :=
    hgiven ▸ (pairwise_idxOf_eraseDups texts).sublist (List.take_sublist 5 _)
  refine ⟨hgiven, hordered.imp fun hlt heq => ?_, hordered, ?_⟩
  · exact Nat.lt_irrefl _ (heq ▸ hlt)
  · rw [hgiven, List.eraseDups_append, verdict.eraseDups_advice, List.take_append,
      List.take_of_length_le verdict.length_advice_le]
    exact List.prefix_append _ _

end Lending
