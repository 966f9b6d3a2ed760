import Mathlib.Algebra.Order.Ring.Nat
import Mathlib.Data.List.Perm.Subperm
import Lending.Decision.Basic
import Lending.Proofs.Catalog
import Lending.Proofs.Precedence

/-!
# The shortlist

A shortlist holds the names with the best scores, as many as there may be. They stand in the order of the
scores, names of one score in their own order, and whoever is left out would have come after all of them.
That determines the list, also where the limit falls among equal scores.
-/

namespace Lending

namespace Catalog

variable {scores : Catalog ℕ} {limit : ℕ} {a b : String} {ids : List String}

/-- The name has the better score, or the same one and comes first. -/
def Outranks (scores : Catalog ℕ) (a b : String) : Prop :=
  ∃ s t, scores.find? a = some s ∧ scores.find? b = some t ∧ (t < s ∨ s = t ∧ a < b)

theorem Outranks.asymm (hab : scores.Outranks a b) : ¬ scores.Outranks b a := by
  rintro ⟨t, s, hb, ha, hba⟩
  obtain ⟨s', t', ha', hb', hab⟩ := hab
  obtain rfl : s' = s := Option.some.inj (ha'.symm.trans ha)
  obtain rfl : t' = t := Option.some.inj (hb'.symm.trans hb)
  rcases hab with hlt | ⟨rfl, hname⟩ <;> rcases hba with hlt' | ⟨heq, hname'⟩
  · exact Nat.lt_asymm hlt hlt'
  · exact Nat.ne_of_lt hlt heq
  · exact Nat.lt_irrefl _ hlt'
  · exact String.lt_asymm hname hname'

/-- These are the names with the best scores, best first. -/
structure IsBest (scores : Catalog ℕ) (limit : ℕ) (ids : List String) : Prop where
  length_eq : ids.length = min limit scores.size
  nodup : ids.Nodup
  mem_names : ∀ id ∈ ids, id ∈ scores.names
  ordered : ids.Pairwise scores.Outranks
  ahead : ∀ id ∈ ids, ∀ left ∈ scores.names, left ∉ ids → scores.Outranks id left

namespace IsBest

variable {ids' : List String}

/-- Whoever stood on one of two lists only would outrank whoever stands there in its place, and be outranked. -/
theorem subset (h : scores.IsBest limit ids) (h' : scores.IsBest limit ids') : ids ⊆ ids' := by
  intro id hid
  by_contra hnot
  have hsubset : ids' ⊆ ids := by
    intro other hother
    by_contra hout
    have houtranks := h.ahead id hid other (h'.mem_names other hother) hout
    exact houtranks.asymm (h'.ahead other hother id (h.mem_names id hid) hnot)
  have hlonger : (id :: ids').Subperm ids :=
    List.subperm_of_subset (List.nodup_cons.2 ⟨hnot, h'.nodup⟩) (List.cons_subset.2 ⟨hid, hsubset⟩)
  have hlength := hlonger.length_le
  rw [List.length_cons, h.length_eq, h'.length_eq] at hlength
  exact Nat.not_succ_le_self _ hlength

theorem unique (h : scores.IsBest limit ids) (h' : scores.IsBest limit ids') : ids = ids' := by
  have hperm : ids.Perm ids' := (List.perm_ext_iff_of_nodup h.nodup h'.nodup).2 fun id =>
    ⟨fun hid => h.subset h' hid, fun hid => h'.subset h hid⟩
  exact hperm.eq_of_pairwise (fun a b _ _ hab hba => absurd hba hab.asymm) h.ordered h'.ordered

end IsBest

/-! ### The order of all names -/

theorem nodup_names (scores : Catalog ℕ) : scores.names.Nodup :=
  List.pairwise_map.2 (scores.ascending.imp fun hlt => String.ne_of_lt hlt)

theorem precedes_iff {a b : String × ℕ} : precedes a b = true ↔ Precedes (a.2, a.1) (b.2, b.1) := by
  simp only [precedes, Precedes, Bool.or_eq_true, Bool.and_eq_true, decide_eq_true_eq, beq_iff_eq]

def ranking (scores : Catalog ℕ) : List String := (scores.entries.mergeSort precedes).map (·.1)

theorem best_eq_take (scores : Catalog ℕ) (limit : ℕ) : scores.best limit = scores.ranking.take limit :=
  List.map_take

theorem ranking_perm (scores : Catalog ℕ) : scores.ranking.Perm scores.names :=
  (List.mergeSort_perm _ _).map _

theorem pairwise_ranking (scores : Catalog ℕ) : scores.ranking.Pairwise scores.Outranks := by
  have hsorted : (scores.entries.mergeSort precedes).Pairwise fun a b => precedes a b = true := by
    refine List.pairwise_mergeSort ?trans ?total scores.entries
    case trans => exact fun a b c hab hbc => precedes_iff.2 ((precedes_iff.1 hab).trans (precedes_iff.1 hbc))
    case total =>
      intro a b
      rw [Bool.or_eq_true, precedes_iff, precedes_iff]
      exact Precedes.total _ _
  have hnames : (scores.entries.mergeSort precedes).Pairwise fun a b => a.1 ≠ b.1 :=
    List.pairwise_map.1 (scores.ranking_perm.nodup_iff.2 scores.nodup_names)
  refine List.pairwise_map.2 ((hsorted.and hnames).imp_of_mem ?_)
  intro a b ha hb ⟨hprecedes, hne⟩
  exact ⟨a.2, b.2, (scores.find?_eq_some_iff a.1 a.2).2 (List.mem_mergeSort.1 ha),
    (scores.find?_eq_some_iff b.1 b.2).2 (List.mem_mergeSort.1 hb), (precedes_iff.1 hprecedes).strict hne⟩

/-! ### The head of it -/

theorem isBest_best (scores : Catalog ℕ) (limit : ℕ) : scores.IsBest limit (scores.best limit) := by
  have hordered := scores.pairwise_ranking
  have hnodup : scores.ranking.Nodup := scores.ranking_perm.nodup_iff.2 scores.nodup_names
  have hlength : scores.ranking.length = scores.size := scores.ranking_perm.length_eq.trans (List.length_map _)
  rw [best_eq_take]
  constructor
  case length_eq => rw [List.length_take, hlength]
  case nodup => exact hnodup.sublist (List.take_sublist limit _)
  case mem_names => exact fun id hid => scores.ranking_perm.mem_iff.1 (List.mem_of_mem_take hid)
  case ordered => exact hordered.sublist (List.take_sublist limit _)
  case ahead =>
    intro id hid left hleft hnot
    rw [← scores.ranking_perm.mem_iff, ← List.take_append_drop limit scores.ranking] at hleft
    rw [← List.take_append_drop limit scores.ranking] at hordered
    have hdropped := (List.mem_append.1 hleft).resolve_left hnot
    exact (List.pairwise_append.1 hordered).2.2 id hid left hdropped

end Catalog

/-- **A shortlist holds the best.** As many different names of the catalog as there may be, in the strict order
of scores and names, and everybody left out comes after all of them: the shortlist is such a list, and the only
one. The partners that a decision recommends are the five best of those that it scores. -/
theorem Decision.shortlist_isBest :
    (∀ (scores : Catalog ℕ) (limit : ℕ) (ids : List String),
      scores.IsBest limit ids ↔ ids = scores.best limit) ∧
    ∀ d : Decision, d.partnerScores.IsBest 5 d.shortlist := by
  refine ⟨fun scores limit ids => ⟨fun h => ?only, fun h => ?best⟩, fun d => ?recommended⟩
  case only => exact h.unique (scores.isBest_best limit)
  case best => exact h ▸ scores.isBest_best limit
  case recommended => exact d.partnerScores.isBest_best 5

end Lending
