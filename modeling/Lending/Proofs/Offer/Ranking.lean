import Mathlib.Algebra.Order.Ring.Int
import Mathlib.Data.List.Nodup
import Lending.Offer.Ranking
import Lending.Proofs.Precedence

/-!
# Offers in the ranking

A ranking has as many of the offers as it may, each of them once and changed in nothing but its place.
What is ranked beside an offer decides whether it is cut off, never how it stands to the others: the
rankings of two lists of offers that differ in one partner's agree on everybody else, as far as both go.
-/

namespace Lending.Offer

variable {offers : List Offer} {offer : Offer} {limit place : Nat}

theorem length_number (place : Nat) (offers : List Offer) :
    (number place offers).length = offers.length := by
  induction offers generalizing place with
  | nil => rfl
  | cons offer offers ih => simp only [number, List.length_cons, ih]

theorem map_id_number (place : Nat) (offers : List Offer) :
    (number place offers).map Offer.id = offers.map Offer.id := by
  induction offers generalizing place with
  | nil => rfl
  | cons offer offers ih => simp only [number, List.map_cons, ih]

theorem map_rank_number (place : Nat) (offers : List Offer) :
    (number place offers).map Offer.rank = List.range' place offers.length := by
  induction offers generalizing place with
  | nil => rfl
  | cons offer offers ih => rw [number, List.map_cons, ih, List.length_cons, List.range'_succ]

theorem mem_number (h : offer ∈ number place offers) :
    ∃ unranked ∈ offers, ∃ rank, offer = { unranked with rank := rank } := by
  induction offers generalizing place with
  | nil => cases h
  | cons head offers ih =>
      rcases List.mem_cons.1 h with rfl | h
      · exact ⟨head, List.mem_cons_self, place, rfl⟩
      · obtain ⟨unranked, hmem, hrank⟩ := ih h
        exact ⟨unranked, List.mem_cons_of_mem head hmem, hrank⟩

theorem length_ranked (offers : List Offer) (limit : Nat) :
    (ranked offers limit).length = min limit offers.length := by
  rw [ranked, length_number, List.length_take, List.length_mergeSort]

theorem map_rank_ranked (offers : List Offer) (limit : Nat) :
    (ranked offers limit).map Offer.rank = List.range' 1 (ranked offers limit).length := by
  rw [ranked, map_rank_number, length_number]

theorem mem_ranked (h : offer ∈ ranked offers limit) :
    ∃ unranked ∈ offers, ∃ rank, offer = { unranked with rank := rank } := by
  obtain ⟨unranked, hmem, hrank⟩ := mem_number h
  exact ⟨unranked, (List.mergeSort_perm _ _).mem_iff.1 (List.mem_of_mem_take hmem), hrank⟩

theorem nodup_ranked (h : (offers.map Offer.id).Nodup) (limit : Nat) :
    ((ranked offers limit).map Offer.id).Nodup := by
  rw [ranked, map_id_number]
  have hsorted : ((offers.mergeSort precedes).map Offer.id).Nodup :=
    ((List.mergeSort_perm _ _).map Offer.id).nodup_iff.2 h
  exact hsorted.sublist ((List.take_sublist limit _).map Offer.id)

/-! ### Order -/

theorem precedes_iff {a b : Offer} :
    precedes a b = true ↔ Precedes (a.matchScore.totalKey, a.id) (b.matchScore.totalKey, b.id) := by
  simp only [precedes, Precedes, Bool.or_eq_true, Bool.and_eq_true, decide_eq_true_eq, beq_iff_eq]

theorem precedes_trans (a b c : Offer) (hab : precedes a b = true) (hbc : precedes b c = true) :
    precedes a c = true :=
  precedes_iff.2 ((precedes_iff.1 hab).trans (precedes_iff.1 hbc))

theorem precedes_total (a b : Offer) : (precedes a b || precedes b a) = true := by
  rw [Bool.or_eq_true, precedes_iff, precedes_iff]
  exact Precedes.total _ _

/-- Only offers of one partner can change places. -/
theorem id_eq_of_precedes {a b : Offer} (hab : precedes a b = true) (hba : precedes b a = true) :
    a.id = b.id :=
  (precedes_iff.1 hab).name_eq (precedes_iff.1 hba)

/-- To sort and to leave some out is the same in either order. -/
theorem filter_mergeSort (h : (offers.map Offer.id).Nodup) (keep : Offer → Bool) :
    (offers.mergeSort precedes).filter keep = (offers.filter keep).mergeSort precedes := by
  refine List.Perm.eq_of_pairwise ?antisymm
    ((List.pairwise_mergeSort precedes_trans precedes_total offers).filter keep)
    (List.pairwise_mergeSort precedes_trans precedes_total _) ?perm
  case antisymm =>
    intro a b ha hb hab hba
    have ha' : a ∈ offers := List.mem_mergeSort.1 (List.mem_filter.1 ha).1
    have hb' : b ∈ offers := (List.mem_filter.1 (List.mem_mergeSort.1 hb)).1
    exact List.inj_on_of_nodup_map h ha' hb' (id_eq_of_precedes hab hba)
  case perm => exact ((List.mergeSort_perm offers _).filter keep).trans (List.mergeSort_perm _ _).symm

/-! ### The others -/

def unranked (offer : Offer) : Offer := { offer with rank := 0 }

/-- The offers of all partners but one, without their places. -/
def others (id : PartnerId) (offers : List Offer) : List Offer :=
  (offers.map unranked).filter fun offer => offer.id != id

variable {offers' : List Offer} {id : PartnerId}

theorem map_unranked_number (place : Nat) (offers : List Offer) :
    (number place offers).map unranked = offers.map unranked := by
  induction offers generalizing place with
  | nil => rfl
  | cons offer offers ih =>
      simp only [number, List.map_cons, ih]
      rfl

theorem others_eq_map_filter (id : PartnerId) (offers : List Offer) :
    others id offers = (offers.filter fun offer => offer.id != id).map unranked := by
  rw [others, List.filter_map]
  rfl

theorem map_id_others (id : PartnerId) (offers : List Offer) :
    (others id offers).map Offer.id = (offers.map Offer.id).filter (· != id) := by
  rw [others_eq_map_filter, List.map_map, List.filter_map]
  rfl

theorem unranked_mem_others (h : offer ∈ offers) (hne : offer.id ≠ id) :
    offer.unranked ∈ others id offers :=
  List.mem_filter.2 ⟨List.mem_map_of_mem h, bne_iff_ne.2 hne⟩

theorem nodup_others (h : (offers.map Offer.id).Nodup) (id : PartnerId) :
    ((others id offers).map Offer.id).Nodup := by
  rw [map_id_others]
  exact h.filter _

theorem mem_others_iff {p : PartnerId} (hp : p ≠ id) :
    p ∈ (others id offers).map Offer.id ↔ p ∈ offers.map Offer.id := by
  rw [map_id_others, List.mem_filter, bne_iff_ne]
  exact and_iff_left hp

theorem sublist_others_iff {p q : PartnerId} (hp : p ≠ id) (hq : q ≠ id) :
    [p, q].Sublist ((others id offers).map Offer.id) ↔ [p, q].Sublist (offers.map Offer.id) := by
  rw [map_id_others]
  constructor
  · exact fun h => h.trans List.filter_sublist
  · intro h
    have hkept : [p, q].filter (· != id) = [p, q] := by simp [hp, hq]
    exact hkept ▸ h.filter _

/-- In a list and in the head of it that ends behind `q`, the same stands before `q`. -/
theorem sublist_iff_of_isPrefix {ids ids' : List PartnerId} (hinitial : ids <+: ids') (h : ids'.Nodup)
    {p q : PartnerId} (hq : q ∈ ids) : [p, q].Sublist ids ↔ [p, q].Sublist ids' := by
  refine ⟨fun hsub => hsub.trans hinitial.sublist, fun hsub => ?_⟩
  obtain ⟨rest, rfl⟩ := hinitial
  obtain ⟨head, tail, hsplit, hhead, htail⟩ := List.sublist_append_iff.1 hsub
  rcases List.eq_nil_or_concat tail with rfl | ⟨init, last, rfl⟩
  · rw [hsplit, List.append_nil]
    exact hhead
  · have hlast : last = q := by
      have := congrArg List.getLast? hsplit
      simpa using this.symm
    have hmem : q ∈ rest := htail.subset (by simp [hlast])
    exact absurd rfl ((List.nodup_append.1 h).2.2 q hq q hmem)

/-- Who stands in a ranking beside one partner stands at the head of all others in their order. -/
theorem isPrefix_others_ranked (h : (offers.map Offer.id).Nodup) (limit : Nat) (id : PartnerId) :
    others id (ranked offers limit) <+:
      ((offers.filter fun offer => offer.id != id).mergeSort precedes).map unranked := by
  rw [← filter_mergeSort h, ← others_eq_map_filter, others, ranked, map_unranked_number]
  exact (( List.take_prefix limit _).map unranked).filter _

/-- Two rankings that differ in the offer of one partner have the same others in the same order, up to
the end of one of them. -/
theorem others_ranked_comparable (h : (offers.map Offer.id).Nodup) (h' : (offers'.map Offer.id).Nodup)
    (hsame : (offers.filter fun offer => offer.id != id) =
      offers'.filter fun offer => offer.id != id) (limit limit' : Nat) :
    others id (ranked offers limit) <+: others id (ranked offers' limit') ∨
      others id (ranked offers' limit') <+: others id (ranked offers limit) := by
  have hinitial := isPrefix_others_ranked h limit id
  rw [hsame] at hinitial
  exact List.prefix_or_prefix_of_prefix hinitial (isPrefix_others_ranked h' limit' id)

end Lending.Offer
