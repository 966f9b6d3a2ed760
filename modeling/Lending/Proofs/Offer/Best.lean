import Lending.Offer.Build
import Lending.Proofs.Offer.Ranking
import Lending.Proofs.Offer.Score

/-!
# The best offers

Offers are sorted by the bits of their scores. The score of an offer that was built is a number and never the
negative zero, so the order of the bits is that of the numbers. With it the sorted list is determined by the
offers alone, however they were listed, and every ranking is the head of it.
-/

namespace Lending

namespace Binary64

variable {x y : Binary64}

/-- A number other than the negative zero. -/
def Ordinary (x : Binary64) : Prop := ¬ x.IsNaN ∧ (x.negative = true → 0 < x.magnitude)

theorem Ordinary.totalKey_lt_iff (hx : x.Ordinary) (hy : y.Ordinary) : x.totalKey < y.totalKey ↔ x < y := by
  have hkey : x.totalKey < y.totalKey ↔ x.signed < y.signed := by
    obtain ⟨-, hx⟩ := hx
    obtain ⟨-, hy⟩ := hy
    unfold totalKey signed
    cases hsign : x.negative <;> cases hsign' : y.negative <;> simp [hsign, hsign'] at hx hy ⊢ <;> omega
  rw [hkey, lt_def]
  exact ⟨fun h => ⟨hx.1, hy.1, h⟩, fun h => h.2.2⟩

theorem Ordinary.le_refl (hx : x.Ordinary) : x ≤ x := ⟨hx.1, hx.1, Int.le_refl _⟩

end Binary64

namespace Offer

variable {a b offer : Offer} {offers offers' : List Offer} {limit place : ℕ}

/-! ### Scores are ordinary numbers -/

theorem ordinary_score (probability : ℕ) (estimated requested : Amount) :
    (score probability estimated requested).Ordinary := by
  obtain ⟨d, n, hexact, hproper, hscale, hvalue, hround⟩ :=
    exists_exactScore? probability estimated requested
  rw [score, hexact, Option.getD_some]
  refine ⟨Decimal.not_isNaN_toBinary64 d, fun hsign => ?_⟩
  cases hnegative : d.negative with
  | false =>
      rw [Decimal.toBinary64_of_nonneg hnegative] at hsign
      cases hsign
  | true =>
      -- a score below zero is small, whatever the probability, so it is converted without error
      have hneg : d.toRat < 0 := by
        rw [hproper.negative_eq] at hnegative
        exact of_decide_eq_true hnegative
      have hn : n < 0 := by
        rw [hvalue, div_lt_iff₀ (by norm_num), zero_mul] at hneg
        exact_mod_cast hneg
      have hbase := Decimal.toRat_nonneg (Decimal.ofNat_nonneg probability)
      have hpenalty := penalty_le estimated requested
      have hlow : -5000 ≤ n := by
        refine hround.le_of_div_le (by norm_num) ?_
        push_cast
        linarith
      rw [hproper.toBinary64_eq_ofHundredths hscale hvalue (by omega)]
      exact Binary64.magnitude_ofHundredths_pos (by omega) (by omega)

/-- The offer was made of a candidate, and not changed since. -/
def IsBuilt (offer : Offer) : Prop :=
  ∃ (candidate : Candidate) (product : Product) (requested : Amount),
    offer = candidate.offer product requested

theorem IsBuilt.ordinary (h : offer.IsBuilt) : offer.matchScore.Ordinary := by
  obtain ⟨candidate, product, requested, rfl⟩ := h
  exact ordinary_score _ _ _

/-! ### The order of offers -/

/-- The better score comes first, and of numerically equal scores the smaller identifier. -/
def Better (a b : Offer) : Prop :=
  b.matchScore < a.matchScore ∨
    a.matchScore ≤ b.matchScore ∧ b.matchScore ≤ a.matchScore ∧ a.id < b.id

theorem IsBuilt.better (ha : a.IsBuilt) (hb : b.IsBuilt) (hne : a.id ≠ b.id)
    (h : precedes a b = true) : Better a b := by
  rcases (precedes_iff.1 h).strict hne with hlt | ⟨heq, hid⟩
  · exact Or.inl ((hb.ordinary.totalKey_lt_iff ha.ordinary).1 hlt)
  · have hscore := Binary64.totalKey_injective heq
    have hrefl := hb.ordinary.le_refl
    exact Or.inr ⟨hscore ▸ hrefl, hscore ▸ hrefl, hid⟩

theorem pairwise_better (hbuilt : ∀ offer ∈ offers, offer.IsBuilt) (hdistinct : (offers.map Offer.id).Nodup) :
    (offers.mergeSort precedes).Pairwise Better := by
  have hnodup : ((offers.mergeSort precedes).map Offer.id).Nodup :=
    ((List.mergeSort_perm _ _).map Offer.id).nodup_iff.2 hdistinct
  have hsorted := List.pairwise_mergeSort precedes_trans precedes_total offers
  have hids : (offers.mergeSort precedes).Pairwise fun a b => a.id ≠ b.id := List.pairwise_map.1 hnodup
  refine (hsorted.and hids).imp_of_mem ?_
  intro a b ha hb hab
  exact (hbuilt a (List.mem_mergeSort.1 ha)).better (hbuilt b (List.mem_mergeSort.1 hb)) hab.2 hab.1

theorem mergeSort_eq_of_perm (hdistinct : (offers.map Offer.id).Nodup) (h : offers'.Perm offers) :
    offers'.mergeSort precedes = offers.mergeSort precedes := by
  have hperm := (List.mergeSort_perm offers' precedes).trans
    (h.trans (List.mergeSort_perm offers precedes).symm)
  refine hperm.eq_of_pairwise ?_ (List.pairwise_mergeSort precedes_trans precedes_total offers')
    (List.pairwise_mergeSort precedes_trans precedes_total offers)
  intro a b ha hb hab hba
  exact List.inj_on_of_nodup_map hdistinct (h.mem_iff.1 (List.mem_mergeSort.1 ha)) (List.mem_mergeSort.1 hb)
    (id_eq_of_precedes hab hba)

/-! ### Places -/

theorem take_number (place n : ℕ) (offers : List Offer) :
    (number place offers).take n = number place (offers.take n) := by
  induction offers generalizing place n with
  | nil => simp [number]
  | cons offer offers ih =>
      cases n with
      | zero => rfl
      | succ n => simp only [number, List.take_succ_cons, ih]

theorem pairwise_number (h : offers.Pairwise Better) (place : ℕ) : (number place offers).Pairwise Better := by
  have hunranked : ∀ offers : List Offer,
      (offers.map unranked).Pairwise Better ↔ offers.Pairwise Better := by
    intro offers
    rw [List.pairwise_map]
    exact Iff.rfl
  rw [← hunranked, map_unranked_number, hunranked]
  exact h

/-- Who is not ranked stands behind the place where the sorted list was cut off. -/
theorem mem_drop_of_not_mem (h : offer ∈ offers) (hleft : offer.id ∉ (ranked offers limit).map Offer.id) :
    offer ∈ (offers.mergeSort precedes).drop limit := by
  rw [ranked, map_id_number] at hleft
  have hmem : offer ∈ offers.mergeSort precedes := List.mem_mergeSort.2 h
  rw [← List.take_append_drop limit (offers.mergeSort precedes)] at hmem
  rcases List.mem_append.1 hmem with hkept | hdropped
  · exact absurd (List.mem_map_of_mem hkept) hleft
  · exact hdropped

/-- The ranking of offers of different partners holds the best of them, as many as there may be, with places
from 1 on and otherwise as they were built. It stands in the strict order of the offers, whoever is left out
comes after all of it, no matter how the offers were listed, and a shorter ranking is the head of a longer. -/
theorem ranked_is_top (hbuilt : ∀ offer ∈ offers, offer.IsBuilt) (hdistinct : (offers.map Offer.id).Nodup)
    (limit : ℕ) :
    (ranked offers limit).length = min limit offers.length ∧
    (∀ offer ∈ ranked offers limit, ∃ unranked ∈ offers, ∃ rank, offer = { unranked with rank := rank }) ∧
    (ranked offers limit).map Offer.rank = List.range' 1 (ranked offers limit).length ∧
    (ranked offers limit).Pairwise Better ∧
    (∀ offer ∈ ranked offers limit, ∀ left ∈ offers,
      left.id ∉ (ranked offers limit).map Offer.id → Better offer left) ∧
    (∀ offers' : List Offer, offers'.Perm offers → ranked offers' limit = ranked offers limit) ∧
    ∀ fewer ≤ limit, ranked offers fewer = (ranked offers limit).take fewer := by
  have hsorted := pairwise_better hbuilt hdistinct
  refine ⟨length_ranked offers limit, fun offer => mem_ranked, map_rank_ranked offers limit, ?ordered, ?left,
    ?permuted, ?fewer⟩
  case ordered => exact pairwise_number (hsorted.sublist (List.take_sublist limit _)) 1
  case left =>
    intro offer hmem left hleft hnot
    obtain ⟨unranked, hkept, rank, rfl⟩ := mem_number hmem
    rw [← List.take_append_drop limit (offers.mergeSort precedes)] at hsorted
    exact (List.pairwise_append.1 hsorted).2.2 unranked hkept left (mem_drop_of_not_mem hleft hnot)
  case permuted =>
    intro offers' hperm
    rw [ranked, ranked, mergeSort_eq_of_perm hdistinct hperm]
  case fewer =>
    intro fewer hle
    rw [ranked, ranked, take_number, List.take_take, Nat.min_eq_left hle]

/-- Two partners that do as well, the one with the smaller identifier listed last. -/
def rivals : List Offer :=
  [⟨"beta", "Beta Bank", 60, .failed "timeout"⟩, ⟨"alpha", "Alpha Finance", 60, .failed "timeout"⟩].map
    fun candidate : Candidate => candidate.offer .termLoan (.ofNat 100)

theorem ranked_is_top_rivals : (∀ offer ∈ rivals, offer.IsBuilt) ∧ (rivals.map Offer.id).Nodup ∧
    (ranked rivals 2).Pairwise Better ∧ ranked rivals.reverse 2 = ranked rivals 2 ∧
    ranked rivals 1 = (ranked rivals 2).take 1 := by
  have hbuilt : ∀ offer ∈ rivals, offer.IsBuilt := by
    intro offer hmem
    obtain ⟨candidate, -, rfl⟩ := List.mem_map.1 hmem
    exact ⟨candidate, .termLoan, .ofNat 100, rfl⟩
  have hdistinct : (rivals.map Offer.id).Nodup := by decide
  obtain ⟨-, -, -, hordered, -, hpermuted, hfewer⟩ := ranked_is_top hbuilt hdistinct 2
  exact ⟨hbuilt, hdistinct, hordered, hpermuted _ (List.reverse_perm rivals), hfewer 1 (by decide)⟩

end Offer
end Lending
