import Mathlib.Algebra.GroupWithZero.Nat
import Lending.Partner.Policy
import Lending.Proofs.Partner.Arrangement

/-!
# Lists and counts of partners agree

The directory is asked for its partners by one product or by several, for their number by type and by
product, and for the products that there are. All of these answers are about the same partners: the lists by
several products are the intersection and the union of those by one, and the counts are the lengths of the
lists. Counts are taken partner by partner, and a partner counts once for a product, however often it lists
it; `stats_eq_foldl` is the traversal.
-/

namespace Lending

open Vocabulary (terms)

/-- Every term is declared, and none of them twice. -/
structure Vocabulary.IsComplete (α : Type) [Vocabulary α] : Prop where
  nodup : (terms : List α).Nodup
  mem : ∀ term : α, term ∈ terms

theorem PartnerType.isComplete : Vocabulary.IsComplete PartnerType where
  nodup := by decide
  mem := by intro type; cases type <;> decide

theorem Product.isComplete : Vocabulary.IsComplete Product where
  nodup := by decide
  mem := by intro product; cases product <;> decide

namespace Directory

/-! ### Tallies -/

section Tally

variable {α : Type}

/-- The part of a tally that is about these terms. -/
def tallyOf (listed : List α) (count : α → Nat) : List (α × Nat) :=
  (listed.map fun term => (term, count term)).filter fun entry => entry.2 != 0

theorem tallyOf_cons (first : α) (listed : List α) (count : α → Nat) :
    tallyOf (first :: listed) count =
      if count first = 0 then tallyOf listed count else (first, count first) :: tallyOf listed count := by
  by_cases hzero : count first = 0 <;> simp [tallyOf, hzero]

theorem tallyOf_congr {listed : List α} {count count' : α → Nat}
    (h : ∀ term ∈ listed, count term = count' term) : tallyOf listed count = tallyOf listed count' := by
  rw [tallyOf, tallyOf]
  congr 1
  exact List.map_congr_left fun term hterm => by rw [h term hterm]

variable [Vocabulary α]

theorem map_fst_tally (count : α → Nat) :
    (tally count).map (·.1) = terms.filter fun term => count term != 0 := by
  simp [tally, List.filter_map, Function.comp_def]

theorem mem_tally (hα : Vocabulary.IsComplete α) {count : α → Nat} {term : α} {n : Nat} :
    (term, n) ∈ tally count ↔ n = count term ∧ n ≠ 0 := by
  simp only [tally, List.mem_filter, List.mem_map, Prod.mk.injEq, bne_iff_ne]
  constructor
  · rintro ⟨⟨other, -, rfl, rfl⟩, hn⟩
    exact ⟨rfl, hn⟩
  · rintro ⟨rfl, hn⟩
    exact ⟨⟨term, hα.mem term, rfl, rfl⟩, hn⟩

variable [DecidableEq α]

/-- One more under a term. What is counted for the first time is put where it was declared. -/
def bump (term : α) : List (α × Nat) → List (α × Nat)
  | [] => [(term, 1)]
  | (other, n) :: rest =>
    if other = term then (other, n + 1) :: rest
    else if terms.idxOf term < terms.idxOf other then (term, 1) :: (other, n) :: rest
    else (other, n) :: bump term rest

theorem sum_bump (term : α) (counts : List (α × Nat)) :
    ((bump term counts).map (·.2)).sum = (counts.map (·.2)).sum + 1 := by
  induction counts with
  | nil => rfl
  | cons entry rest ih =>
      obtain ⟨other, n⟩ := entry
      simp only [bump]
      split
      · simp only [List.map_cons, List.sum_cons]
        omega
      · split
        · simp only [List.map_cons, List.sum_cons]
          omega
        · simp only [List.map_cons, List.sum_cons, ih]
          omega

theorem bump_eq_cons {term : α} {counts : List (α × Nat)}
    (h : ∀ entry ∈ counts, terms.idxOf term < terms.idxOf entry.1) :
    bump term counts = (term, 1) :: counts := by
  cases counts with
  | nil => rfl
  | cons entry rest =>
      have hlt := h entry List.mem_cons_self
      have hne : entry.1 ≠ term := by
        intro heq
        rw [heq] at hlt
        exact Nat.lt_irrefl _ hlt
      rw [bump, if_neg hne, if_pos hlt]

theorem bump_tallyOf {term : α} {listed : List α} (hmem : term ∈ listed)
    (hlisted : listed.Pairwise fun a b => terms.idxOf a < terms.idxOf b) (count : α → Nat) :
    bump term (tallyOf listed count) =
      tallyOf listed fun other => if other = term then count other + 1 else count other := by
  induction listed with
  | nil => cases hmem
  | cons first listed ih =>
      obtain ⟨hfirst, hrest⟩ := List.pairwise_cons.1 hlisted
      rw [tallyOf_cons, tallyOf_cons]
      by_cases hsame : first = term
      · subst hsame
        have hothers : (tallyOf listed fun other => if other = first then count other + 1 else count other)
            = tallyOf listed count := by
          apply tallyOf_congr
          intro other hother
          have hlt := hfirst other hother
          have hne : other ≠ first := by
            intro heq
            rw [heq] at hlt
            exact Nat.lt_irrefl _ hlt
          rw [if_neg hne]
        rw [hothers, if_pos rfl, if_neg (Nat.succ_ne_zero _)]
        by_cases hzero : count first = 0
        · rw [if_pos hzero, hzero]
          apply bump_eq_cons
          intro entry hentry
          simp only [tallyOf, List.mem_filter, List.mem_map] at hentry
          obtain ⟨⟨other, hother, rfl⟩, -⟩ := hentry
          exact hfirst other hother
        · rw [if_neg hzero, bump, if_pos rfl]
      · have hlater : term ∈ listed := (List.mem_cons.1 hmem).resolve_left (Ne.symm hsame)
        rw [if_neg hsame]
        by_cases hzero : count first = 0
        · rw [if_pos hzero, if_pos hzero, ih hlater hrest]
        · rw [if_neg hzero, if_neg hzero, bump, if_neg hsame,
            if_neg (Nat.lt_asymm (hfirst term hlater)), ih hlater hrest]

theorem bump_tally (hα : Vocabulary.IsComplete α) (term : α) (count : α → Nat) :
    bump term (tally count) = tally fun other => if other = term then count other + 1 else count other := by
  apply bump_tallyOf (hα.mem term)
  rw [List.pairwise_iff_getElem]
  intro i j hi hj hij
  rwa [hα.nodup.idxOf_getElem i hi, hα.nodup.idxOf_getElem j hj]

/-- One more under each of several terms. -/
theorem foldl_bump_tally (hα : Vocabulary.IsComplete α) {listed : List α} (hlisted : listed.Nodup)
    (count : α → Nat) :
    listed.foldl (fun counts term => bump term counts) (tally count) =
      tally fun term => count term + if term ∈ listed then 1 else 0 := by
  induction listed generalizing count with
  | nil => rfl
  | cons first listed ih =>
      obtain ⟨hfirst, hrest⟩ := List.nodup_cons.1 hlisted
      rw [List.foldl_cons, bump_tally hα, ih hrest]
      congr 1
      ext term
      by_cases hsame : term = first
      · subst hsame
        simp [hfirst]
      · simp [hsame]

end Tally

/-! ### Counting partner by partner -/

def Stats.none : Stats := ⟨0, [], []⟩

/-- One partner more. -/
def Stats.enter (s : Stats) (p : Partner) : Stats where
  total := s.total + 1
  byType := bump p.listing.type s.byType
  byProduct := (terms.filter p.offers).foldl (fun counts product => bump product counts) s.byProduct

theorem enter_stats (partners : List Partner) (p : Partner) :
    (stats ⟨partners⟩).enter p = stats ⟨partners ++ [p]⟩ := by
  have hbyType : bump p.listing.type (stats ⟨partners⟩).byType = (stats ⟨partners ++ [p]⟩).byType := by
    simp only [stats, bump_tally PartnerType.isComplete]
    congr 1
    ext type
    by_cases htype : type = p.listing.type
    · simp [htype]
    · simp [htype, Ne.symm htype]
  have hbyProduct : (terms.filter p.offers).foldl (fun counts product => bump product counts)
      (stats ⟨partners⟩).byProduct = (stats ⟨partners ++ [p]⟩).byProduct := by
    simp only [stats, foldl_bump_tally Product.isComplete (Product.isComplete.nodup.filter p.offers)]
    congr 1
    ext product
    simp [List.countP_append, List.countP_singleton, Product.isComplete.mem product]
  have htotal : size ⟨partners⟩ + 1 = size ⟨partners ++ [p]⟩ := by simp [size]
  rw [Stats.enter, hbyType, hbyProduct]
  exact congrArg (fun n => Stats.mk n _ _) htotal

/-- The counts are those of a traversal that enters one partner after another. -/
theorem stats_eq_foldl (d : Directory) : d.stats = d.partners.foldl Stats.enter Stats.none := by
  obtain ⟨partners⟩ := d
  induction partners using List.reverseRecOn with
  | nil => rfl
  | append_singleton partners p ih =>
      rw [List.foldl_append, List.foldl_cons, List.foldl_nil, ← ih, enter_stats]

theorem sum_byType (d : Directory) : (d.stats.byType.map (·.2)).sum = d.stats.total := by
  rw [stats_eq_foldl]
  induction d.partners using List.reverseRecOn with
  | nil => rfl
  | append_singleton partners p ih =>
      rw [List.foldl_append, List.foldl_cons, List.foldl_nil, Stats.enter, sum_bump, ih]

/-! ### Lists -/

variable {d : Directory} {p : Partner} {product : Product} {products : List Product}

theorem mem_all : p ∈ d.all ↔ p ∈ d.partners := by simp [all, mem_select]

theorem mem_offering : p ∈ d.offering product ↔ p ∈ d.partners ∧ product ∈ p.listing.products := by
  simp [offering, mem_select, Partner.offers]

theorem mem_offeringAll : p ∈ d.offeringAll products ↔
    p ∈ d.all ∧ ∀ product ∈ products, p ∈ d.offering product := by
  simp only [offeringAll, mem_select, List.all_eq_true, mem_all, mem_offering, Partner.offers,
    List.contains_iff_mem]
  constructor
  · intro ⟨hp, hoffers⟩
    exact ⟨hp, fun product hproduct => ⟨hp, hoffers product hproduct⟩⟩
  · intro ⟨hp, hoffering⟩
    exact ⟨hp, fun product hproduct => (hoffering product hproduct).2⟩

theorem mem_offeringAny : p ∈ d.offeringAny products ↔ ∃ product ∈ products, p ∈ d.offering product := by
  simp only [offeringAny, mem_select, List.any_eq_true, mem_offering, Partner.offers,
    List.contains_iff_mem]
  constructor
  · rintro ⟨hp, product, hproduct, hoffers⟩
    exact ⟨product, hproduct, hp, hoffers⟩
  · rintro ⟨product, hproduct, hp, hoffers⟩
    exact ⟨hp, product, hproduct, hoffers⟩

theorem length_select (d : Directory) (wanted : Partner → Bool) :
    (d.select wanted).length = d.partners.countP wanted := by
  rw [(d.select_perm wanted).length_eq, List.countP_eq_length_filter]

theorem length_all (d : Directory) : d.all.length = d.stats.total := by
  simp [all, length_select, stats, size]

theorem availableProducts_eq_map_fst (d : Directory) :
    d.availableProducts = d.stats.byProduct.map (·.1) := by
  rw [stats, map_fst_tally, availableProducts]
  apply List.filter_congr
  intro product _
  rw [Bool.eq_iff_iff]
  simp [List.any_eq_true, List.countP_eq_zero]

/-! ### Agreement -/

/-- The answers to the questions about the partners agree with one another. -/
structure Agrees (d : Directory) : Prop where
  all : ∀ p, p ∈ d.all ↔ p ∈ d.partners
  offering : ∀ product p, p ∈ d.offering product ↔ p ∈ d.all ∧ product ∈ p.listing.products
  intersection : ∀ products p, p ∈ d.offeringAll products ↔
    p ∈ d.all ∧ ∀ product ∈ products, p ∈ d.offering product
  intersection_nil : d.offeringAll [] = d.all
  union : ∀ products p, p ∈ d.offeringAny products ↔ ∃ product ∈ products, p ∈ d.offering product
  union_nil : d.offeringAny [] = []
  /-- Lists are ordered and have nobody twice, so the members are all there is to say of them. -/
  ascending : ∀ product products,
    ∀ list ∈ [d.all, d.offering product, d.offeringAll products, d.offeringAny products],
      (list.map Partner.id).Pairwise (· < ·)
  traversal : d.stats = d.partners.foldl Stats.enter Stats.none
  total : d.stats.total = d.all.length
  sum_byType : (d.stats.byType.map (·.2)).sum = d.stats.total
  byType : ∀ type n, (type, n) ∈ d.stats.byType ↔
    n = (d.select fun p => p.listing.type == type).length ∧ n ≠ 0
  byProduct : ∀ product n, (product, n) ∈ d.stats.byProduct ↔ n = (d.offering product).length ∧ n ≠ 0
  availableProducts : d.availableProducts = d.stats.byProduct.map (·.1)
  declared : d.availableProducts.Sublist terms

/-- **Lists and counts agree.** In whatever order a directory holds the partners of its history, its lists,
counts and products agree with one another. -/
theorem agrees_after (operations : List Operation)
    (hd : d.partners.Perm (empty.after operations).partners) : d.Agrees := by
  have hdistinct : d.Distinct := (distinct_empty.after operations).of_perm hd
  constructor
  case all => exact fun p => mem_all
  case offering => exact fun product p => by rw [mem_offering, mem_all]
  case intersection => exact fun products p => mem_offeringAll
  case intersection_nil => rfl
  case union => exact fun products p => mem_offeringAny
  case union_nil => simp [offeringAny, select]
  case ascending =>
    intro product products list hlist
    simp only [List.mem_cons, List.not_mem_nil, or_false] at hlist
    rcases hlist with rfl | rfl | rfl | rfl
    all_goals exact hdistinct.pairwise_map_id_select _
  case traversal => exact d.stats_eq_foldl
  case total => exact d.length_all.symm
  case sum_byType => exact d.sum_byType
  case byType =>
    intro type n
    rw [stats, mem_tally PartnerType.isComplete, length_select]
  case byProduct =>
    intro product n
    rw [stats, mem_tally Product.isComplete, offering, length_select]
  case availableProducts => exact d.availableProducts_eq_map_fst
  case declared => exact List.filter_sublist

/-- A bank that lists one of its products twice. -/
def repetitive : Partner :=
  { Policy.named "repetitive" "Repetitive" with
    type := .bank, products := [.creditLine, .workingCapital, .creditLine] }.partner

def plain : Partner := (Policy.named "plain" "Plain").partner

theorem agrees_after_repetitive :
    let history : List Operation := [.registers repetitive, .registers plain]
    let d : Directory := ⟨[plain, repetitive]⟩
    d.partners.Perm (empty.after history).partners ∧ d.Agrees ∧
    d.stats = ⟨2, [(.bank, 1), (.fintech, 1)], [(.workingCapital, 2), (.creditLine, 1)]⟩ ∧
    (d.offering .creditLine).length = 1 ∧ d.offering .termLoan = [] ∧
    d.availableProducts = [.workingCapital, .creditLine] := by
  intro history d
  have hhistory : (empty.after history).partners = [repetitive, plain] := rfl
  have hd : d.partners.Perm (empty.after history).partners := by
    rw [hhistory]
    exact .swap repetitive plain []
  have hagrees : d.Agrees := agrees_after history hd
  have hstats : d.stats = ⟨2, [(.bank, 1), (.fintech, 1)], [(.workingCapital, 2), (.creditLine, 1)]⟩ := by
    decide
  have hcreditLine := (hagrees.byProduct .creditLine 1).1 (by rw [hstats]; decide)
  refine ⟨hd, hagrees, hstats, hcreditLine.1.symm, ?_, ?_⟩
  · by_contra hoffered
    have hlength : (d.offering .termLoan).length ≠ 0 := mt List.length_eq_zero_iff.1 hoffered
    have hmem := (hagrees.byProduct .termLoan _).2 ⟨rfl, hlength⟩
    simp [hstats] at hmem
  · rw [hagrees.availableProducts, hstats]
    rfl

end Directory
end Lending
