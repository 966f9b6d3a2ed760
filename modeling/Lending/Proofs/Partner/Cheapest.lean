import Lending.Partner.Policy
import Lending.Proofs.Decimal.Value
import Lending.Proofs.Partner.Arrangement

/-!
# The cheapest partner

Of the partners that suit, the one with the lowest rate is picked, and of those with one rate the one whose
identifier comes first. Rates are compared as numbers. No two partners share an identifier, so one of any two
undercuts the other, and there is never a second partner that might have been picked as well.
-/

namespace Lending

/-! ### Who suits -/

/-- The partner offers the product and meets every criterion that is given. -/
structure Partner.Suits (p : Partner) (product : Product) (c : Criteria) : Prop where
  product : product ∈ p.listing.products
  amount : ∀ least, c.minAmount? = some least →
    least.value.toRat ≤ p.listing.terms.maxAmount.value.toRat
  rate : ∀ most, c.maxRate? = some most → p.listing.terms.minRate.toRat ≤ most.toRat
  type : ∀ wanted, c.type? = some wanted → p.listing.type = wanted
  hours : ∀ hours, c.maxApprovalHours? = some hours → p.listing.terms.typicalApproval.maxHours ≤ hours

theorem Criteria.accepts_iff (c : Criteria) (type : PartnerType) (terms : PartnerTerms) :
    c.accepts type terms = true ↔
      (∀ least, c.minAmount? = some least → least.value.toRat ≤ terms.maxAmount.value.toRat) ∧
      (∀ most, c.maxRate? = some most → terms.minRate.toRat ≤ most.toRat) ∧
      (∀ wanted, c.type? = some wanted → type = wanted) ∧
      ∀ hours, c.maxApprovalHours? = some hours → terms.typicalApproval.maxHours ≤ hours := by
  have hamount (least : Amount) : least ≤ terms.maxAmount ↔
      least.value.toRat ≤ terms.maxAmount.value.toRat := Decimal.le_iff_toRat_le
  simp only [accepts, Bool.and_eq_true, Option.all_eq_true, decide_eq_true_eq, beq_iff_eq, and_assoc,
    hamount, Decimal.le_iff_toRat_le, eq_comm (b := type)]

namespace Partner

variable {p q r : Partner} {product : Product} {c : Criteria}

theorem offers_iff : p.offers product = true ↔ product ∈ p.listing.products := List.contains_iff_mem

theorem suits_iff : p.Suits product c ↔
    p.offers product = true ∧ c.accepts p.listing.type p.listing.terms = true := by
  rw [offers_iff, Criteria.accepts_iff]
  constructor
  · intro ⟨hproduct, hamount, hrate, htype, hhours⟩
    exact ⟨hproduct, hamount, hrate, htype, hhours⟩
  · intro ⟨hproduct, hamount, hrate, htype, hhours⟩
    exact ⟨hproduct, hamount, hrate, htype, hhours⟩

/-! ### Who undercuts whom -/

/-- The partner's lowest rate is the smaller number, or the same one, and its identifier comes first. -/
def Undercuts (p q : Partner) : Prop :=
  p.listing.terms.minRate.toRat < q.listing.terms.minRate.toRat ∨
    p.listing.terms.minRate.toRat = q.listing.terms.minRate.toRat ∧ p.id < q.id

theorem cheaper_iff : Directory.cheaper p q = true ↔ p.Undercuts q := by
  simp only [Directory.cheaper, Bool.or_eq_true, Bool.and_eq_true, decide_eq_true_eq, Undercuts,
    Decimal.lt_iff_toRat_lt, Decimal.le_iff_toRat_le]
  constructor
  · rintro (hlt | ⟨hle, hid⟩)
    · exact Or.inl hlt
    · exact hle.lt_or_eq.imp_right fun heq => ⟨heq, hid⟩
  · rintro (hlt | ⟨heq, hid⟩)
    · exact Or.inl hlt
    · exact Or.inr ⟨heq.le, hid⟩

theorem Undercuts.trans (hpq : p.Undercuts q) (hqr : q.Undercuts r) : p.Undercuts r := by
  rcases hpq with hlt | ⟨heq, hid⟩ <;> rcases hqr with hlt' | ⟨heq', hid'⟩
  · exact Or.inl (hlt.trans hlt')
  · exact Or.inl (hlt.trans_eq heq')
  · exact Or.inl (heq.trans_lt hlt')
  · exact Or.inr ⟨heq.trans heq', String.lt_trans hid hid'⟩

theorem not_undercuts_self (p : Partner) : ¬ p.Undercuts p := by
  rintro (hlt | ⟨-, hid⟩)
  · exact lt_irrefl _ hlt
  · exact String.lt_irrefl _ hid

theorem undercuts_of_not (hid : p.id ≠ q.id) (h : ¬ q.Undercuts p) : p.Undercuts q := by
  simp only [Undercuts, not_or, not_and, not_lt] at h
  obtain ⟨hle, hties⟩ := h
  rcases hle.lt_or_eq with hlt | heq
  · exact Or.inl hlt
  · refine Or.inr ⟨heq, ?_⟩
    by_contra hge
    exact hid (String.le_antisymm (String.not_lt.1 (hties heq.symm)) (String.not_lt.1 hge))

end Partner

/-! ### Who is picked -/

namespace Directory

variable {d : Directory} {p q : Partner} {partners : List Partner}

theorem cheapest?_eq_none_iff : cheapest? partners = none ↔ partners = [] := by
  cases partners with
  | nil => simp [cheapest?]
  | cons p rest =>
      rw [cheapest?]
      split <;> simp

theorem cheapest?_eq_some (hdistinct : (partners.map Partner.id).Nodup) (h : cheapest? partners = some p) :
    p ∈ partners ∧ ∀ q ∈ partners, q ≠ p → p.Undercuts q := by
  induction partners generalizing p with
  | nil => cases h
  | cons first rest ih =>
      rw [List.map_cons, List.nodup_cons] at hdistinct
      obtain ⟨hfirst, hrest⟩ := hdistinct
      rw [cheapest?] at h
      cases hbest : cheapest? rest with
      | none =>
          rw [hbest] at h
          obtain rfl := Option.some.inj h
          rw [cheapest?_eq_none_iff.1 hbest]
          simp
      | some best =>
          obtain ⟨hmem, hundercuts⟩ := ih hrest hbest
          simp only [hbest, Option.some.injEq] at h
          split at h
          · rename_i hcheaper
            subst h
            refine ⟨List.mem_cons_of_mem _ hmem, ?_⟩
            intro q hq hne
            rcases List.mem_cons.1 hq with rfl | hq
            · exact Partner.cheaper_iff.1 hcheaper
            · exact hundercuts q hq hne
          · rename_i hcheaper
            subst h
            have hid : first.id ≠ best.id := fun heq => hfirst (heq ▸ List.mem_map_of_mem hmem)
            have hfirstBest : first.Undercuts best :=
              Partner.undercuts_of_not hid (mt Partner.cheaper_iff.2 hcheaper)
            refine ⟨List.mem_cons_self, ?_⟩
            intro q hq hne
            rcases List.mem_cons.1 hq with rfl | hq
            · exact absurd rfl hne
            · by_cases hsame : q = best
              · rw [hsame]
                exact hfirstBest
              · exact hfirstBest.trans (hundercuts q hq hsame)

def suited (d : Directory) (product : Product) (criteria : Criteria) : List Partner :=
  (d.offering product).filter fun p => criteria.accepts p.listing.type p.listing.terms

theorem mem_suited {product : Product} {criteria : Criteria} :
    p ∈ d.suited product criteria ↔ p ∈ d.partners ∧ p.Suits product criteria := by
  rw [suited, List.mem_filter, offering, mem_select, Partner.suits_iff, and_assoc]

theorem Distinct.suited (h : d.Distinct) (product : Product) (criteria : Criteria) :
    ((d.suited product criteria).map Partner.id).Nodup :=
  (h.select _).sublist (List.filter_sublist.map Partner.id)

/-- **The best partner is the cheapest one that suits.** In whatever order a directory holds the partners of
its history, none is picked exactly if none suits. The one that is picked suits, and every other one that
suits has a higher rate, or the same rate, however written, and a greater identifier; and only one can be
so. -/
theorem best?_is_cheapest (operations : List Operation)
    (hd : d.partners.Perm (empty.after operations).partners) (product : Product) (criteria : Criteria) :
    (d.best? product criteria = none ↔ ∀ p ∈ d.partners, ¬ p.Suits product criteria) ∧
    ∀ p, d.best? product criteria = some p ↔
      (p ∈ d.partners ∧ p.Suits product criteria) ∧
        ∀ q ∈ d.partners, q.Suits product criteria → q ≠ p → p.Undercuts q := by
  have hdistinct : d.Distinct := (distinct_empty.after operations).of_perm hd
  have hnone : d.best? product criteria = none ↔ ∀ p ∈ d.partners, ¬ p.Suits product criteria := by
    have hempty : d.best? product criteria = none ↔ d.suited product criteria = [] :=
      cheapest?_eq_none_iff
    rw [hempty, List.eq_nil_iff_forall_not_mem]
    simp only [mem_suited, not_and]
  have hsome : ∀ p, d.best? product criteria = some p →
      (p ∈ d.partners ∧ p.Suits product criteria) ∧
        ∀ q ∈ d.partners, q.Suits product criteria → q ≠ p → p.Undercuts q := by
    intro p hp
    obtain ⟨hmem, hundercuts⟩ := cheapest?_eq_some (hdistinct.suited product criteria) hp
    refine ⟨mem_suited.1 hmem, ?_⟩
    intro q hq hsuits
    exact hundercuts q (mem_suited.2 ⟨hq, hsuits⟩)
  refine ⟨hnone, fun p => ⟨hsome p, ?_⟩⟩
  rintro ⟨⟨hp, hsuits⟩, hundercuts⟩
  cases hbest : d.best? product criteria with
  | none => exact absurd hsuits (hnone.1 hbest p hp)
  | some best =>
      obtain ⟨⟨hmem, hsuits'⟩, hundercuts'⟩ := hsome best hbest
      by_contra hne
      rw [Option.some.injEq] at hne
      have hpb : p.Undercuts best := hundercuts best hmem hsuits' hne
      have hbp : best.Undercuts p := hundercuts' p hp hsuits (Ne.symm hne)
      exact p.not_undercuts_self (hpb.trans hbp)

def early : Partner :=
  { Policy.named "early" "Early" with minRate := (Decimal.ofParts? false 1250 2).getD .zero }.partner

/-- Its rate is that of the other one, written with fewer places. -/
def late : Partner := { Policy.named "late" "Late" with minRate := .tenths 125 }.partner

/-- A bank, with a lower rate than both. -/
def bargain : Partner := { Policy.named "bargain" "Bargain" with type := .bank, minRate := .ofNat 9 }.partner

theorem best?_is_cheapest_tie :
    let history : List Operation := [.registers late, .registers bargain, .registers early]
    let d : Directory := ⟨[bargain, early, late]⟩
    let criteria : Criteria := ⟨some (.ofNat 1000), some (.ofNat 13), some .fintech, some 72⟩
    d.partners.Perm (empty.after history).partners ∧
    (early.Suits .workingCapital criteria ∧ late.Suits .workingCapital criteria) ∧
    d.best? .workingCapital criteria = some early := by
  intro history d criteria
  have hhistory : (empty.after history).partners = [late, bargain, early] := rfl
  have hd : d.partners.Perm (empty.after history).partners := by
    have hrotated : ([bargain, early] ++ [late]).Perm ([late] ++ [bargain, early]) :=
      List.perm_append_comm
    rwa [hhistory]
  have hearly : early.Suits .workingCapital criteria := Partner.suits_iff.2 (by decide +kernel)
  have hlate : late.Suits .workingCapital criteria := Partner.suits_iff.2 (by decide +kernel)
  have hbargain : ¬ bargain.Suits .workingCapital criteria := mt Partner.suits_iff.1 (by decide +kernel)
  have hundercuts : early.Undercuts late := Partner.cheaper_iff.1 (by decide +kernel)
  refine ⟨hd, ⟨hearly, hlate⟩, ?_⟩
  refine ((best?_is_cheapest history hd .workingCapital criteria).2 early).2
    ⟨⟨by simp [d], hearly⟩, ?_⟩
  intro q hq hsuits hne
  simp only [d, List.mem_cons, List.not_mem_nil, or_false] at hq
  rcases hq with rfl | rfl | rfl
  · exact absurd hsuits hbargain
  · exact absurd rfl hne
  · exact hundercuts

end Directory
end Lending
