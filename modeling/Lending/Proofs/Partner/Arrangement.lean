import Lending.Proofs.Partner.Registration

/-!
# The order of the partners in the directory

Directories with the same partners answer every question alike, in whatever order they hold them: lists
are sorted by identifiers that no two partners share, and everything else is counted or asked of the
sorted lists. So neither the order of the registrations nor that of the storage can be seen.
-/

namespace Lending.Directory

variable {d d' : Directory}

theorem Distinct.of_perm (h : d.Distinct) (hperm : d'.partners.Perm d.partners) : d'.Distinct :=
  (hperm.map Partner.id).nodup_iff.2 h

/-- Nobody is held twice, so directories with the same partners differ in their order alone. -/
theorem Distinct.perm_of_mem_iff (h : d.Distinct) (h' : d'.Distinct)
    (hmem : ∀ p, p ∈ d.partners ↔ p ∈ d'.partners) : d.partners.Perm d'.partners :=
  (List.perm_ext_iff_of_nodup h.of_map h'.of_map).2 hmem

/-! ### Lists -/

theorem Distinct.select_eq (h : d.Distinct) (hperm : d.partners.Perm d'.partners)
    (wanted : Partner → Bool) : d.select wanted = d'.select wanted := by
  refine List.Perm.eq_of_pairwise ?same (d.pairwise_select wanted) (d'.pairwise_select wanted) ?perm
  case same =>
    intro p q hp hq hpq hqp
    have hp' : p ∈ d.partners := (mem_select.1 hp).1
    have hq' : q ∈ d.partners := hperm.mem_iff.2 (mem_select.1 hq).1
    exact h.eq hp' hq' (String.le_antisymm hpq hqp)
  case perm =>
    have hfilter : (d.partners.filter wanted).Perm (d'.partners.filter wanted) := hperm.filter wanted
    exact ((d.select_perm wanted).trans hfilter).trans (d'.select_perm wanted).symm

/-! ### Single partners -/

theorem Distinct.find?_eq (h : d.Distinct) (hperm : d.partners.Perm d'.partners) (id : PartnerId) :
    d.find? id = d'.find? id := by
  cases hfind : d.find? id with
  | none =>
      rw [find?_eq_none_iff, (hperm.map Partner.id).mem_iff] at hfind
      exact (find?_eq_none_iff.2 hfind).symm
  | some p =>
      obtain ⟨hp, hid⟩ := mem_of_find? hfind
      rw [← hid]
      exact ((h.of_perm hperm.symm).find? (hperm.mem_iff.1 hp)).symm

/-! ### Counts -/

theorem stats_eq (hperm : d.partners.Perm d'.partners) : d.stats = d'.stats := by
  rw [stats, stats, size, size, hperm.length_eq]
  simp only [hperm.countP_eq]

theorem availableProducts_eq (hperm : d.partners.Perm d'.partners) :
    d.availableProducts = d'.availableProducts := by
  rw [availableProducts, availableProducts]
  simp only [hperm.any_eq]

/-! ### All questions -/

/-- There is no question whose answer tells the two directories apart. -/
structure Indistinguishable (d d' : Directory) : Prop where
  all : d.all = d'.all
  summaries : d.all.map Partner.summary = d'.all.map Partner.summary
  ids : d.ids = d'.ids
  offering : ∀ product, d.offering product = d'.offering product
  offeringAll : ∀ products, d.offeringAll products = d'.offeringAll products
  offeringAny : ∀ products, d.offeringAny products = d'.offeringAny products
  find? : ∀ id, d.find? id = d'.find? id
  get : ∀ id, d.get id = d'.get id
  best? : ∀ product criteria, d.best? product criteria = d'.best? product criteria
  stats : d.stats = d'.stats
  availableProducts : d.availableProducts = d'.availableProducts

theorem Distinct.indistinguishable (h : d.Distinct) (hperm : d.partners.Perm d'.partners) :
    Indistinguishable d d' := by
  have hall : d.all = d'.all := h.select_eq hperm _
  have hids : d.ids = d'.ids := congrArg (List.map Partner.id) hall
  have hoffering : ∀ product, d.offering product = d'.offering product := fun _ => h.select_eq hperm _
  have hfind : ∀ id, d.find? id = d'.find? id := h.find?_eq hperm
  exact
    { all := hall
      summaries := congrArg (List.map Partner.summary) hall
      ids := hids
      offering := hoffering
      offeringAll := fun _ => h.select_eq hperm _
      offeringAny := fun _ => h.select_eq hperm _
      find? := hfind
      get := fun id => by rw [get, get, hfind, hids]
      best? := fun product criteria => by rw [best?, best?, hoffering]
      stats := stats_eq hperm
      availableProducts := availableProducts_eq hperm }

end Lending.Directory
