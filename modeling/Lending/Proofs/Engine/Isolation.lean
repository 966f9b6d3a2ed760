import Mathlib.Data.List.Nodup
import Lending.Proofs.Engine.Recommendation

/-!
# What one partner can do to the others

However a partner behaves when it is asked, the findings stay what they are, apart from the offers; and of
the offers, those of the other partners stay what they are and in their order. All that the behaviour of a
partner decides is its own offer, and with its place in the ranking, who is the last to be offered.
-/

namespace Lending

/-! ### Another behaviour -/

def Partner.answering (p : Partner) (check : Profile → Probe) : Partner := { p with check := check }

/-- Makes one partner of the directory answer in another way. -/
def Directory.answering (d : Directory) (id : PartnerId) (check : Profile → Probe) : Directory :=
  ⟨d.partners.map fun p => if p.id = id then p.answering check else p⟩

def Setting.answering (s : Setting) (id : PartnerId) (check : Profile → Probe) : Setting :=
  { s with directory := s.directory.answering id check }

def Engine.answering (e : Engine) (id : PartnerId) (check : Profile → Probe) : Engine :=
  { e with directory := e.directory.answering id check }

namespace Partner

variable {id : PartnerId} {check : Profile → Probe}

theorem listing_answering (p : Partner) :
    (if p.id = id then p.answering check else p).listing = p.listing := by
  split <;> rfl

theorem id_answering (p : Partner) : (if p.id = id then p.answering check else p).id = p.id :=
  congrArg Listing.id p.listing_answering

theorem summary_answering (p : Partner) :
    (if p.id = id then p.answering check else p).summary = p.summary := by
  rw [summary, listing_answering, summary]

theorem offers_answering (p : Partner) (product : Product) :
    (if p.id = id then p.answering check else p).offers product = p.offers product := by
  rw [offers, listing_answering, offers]

end Partner

namespace Directory

variable {d : Directory} {id : PartnerId} {check : Profile → Probe}

theorem Distinct.answering (h : d.Distinct) : (d.answering id check).Distinct := by
  have hids : (d.answering id check).partners.map Partner.id = d.partners.map Partner.id := by
    rw [Directory.answering, List.map_map]
    exact List.map_congr_left fun p _ => p.id_answering
  rw [Distinct, hids]
  exact h

theorem offering_answering (d : Directory) (product : Product) :
    (d.answering id check).offering product =
      (d.offering product).map fun p => if p.id = id then p.answering check else p := by
  have hwanted : (fun p : Partner => (if p.id = id then p.answering check else p).offers product) =
      fun p => p.offers product := funext fun p => p.offers_answering product
  rw [offering, offering, select, select, answering, List.filter_map]
  simp only [Function.comp_def, hwanted]
  refine (List.map_mergeSort fun p _ q _ => ?_).symm
  rw [Partner.id_answering, Partner.id_answering]

end Directory

namespace Setting

variable {s : Setting} {a : Application} {options : Options} {id : PartnerId} {check : Profile → Probe}

theorem decision_answering (s : Setting) (a : Application) :
    (s.answering id check).decision a = s.decision a := by
  have hsummaries : ((s.answering id check).directory.offering a.request.product).map Partner.summary =
      (s.directory.offering a.request.product).map Partner.summary := by
    rw [Setting.answering, Directory.offering_answering, List.map_map]
    exact List.map_congr_left fun p _ => p.summary_answering
  rw [decision, hsummaries]
  rfl

theorem shortlist_answering (s : Setting) (a : Application) (options : Options) :
    (s.answering id check).shortlist a options =
      (s.shortlist a options).map fun entry =>
        (if entry.1.id = id then entry.1.answering check else entry.1, entry.2) := by
  rw [shortlist, shortlist, decision_answering, Decision.shortlisted, Decision.shortlisted,
    Setting.answering, Directory.offering_answering, List.map_map, List.filter_map, List.filter_map,
    List.map_map]
  simp only [Function.comp_def, Partner.id_answering]

/-- A partner on the shortlist that is not the one behaves as before. -/
theorem offer_answering {entry : Partner × Nat} (h : entry.1.id ≠ id) :
    (s.answering id check).offer a (if entry.1.id = id then entry.1.answering check else entry.1, entry.2) =
      s.offer a entry := by
  rw [if_neg h]
  rfl

theorem id_offer (entry : Partner × Nat) : (s.offer a entry).id = entry.1.id := rfl

theorem filter_offers_answering (s : Setting) (id : PartnerId) (check : Profile → Probe)
    (a : Application) (options : Options) :
    ((((s.answering id check).shortlist a options).map ((s.answering id check).offer a)).filter
        fun offer => offer.id != id) =
      ((s.shortlist a options).map (s.offer a)).filter fun offer => offer.id != id := by
  rw [shortlist_answering, List.map_map, List.filter_map, List.filter_map]
  simp only [Function.comp_def, id_offer, Partner.id_answering]
  refine List.map_congr_left fun entry hentry => offer_answering ?_
  simpa using (List.mem_filter.1 hentry).2

/-- The offers of the others are the same in the same order, up to the end of one of the two lists. -/
theorem others_comparable (h : s.directory.Distinct) (id : PartnerId) (check : Profile → Probe)
    (a : Application) (options : Options) :
    let theirs := Offer.others id (s.findings a options).offers
    let theirs' := Offer.others id ((s.answering id check).findings a options).offers
    theirs <+: theirs' ∨ theirs' <+: theirs := by
  intro theirs theirs'
  have hnodup : (((s.shortlist a options).map (s.offer a)).map Offer.id).Nodup := by
    rw [List.map_map]
    exact nodup_shortlist h
  have hnodup' : ((((s.answering id check).shortlist a options).map
      ((s.answering id check).offer a)).map Offer.id).Nodup := by
    rw [List.map_map]
    exact nodup_shortlist h.answering
  rcases Offer.others_ranked_comparable hnodup hnodup' (filter_offers_answering s id check a options).symm
    options.maxPartners options.maxPartners with hle | hle
  · exact Or.inl (by rwa [← offers_eq, ← offers_eq] at hle)
  · exact Or.inr (by rwa [← offers_eq, ← offers_eq] at hle)

/-! ### Findings -/

theorem offers_isEmpty_answering (s : Setting) (a : Application) (options : Options) :
    ((s.answering id check).findings a options).offers.isEmpty =
      (s.findings a options).offers.isEmpty := by
  have hlength : ((s.answering id check).findings a options).offers.length =
      (s.findings a options).offers.length := by
    rw [offers_eq, offers_eq, Offer.length_ranked, Offer.length_ranked, List.length_map,
      List.length_map, shortlist_answering, List.length_map]
  rw [Bool.eq_iff_iff, List.isEmpty_iff, List.isEmpty_iff, ← List.length_eq_zero_iff, hlength,
    List.length_eq_zero_iff]

/-- What is found depends on the candidates by their offers alone, and apart from these by whether there
are any. -/
theorem findings_eq_of_offers {s' : Setting} (hdecision : s'.decision a = s.decision a)
    (hempty : (s'.findings a options).offers.isEmpty = (s.findings a options).offers.isEmpty) :
    s'.findings a options = { s.findings a options with offers := (s'.findings a options).offers } := by
  simp only [findings, findingsIn, Findings.ofCandidates, hdecision] at hempty ⊢
  rw [hempty]

theorem findings_answering (s : Setting) (a : Application) (options : Options) :
    (s.answering id check).findings a options =
      { s.findings a options with offers := ((s.answering id check).findings a options).offers } :=
  findings_eq_of_offers (s.decision_answering a) (s.offers_isEmpty_answering a options)

theorem offer_eq_of_id_eq (h : s.directory.Distinct) {x y : Offer}
    (hx : x ∈ (s.findings a options).offers) (hy : y ∈ ((s.answering id check).findings a options).offers)
    (hid : x.id = y.id) (hne : x.id ≠ id) : x.unranked = y.unranked := by
  have hx' := Offer.unranked_mem_others hx hne
  have hy' := Offer.unranked_mem_others hy (hid ▸ hne)
  rcases others_comparable h id check a options with hle | hle
  · exact List.inj_on_of_nodup_map (Offer.nodup_others (nodup_offers h.answering) id) (hle.subset hx')
      hy' hid
  · exact List.inj_on_of_nodup_map (Offer.nodup_others (nodup_offers h) id) hx' (hle.subset hy') hid

/-- Two other partners that are offered either way are offered in the same order. -/
theorem sublist_offers_answering (h : s.directory.Distinct) {p q : PartnerId} (hp : p ≠ id) (hq : q ≠ id)
    (hmem : q ∈ (s.findings a options).offers.map Offer.id)
    (hmem' : q ∈ ((s.answering id check).findings a options).offers.map Offer.id) :
    [p, q].Sublist ((s.findings a options).offers.map Offer.id) ↔
      [p, q].Sublist (((s.answering id check).findings a options).offers.map Offer.id) := by
  refine (Offer.sublist_others_iff hp hq).symm.trans (Iff.trans ?_ (Offer.sublist_others_iff hp hq))
  rw [← Offer.mem_others_iff hq] at hmem hmem'
  rcases others_comparable h id check a options with hle | hle
  · exact Offer.sublist_iff_of_isPrefix (hle.map _) (Offer.nodup_others (nodup_offers h.answering) id) hmem
  · exact (Offer.sublist_iff_of_isPrefix (hle.map _) (Offer.nodup_others (nodup_offers h) id) hmem').symm

end Setting

/-- **Partners are isolated.** Whatever was done to the engine before, let it compute twice, and one
partner behave in another way the second time: answer anything, fail, come too late or not at all. Both
results are the same apart from the offers. Another partner with an offer in both has the same offer apart
from its place, and two such partners are in the same order. -/
theorem Engine.probe_isolation (scorer : Scorer) (config : EngineConfig)
    (cache : Cache CacheKey Assessment) (operations : List Engine.Operation) (n : Nat) (call : Call)
    (id : PartnerId) (check : Profile → Probe) :
    let e := (start scorer config cache).after operations n
    let first := (e.result call).findings
    let second := ((e.answering id check).result call).findings
    second = { first with offers := second.offers } ∧
    (∀ x ∈ first.offers, ∀ y ∈ second.offers, x.id = y.id → x.id ≠ id →
      y = { x with rank := y.rank }) ∧
    ∀ p q, p ≠ id → q ≠ id →
      p ∈ first.offers.map Offer.id → p ∈ second.offers.map Offer.id →
      q ∈ first.offers.map Offer.id → q ∈ second.offers.map Offer.id →
      ([p, q].Sublist (first.offers.map Offer.id) ↔ [p, q].Sublist (second.offers.map Offer.id)) := by
  intro e first second
  have hdistinct : e.setting.directory.Distinct := after_distinct Directory.distinct_empty operations n
  have hfirst : first = e.setting.findings call.application call.options := e.result_findings call
  have hsecond : second = (e.setting.answering id check).findings call.application call.options :=
    (e.answering id check).result_findings call
  rw [hfirst, hsecond]
  refine ⟨Setting.findings_answering e.setting _ _, ?fields, ?order⟩
  case fields =>
    intro x hx y hy hid hne
    have hsame : x.unranked = y.unranked := Setting.offer_eq_of_id_eq hdistinct hx hy hid hne
    exact congrArg (fun offer : Offer => { offer with rank := y.rank }) hsame.symm
  case order =>
    intro p q hp hq _ _ hmem hmem'
    exact Setting.sublist_offers_answering hdistinct hp hq hmem hmem'

end Lending
