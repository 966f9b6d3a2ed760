import Mathlib.Data.Finset.Card
import Lending.Proofs.Decimal.Order
import Lending.Proofs.Engine.Operation
import Lending.Proofs.Engine.Probing
import Lending.Proofs.Offer.Ranking
import Lending.Proofs.Partner.Directory

/-!
# Who is offered

From the directory to the offers no partner is lost, invented or doubled. The partners that offer the
product are scored, those with too low a score go, each of the others is asked, and whatever becomes of
that yields one offer; of these, the best are ranked. `offers_eq` writes the offers as one list over the
shortlist, and what is offered follows from it.
-/

namespace Lending

/-! ### The shortlist -/

namespace Decision

variable {d : Decision} {partners : List Partner} {options : Options}

theorem mem_shortlisted {entry : Partner × Nat} :
    entry ∈ d.shortlisted partners options ↔
      entry.1 ∈ partners ∧ entry.2 = d.probability entry.1.id ∧ options.minProbability ≤ entry.2 := by
  obtain ⟨p, probability⟩ := entry
  simp only [shortlisted, List.mem_filter, List.mem_map, Prod.mk.injEq, decide_eq_true_eq]
  constructor
  · rintro ⟨⟨q, hq, rfl, rfl⟩, hmin⟩
    exact ⟨hq, rfl, hmin⟩
  · rintro ⟨hp, rfl, hmin⟩
    exact ⟨⟨p, hp, rfl, rfl⟩, hmin⟩

theorem nodup_shortlisted (h : (partners.map Partner.id).Nodup) :
    ((d.shortlisted partners options).map fun entry => entry.1.id).Nodup := by
  have hall : ((partners.map fun p => (p, d.probability p.id)).map fun entry => entry.1.id).Nodup := by
    rw [List.map_map]
    exact h
  exact hall.sublist (List.filter_sublist.map _)

end Decision

/-! ### Offers -/

/-- Nobody is expected to lend more than was requested. -/
theorem Offer.figures_amount_le (outcome : Outcome) (requested : Amount) :
    (Offer.figures outcome requested).1 ≤ requested := by
  cases outcome with
  | failed reason => exact Decimal.le_refl requested.value
  | answered e =>
      show (e.maximum?.map fun most => min most requested).getD requested ≤ requested
      cases e.maximum? with
      | none => exact Decimal.le_refl requested.value
      | some most => exact Amount.min_le_right most requested

namespace Setting

variable (s : Setting) (a : Application) (options : Options)

/-- The partners in question offer the product, and have a score that is high enough; who has none is
taken to have 50. -/
def qualified : Finset PartnerId :=
  ((s.directory.partners.filter fun p => p.offers a.request.product &&
    decide (options.minProbability ≤ ((s.decision a).partnerScores.find? p.id).getD 50)).map
      Partner.id).toFinset

/-- A partner gives no answer within the time that it has. -/
def NoAnswer (p : Partner) : Prop :=
  ∀ eligibility, (p.check a.profile).reply = .answer eligibility →
    effectiveLimit s.probeLimit p.timeout < (p.check a.profile).delay

def shortlist : List (Partner × Nat) :=
  (s.decision a).shortlisted (s.directory.offering a.request.product) options

/-- The offer to expect from a partner of a certain probability. -/
def offer (entry : Partner × Nat) : Offer :=
  let task := Task.start s.probeLimit a.profile entry.1 entry.2
  (task.candidate task.outcome).offer a.request.product a.request.amount

variable {s a options}

theorem offers_eq :
    (s.findings a options).offers =
      Offer.ranked ((s.shortlist a options).map (s.offer a)) options.maxPartners := by
  simp only [findings, findingsIn, Findings.ofCandidates]
  rw [Probing.gather_eq_map fun i hi => Probing.mem_endingOrder hi]
  simp only [tasks, Decision.tasks, Probing.ask, List.map_map]
  rfl

theorem mem_shortlist {entry : Partner × Nat} :
    entry ∈ s.shortlist a options ↔ entry.1 ∈ s.directory.partners ∧
      entry.1.offers a.request.product = true ∧
      entry.2 = ((s.decision a).partnerScores.find? entry.1.id).getD 50 ∧
      options.minProbability ≤ entry.2 := by
  rw [shortlist, Decision.mem_shortlisted, Directory.offering, Directory.mem_select, and_assoc]
  rfl

theorem toFinset_shortlist :
    ((s.shortlist a options).map fun entry => entry.1.id).toFinset = s.qualified a options := by
  ext id
  simp only [qualified, List.mem_toFinset, List.mem_map, List.mem_filter, Bool.and_eq_true,
    decide_eq_true_eq, mem_shortlist]
  constructor
  · rintro ⟨entry, ⟨hmem, hoffers, hprobability, hmin⟩, rfl⟩
    exact ⟨entry.1, ⟨hmem, hoffers, hprobability ▸ hmin⟩, rfl⟩
  · rintro ⟨p, ⟨hmem, hoffers, hmin⟩, rfl⟩
    exact ⟨(p, _), ⟨hmem, hoffers, rfl, hmin⟩, rfl⟩

theorem nodup_shortlist (h : s.directory.Distinct) :
    ((s.shortlist a options).map fun entry => entry.1.id).Nodup :=
  Decision.nodup_shortlisted (h.select _)

theorem length_shortlist (h : s.directory.Distinct) :
    (s.shortlist a options).length = (s.qualified a options).card := by
  rw [← toFinset_shortlist, List.toFinset_card_of_nodup (nodup_shortlist h), List.length_map]

theorem length_offers (h : s.directory.Distinct) :
    (s.findings a options).offers.length = min options.maxPartners (s.qualified a options).card := by
  rw [offers_eq, Offer.length_ranked, List.length_map, length_shortlist h]

theorem nodup_offers (h : s.directory.Distinct) :
    ((s.findings a options).offers.map Offer.id).Nodup := by
  rw [offers_eq]
  refine Offer.nodup_ranked ?_ _
  rw [List.map_map]
  exact nodup_shortlist h

theorem exists_of_mem_offers {offer : Offer} (h : offer ∈ (s.findings a options).offers) :
    ∃ entry ∈ s.shortlist a options, ∃ rank, offer = { s.offer a entry with rank := rank } := by
  rw [offers_eq] at h
  obtain ⟨unranked, hmem, rank, hoffer⟩ := Offer.mem_ranked h
  obtain ⟨entry, hentry, rfl⟩ := List.mem_map.1 hmem
  exact ⟨entry, hentry, rank, hoffer⟩

theorem id_mem_qualified {offer : Offer} (h : offer ∈ (s.findings a options).offers) :
    offer.id ∈ s.qualified a options := by
  obtain ⟨entry, hentry, rank, rfl⟩ := exists_of_mem_offers h
  rw [← toFinset_shortlist, List.mem_toFinset]
  exact List.mem_map.2 ⟨entry, hentry, rfl⟩

theorem toFinset_offers (h : s.directory.Distinct)
    (hroom : (s.qualified a options).card ≤ options.maxPartners) :
    ((s.findings a options).offers.map Offer.id).toFinset = s.qualified a options := by
  refine Finset.eq_of_subset_of_card_le (fun id hid => ?_) ?_
  · obtain ⟨offer, hoffer, rfl⟩ := List.mem_map.1 (List.mem_toFinset.1 hid)
    exact id_mem_qualified hoffer
  · rw [List.toFinset_card_of_nodup (nodup_offers h), List.length_map, length_offers h]
    exact Nat.le_min.2 ⟨hroom, Nat.le_refl _⟩

/-- A partner that gives no answer in time is offered on the usual terms. -/
theorem offer_of_noAnswer {entry : Partner × Nat} (h : s.NoAnswer a entry.1) :
    (s.offer a entry).rate = .ofNat 16 ∧ (s.offer a entry).amount = a.request.amount ∧
      (s.offer a entry).approvalTime = .ofDays 2 3 := by
  obtain ⟨reason, hfailed⟩ := Probe.exists_failed h
  exact Candidate.offer_of_failed hfailed a.request.product a.request.amount

end Setting

/-! ### Runs -/

namespace Engine

theorem perform_distinct {e : Engine} (h : e.directory.Distinct) (operation : Operation) :
    (e.perform operation).directory.Distinct := by
  cases operation with
  | answers call arrival finish =>
      rw [perform, answer_directory]
      exact h
  | invalidates a => exact h
  | registers p =>
      rw [perform, register_directory]
      exact h.register p
  | unregisters id => exact h.unregister id

theorem after_distinct {e : Engine} (h : e.directory.Distinct) (operations : List Operation) (n : Nat) :
    (e.after operations n).directory.Distinct :=
  after_of_perform (P := fun before => before.directory.Distinct)
    (fun _ operation hbefore => perform_distinct hbefore operation) h operations n

/-- **No partner is lost, invented or doubled.** Whatever was done to the engine before, what a call
computes offers as many of the partners in question as it may, each once, with the score of the partner
and no more than the requested amount, and on the usual terms if the partner gave no answer in time. -/
theorem result_offers (scorer : Scorer) (config : EngineConfig) (cache : Cache CacheKey Assessment)
    (operations : List Operation) (n : Nat) (call : Call) :
    let e := (start scorer config cache).after operations n
    let request := call.application.request
    let findings := (e.result call).findings
    let qualified := e.setting.qualified call.application call.options
    (∀ arrival finish, e.Computes call arrival →
      e.reply call arrival finish = .ok (e.result call)) ∧
    findings.offers.length = min call.options.maxPartners qualified.card ∧
    (findings.offers.map Offer.id).Nodup ∧
    (∀ offer ∈ findings.offers, offer.id ∈ qualified) ∧
    (qualified.card ≤ call.options.maxPartners →
      (findings.offers.map Offer.id).toFinset = qualified) ∧
    ∀ offer ∈ findings.offers, ∃ p, e.directory.find? offer.id = some p ∧
      offer.probability = (findings.partnerScores.find? offer.id).getD 50 ∧
      offer.amount ≤ request.amount ∧
      (e.setting.NoAnswer call.application p →
        offer.rate = .ofNat 16 ∧ offer.amount = request.amount ∧ offer.approvalTime = .ofDays 2 3) := by
  intro e request findings qualified
  have hdistinct : e.directory.Distinct := after_distinct Directory.distinct_empty operations n
  have hfindings : findings = e.setting.findings call.application call.options := e.result_findings call
  rw [hfindings]
  refine ⟨fun arrival finish hcomputes => reply_of_computes hcomputes finish,
    Setting.length_offers hdistinct, Setting.nodup_offers hdistinct,
    fun offer hoffer => Setting.id_mem_qualified hoffer, Setting.toFinset_offers hdistinct, ?terms⟩
  case terms =>
    intro offer hoffer
    obtain ⟨entry, hentry, rank, rfl⟩ := Setting.exists_of_mem_offers hoffer
    obtain ⟨hmem, -, hprobability, -⟩ := Setting.mem_shortlist.1 hentry
    exact ⟨entry.1, hdistinct.find? hmem, hprobability, Offer.figures_amount_le _ _,
      Setting.offer_of_noAnswer⟩

end Engine
end Lending
