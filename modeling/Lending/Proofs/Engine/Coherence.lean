import Lending.Partner.Policy
import Lending.Proofs.Engine.Recommendation
import Lending.Proofs.Scoring.Decision

/-!
# Findings agree with themselves

Score, risk, verdict, advice and offers of one result come from one decision by different ways. They agree
whatever the scorer decided and whoever is offered: with nobody to offer the verdict is to decline, and the
advice follows the verdict that is given, not the one that the score alone would bear. Partner scores are
those of everybody who was scored, offered or not.
-/

namespace Lending

/-! ### Findings -/

/-- What a result says in one place agrees with what it says in another. -/
structure Findings.Coherent (f : Findings) (profile : Profile) : Prop where
  score_le : f.score ≤ 100
  risk_eq : f.risk = 100 - f.score
  verdict_eq : f.verdict =
    if f.offers = [] then .decline
    else if 70 ≤ f.score then .approve else if 50 ≤ f.score then .review else .decline
  recommendations_eq : f.riskAssessment.recommendations = Risk.recommendations profile f.risk
  suggestions_eq : f.suggestions = f.verdict.suggestions f.riskAssessment.recommendations
  ranks_eq : f.offers.map Offer.rank = List.range' 1 f.offers.length

theorem Findings.coherent_ofCandidates (a : Application) (options : Options) (d : Decision)
    (candidates : List Candidate) : (ofCandidates a options d candidates).Coherent a.profile where
  score_le := d.score_le
  risk_eq := rfl
  verdict_eq := by
    simp only [ofCandidates, List.isEmpty_iff]
    rfl
  recommendations_eq := rfl
  suggestions_eq := rfl
  ranks_eq := Offer.map_rank_ranked _ _

/-! ### Who is scored -/

/-- Of the partners that a scorer is shown, one at most has a certain identifier. -/
theorem Directory.Distinct.find?_summary {d : Directory} (h : d.Distinct) (product : Product)
    (id : PartnerId) :
    (((d.offering product).map Partner.summary).reverse.find? fun partner => id = partner.id) =
      ((d.find? id).filter fun p => p.offers product).map Partner.summary := by
  have hshown : ∀ summary ∈ ((d.offering product).map Partner.summary).reverse,
      ∃ p ∈ d.partners, p.offers product = true ∧ p.summary = summary := by
    intro summary hsummary
    obtain ⟨p, hp, rfl⟩ := List.mem_map.1 (List.mem_reverse.1 hsummary)
    exact ⟨p, (mem_select.1 hp).1, (mem_select.1 hp).2, rfl⟩
  cases hfound : ((d.offering product).map Partner.summary).reverse.find? fun partner =>
      id = partner.id with
  | some summary =>
      obtain ⟨p, hp, hoffers, rfl⟩ := hshown summary (List.mem_of_find?_eq_some hfound)
      have hfits := List.find?_some hfound
      have hid : id = p.id := of_decide_eq_true hfits
      rw [hid, h.find? hp, Option.filter_some, if_pos hoffers, Option.map_some]
  | none =>
      cases hfind : d.find? id with
      | none => rfl
      | some p =>
          obtain ⟨hp, hid⟩ := mem_of_find? hfind
          have hnot : p.offers product = false := by
            by_contra hoffers
            have hmem : p ∈ d.offering product := mem_select.2 ⟨hp, by simpa using hoffers⟩
            have hall := List.find?_eq_none.1 hfound p.summary
              (List.mem_reverse.2 (List.mem_map_of_mem hmem))
            exact hall (decide_eq_true hid.symm)
          rw [Option.filter_some, hnot]
          rfl

namespace Engine

/-! ### The scorer stays -/

theorem perform_scorer (e : Engine) (operation : Operation) : (e.perform operation).scorer = e.scorer := by
  cases operation with
  | answers call arrival finish => exact e.answer_scorer _ _ arrival finish
  | invalidates a => rfl
  | registers p => exact e.register_scorer p
  | unregisters id => rfl

/-- **What is computed agrees with itself.** Whatever was done to the engine before, what a call computes is
coherent, and shows the score and the partner scores of the decision on all partners in the directory that
offer the product. Where the decision is one by rules, or by a model that they stand behind, every one of these
partners is scored, from the score that is shown, and nobody else is. -/
theorem result_coherent (scorer : Scorer) (config : EngineConfig) (cache : Cache CacheKey Assessment)
    (operations : List Operation) (n : Nat) (call : Call) :
    let e := (start scorer config cache).after operations n
    let a := call.application
    let shown := (e.directory.offering a.request.product).map Partner.summary
    let decision := scorer.assess a.profile a.request shown
    let findings := (e.result call).findings
    (∀ arrival finish, e.Computes call arrival →
      e.reply call arrival finish = .ok (e.result call)) ∧
    findings.Coherent a.profile ∧
    findings.score = decision.score ∧ findings.partnerScores = decision.partnerScores ∧
    ∀ table, Adjustments.Decides table a.profile a.request shown decision → ∀ id,
      (findings.partnerScores.find? id).map Except.ok =
        ((e.directory.find? id).filter fun p => p.offers a.request.product).map fun p =>
          Adjustments.apply table p.listing.type (.ofRequest a.profile a.request) findings.score := by
  intro e a shown decision findings
  have hdistinct : e.directory.Distinct := after_distinct Directory.distinct_empty operations n
  have hscorer : e.scorer = scorer :=
    after_of_perform (fun e operation h => (e.perform_scorer operation).trans h) rfl operations n
  have hdecision : e.setting.decision a = decision := by
    show e.scorer.assess _ _ _ = _
    rw [hscorer]
    rfl
  have hfindings : findings = e.setting.findings a call.options := e.result_findings call
  have hscore : findings.score = decision.score := by rw [hfindings, ← hdecision]; rfl
  have hscores : findings.partnerScores = decision.partnerScores := by rw [hfindings, ← hdecision]; rfl
  have hcoherent : findings.Coherent a.profile := hfindings ▸ Findings.coherent_ofCandidates _ _ _ _
  refine ⟨fun arrival finish hcomputes => reply_of_computes hcomputes finish, hcoherent, hscore, hscores,
    fun table htable id => ?scored⟩
  case scored =>
    rw [hscores, hscore, Adjustments.find?_partnerScores htable.partnerScores_eq, hdistinct.find?_summary,
      Option.map_map]
    rfl

/-- A call by a strong applicant who wants no offer with a probability below this one. -/
def demandingCall (minProbability : Nat) : Call :=
  let profile := { Profile.empty with
    years? := some (.ofNat 9), revenue? := some (.ofNat 12000000), credit? := some 760 }
  ⟨{ (sampleCall 1000 none).application with profile := profile }, ⟨minProbability, 5⟩⟩

/-- Two banks, who add five to the score of this applicant, and a lender who adds nothing. -/
def threeLenders : List Operation :=
  [("old", .bank), ("open", .fintech), ("plain", .bank)].map fun (id, type) =>
    .registers { Policy.named id id with type := type, products := [.termLoan] }.partner

/-- The same decision bears two offers or none, and then the verdict and the advice are others. -/
theorem result_coherent_demandingCall :
    let e := (start .standard .standard (.empty 10 1000)).after threeLenders 3
    let offered := (e.result (demandingCall 92)).findings
    let empty := (e.result (demandingCall 100)).findings
    (e.Computes (demandingCall 92) 5 ∧
      e.reply (demandingCall 92) 5 6 = .ok (e.result (demandingCall 92))) ∧
    (offered.offers.map Offer.id = ["old", "plain"] ∧ offered.offers.map Offer.rank = [1, 2]) ∧
    (offered.score = 90 ∧ offered.risk = 10 ∧ offered.verdict = .approve) ∧
    offered.suggestions = Verdict.approve.suggestions offered.riskAssessment.recommendations ∧
    (offered.partnerScores.find? "old" = some 95 ∧ offered.partnerScores.find? "open" = some 90) ∧
    (empty.offers = [] ∧ empty.score = 90 ∧ empty.verdict = .decline) ∧
    empty.suggestions = Verdict.decline.suggestions empty.riskAssessment.recommendations := by
  intro e offered empty
  have hcomputes : e.Computes (demandingCall 92) 5 := ⟨rfl, by decide +kernel⟩
  have hsorted : e.directory.offering .termLoan = e.directory.partners.filter fun p => p.offers .termLoan :=
    List.mergeSort_of_pairwise (by decide +kernel)
  have hoffering (least : Nat) : e.setting.directory.offering (demandingCall least).application.request.product =
      e.directory.partners.filter fun p => p.offers .termLoan := hsorted
  obtain ⟨hreply, hcoherent, hscore, -, hscored⟩ :=
    result_coherent .standard .standard (.empty 10 1000) threeLenders 3 (demandingCall 92)
  obtain ⟨-, hcoherent', hscore', -⟩ :=
    result_coherent .standard .standard (.empty 10 1000) threeLenders 3 (demandingCall 100)
  rw [Scorer.standard_score] at hscore hscore'
  have hscore : offered.score = 90 := hscore.trans (by decide +kernel)
  have hscore' : empty.score = 90 := hscore'.trans (by decide +kernel)
  have hoffers (least : Nat) : (e.result (demandingCall least)).findings.offers =
      Offer.ranked ((((e.setting.decision (demandingCall least).application).shortlisted
        (e.directory.partners.filter fun p => p.offers .termLoan) ⟨least, 5⟩).map
          (e.setting.offer (demandingCall least).application))) 5 := by
    rw [result_findings, Setting.offers_eq, Setting.shortlist, hoffering]
    rfl
  have hids : offered.offers.map Offer.id = ["old", "plain"] := by
    rw [hoffers, Setting.decision, hoffering, Offer.ranked, List.mergeSort_of_pairwise (by decide +kernel)]
    decide +kernel
  have hnone : empty.offers = [] := by
    rw [hoffers, Setting.decision, hoffering]
    decide +kernel
  have hlength : offered.offers.length = 2 := (List.length_map Offer.id).symm.trans (congrArg List.length hids)
  have hsome : offered.offers ≠ [] := List.ne_nil_of_length_pos (hlength ▸ Nat.two_pos)
  have hverdict : offered.verdict = .approve :=
    hcoherent.verdict_eq.trans (by rw [if_neg hsome, hscore]; rfl)
  have hverdict' : empty.verdict = .decline := hcoherent'.verdict_eq.trans (if_pos hnone)
  have hpartner (id : PartnerId) := hscored .standard (Or.inl (Scorer.decide_standard _ _ _)) id
  rw [hscore] at hpartner
  refine ⟨⟨hcomputes, hreply 5 6 hcomputes⟩, ⟨hids, ?ranks⟩, ⟨hscore, ?risk, hverdict⟩, ?advice,
    ⟨?bank, ?fintech⟩, ⟨hnone, hscore', hverdict'⟩, ?advice'⟩
  case ranks =>
    rw [hcoherent.ranks_eq, hlength]
    rfl
  case risk => rw [hcoherent.risk_eq, hscore]
  case advice => rw [← hverdict, hcoherent.suggestions_eq]
  case advice' => rw [← hverdict', hcoherent'.suggestions_eq]
  case bank => exact Option.map_injective (fun _ _ => Except.ok.inj) ((hpartner "old").trans (by decide +kernel))
  case fintech =>
    exact Option.map_injective (fun _ _ => Except.ok.inj) ((hpartner "open").trans (by decide +kernel))

end Engine
end Lending
