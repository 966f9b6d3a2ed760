import Lending.Partner.Policy
import Lending.Proofs.Engine.Operation
import Lending.Proofs.Partner.Arrangement

/-!
# Answers do not show in which order the partners are held

Partners may have come in any order, others may have come and gone in between, and the directory may hold
those that are left in any order. As long as they are the same partners, all questions to the directory are
answered alike, and so is an application that nothing is known of yet.
-/

namespace Lending

/-- Of the directory, what is found on an application depends on the partners that offer the product. -/
theorem Setting.findings_eq_of_offering {s s' : Setting} {a : Application} (hscorer : s.scorer = s'.scorer)
    (hlimit : s.probeLimit = s'.probeLimit)
    (hoffering : s.directory.offering a.request.product = s'.directory.offering a.request.product)
    (options : Options) : s.findings a options = s'.findings a options := by
  have hdecision : s.decision a = s'.decision a := by rw [decision, decision, hscorer, hoffering]
  have htasks : s.tasks a options = s'.tasks a options := by
    rw [tasks, tasks, hdecision, hoffering, hlimit]
  rw [findings, findings, findingsIn, findingsIn, hdecision, htasks]

namespace Engine

theorem map_findings_reply {e : Engine} {call : Call} {arrival : Nat}
    (hnew : (e.lookUp call.application arrival).1 = none) (finish : Nat) :
    (e.reply call arrival finish).map Assessment.findings =
      (check call.application call.options).map fun _ =>
        e.setting.findings call.application call.options := by
  cases hcheck : check call.application call.options with
  | error fault =>
      rw [reply, answer, hcheck]
      rfl
  | ok =>
      rw [reply_of_computes ⟨hcheck, hnew⟩ finish, ← e.result_findings call]
      rfl

/-- **The order of the partners does not show.** Let two histories leave the same partners, and let
directories hold these in any order. Then no question tells the directories apart; every list of partners
that they give is in strictly ascending order of the identifiers; and engines that share a scorer and a
configuration answer any call alike over the one and the other if neither knows the answer yet. -/
theorem same_answers_in_any_order (operations operations' : List Directory.Operation)
    {d d' : Directory} (hd : d.partners.Perm (Directory.empty.after operations).partners)
    (hd' : d'.partners.Perm (Directory.empty.after operations').partners)
    (hsame : ∀ p, p ∈ (Directory.empty.after operations).partners ↔
      p ∈ (Directory.empty.after operations').partners) :
    d.Indistinguishable d' ∧
    (∀ product products,
      ∀ list ∈ [d.all, d.offering product, d.offeringAll products, d.offeringAny products],
        (list.map Partner.id).Pairwise (· < ·)) ∧
    ((d.all.map Partner.summary).map PartnerSummary.id).Pairwise (· < ·) ∧ d.ids.Pairwise (· < ·) ∧
    ∀ e e' : Engine, e.directory = d → e'.directory = d' → e.scorer = e'.scorer → e.config = e'.config →
      ∀ call arrival finish arrival' finish', (e.lookUp call.application arrival).1 = none →
        (e'.lookUp call.application arrival').1 = none →
        (e.reply call arrival finish).map Assessment.findings =
          (e'.reply call arrival' finish').map Assessment.findings := by
  have hafter : ∀ operations, (Directory.empty.after operations).Distinct :=
    Directory.distinct_empty.after
  have hdistinct : d.Distinct := (hafter operations).of_perm hd
  have hperm : d.partners.Perm d'.partners :=
    (hd.trans ((hafter operations).perm_of_mem_iff (hafter operations') hsame)).trans hd'.symm
  have hview : d.Indistinguishable d' := hdistinct.indistinguishable hperm
  refine ⟨hview, fun product products list hlist => ?ascending, ?summaries, hdistinct.pairwise_ids, ?answers⟩
  case ascending =>
    simp only [List.mem_cons, List.not_mem_nil, or_false] at hlist
    rcases hlist with rfl | rfl | rfl | rfl
    all_goals exact hdistinct.pairwise_map_id_select _
  case summaries =>
    rw [List.map_map]
    exact hdistinct.pairwise_ids
  case answers =>
    rintro e e' rfl rfl hscorer hconfig call arrival finish arrival' finish' hnew hnew'
    have hlimit : e.setting.probeLimit = e'.setting.probeLimit :=
      congrArg EngineConfig.probeLimit hconfig
    rw [map_findings_reply hnew, map_findings_reply hnew',
      Setting.findings_eq_of_offering hscorer hlimit (hview.offering _)]

def alpha : Partner := { Policy.named "alpha" "Alpha" with products := [.termLoan] }.partner

def beta : Partner := { Policy.named "beta" "Beta" with products := [.termLoan], minCredit := 720 }.partner

/-- A history in which the second partner comes first, and a third one comes and goes. -/
def detour : List Directory.Operation :=
  [.registers (Policy.named "gamma" "Gamma").partner, .registers beta, .registers alpha,
   .registers { beta with capabilities := [] }, .unregisters "gamma"]

theorem same_answers_in_any_order_detour :
    let straight : List Directory.Operation := [.registers alpha, .registers beta]
    let d : Directory := ⟨[beta, alpha]⟩
    let d' : Directory := ⟨[alpha, beta]⟩
    let engine (d : Directory) : Engine :=
      { start .standard .standard (.empty 10 1000) with directory := d }
    d.partners.Perm (Directory.empty.after straight).partners ∧
    d'.partners.Perm (Directory.empty.after detour).partners ∧
    (∀ p, p ∈ (Directory.empty.after straight).partners ↔ p ∈ (Directory.empty.after detour).partners) ∧
    d.Indistinguishable d' ∧
    ((engine d).reply (sampleCall 1000 (some 700)) 5 6).map Assessment.findings =
      ((engine d').reply (sampleCall 1000 (some 700)) 7 9).map Assessment.findings := by
  intro straight d d' engine
  have hstraight : (Directory.empty.after straight).partners = [alpha, beta] := rfl
  have hdetour : (Directory.empty.after detour).partners = [beta, alpha] := rfl
  have hd : d.partners.Perm (Directory.empty.after straight).partners := by
    rw [hstraight]
    exact .swap alpha beta []
  have hd' : d'.partners.Perm (Directory.empty.after detour).partners := by
    rw [hdetour]
    exact .swap beta alpha []
  have hsame : ∀ p, p ∈ (Directory.empty.after straight).partners ↔
      p ∈ (Directory.empty.after detour).partners := by
    intro p
    rw [hstraight, hdetour]
    exact (List.Perm.swap beta alpha []).mem_iff
  obtain ⟨hview, -, -, -, hanswers⟩ := same_answers_in_any_order straight detour hd hd' hsame
  exact ⟨hd, hd', hsame, hview, hanswers (engine d) (engine d') rfl rfl rfl rfl _ 5 6 7 9 rfl rfl⟩

end Engine
end Lending
