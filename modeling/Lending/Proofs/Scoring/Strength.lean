import Lending.Decision.Risk
import Lending.Proofs.Catalog
import Lending.Proofs.Scoring.Adjustment
import Lending.Scoring.Scorer

/-!
# A stronger applicant never scores lower

Of two applicants one is stronger if the business is no younger, earns no less, has no lower credit score
and asks for no more. All scores that rest on the rules follow this order at once: the overall score, the
score for each partner, and the score of the risk assessment, which is higher where an applicant is safer.

The order is about the figures that scoring sees, with defaults in the place of missing ones. The decision
itself is not needed to compare risks: its score only selects recommendations.
-/

namespace Lending

/-! ### Decisions by a table -/

theorem map_eq_ok_iff {ε α β : Type} {g : α → β} {outcome : Except ε α} {value : β} :
    outcome.map g = .ok value ↔ ∃ a, outcome = .ok a ∧ g a = value := by
  cases outcome <;> simp [Except.map]

theorem exists_map_eq_ok_iff {ε α β : Type} {g : α → β} {outcome : Except ε α} :
    (∃ value, outcome.map g = .ok value) ↔ ∃ a, outcome = .ok a := by
  cases outcome <;> simp [Except.map]

namespace Adjustments

variable {table : Adjustments} {f g : Features} {base better : Nat} {partners : List PartnerSummary}
  {scores : Catalog Nat} {profile : Profile} {request : Request} {d : Decision}

theorem decide_eq_ok_iff : table.decide profile request partners = .ok d ↔
    ∃ scores, table.partnerScores partners (.ofRequest profile request)
        (Features.ofRequest profile request).score = .ok scores ∧
      .make (Features.ofRequest profile request).score profile.reportedCredit? scores
        (Features.ofRequest profile request).factors (Features.ofRequest profile request).confidence .rules = d :=
  map_eq_ok_iff

theorem score_of_decide (h : table.decide profile request partners = .ok d) :
    d.score = (Features.ofRequest profile request).score := by
  obtain ⟨scores, -, rfl⟩ := decide_eq_ok_iff.1 h
  exact Nat.min_eq_left (Features.score_le _)

theorem factors_of_decide (h : table.decide profile request partners = .ok d) :
    d.factors = (Features.ofRequest profile request).factors := by
  obtain ⟨scores, -, rfl⟩ := decide_eq_ok_iff.1 h
  simp only [Decision.make]

/-! ### Partner scores -/

theorem entry_eq_ok_iff {partner : PartnerSummary} {entry : PartnerId × Nat} :
    table.entry f base partner = .ok entry ↔
      entry.1 = partner.id ∧ table.apply partner.type f base = .ok entry.2 := by
  rw [Adjustments.entry, map_eq_ok_iff]
  constructor
  · rintro ⟨score, hscore, rfl⟩
    exact ⟨rfl, hscore⟩
  · rintro ⟨hid, hscore⟩
    exact ⟨entry.2, hscore, Prod.ext hid.symm rfl⟩

theorem map_entries_of_mapM {entries : List (PartnerId × Nat)}
    (h : partners.mapM (table.entry f base) = .ok entries) :
    (entries.map fun entry => (entry.1, (Except.ok entry.2 : Except Overflow Nat))) =
      partners.map fun partner => (partner.id, table.apply partner.type f base) := by
  induction partners generalizing entries with
  | nil =>
      cases h
      rfl
  | cons partner partners ih =>
      rw [List.mapM_cons] at h
      cases hentry : table.entry f base partner with
      | error overflow =>
          rw [hentry] at h
          cases h
      | ok entry =>
          rw [hentry] at h
          cases hrest : partners.mapM (table.entry f base) with
          | error overflow =>
              rw [hrest] at h
              cases h
          | ok rest =>
              rw [hrest] at h
              cases h
              obtain ⟨hid, hscore⟩ := entry_eq_ok_iff.1 hentry
              rw [List.map_cons, List.map_cons, ih hrest, hid, hscore]

theorem exists_partnerScores_iff : (∃ scores, table.partnerScores partners f base = .ok scores) ↔
    ∀ partner ∈ partners, ∃ score, table.apply partner.type f base = .ok score := by
  refine ⟨?_, exists_partnerScores partners⟩
  rintro ⟨scores, hscores⟩ partner hpartner
  obtain ⟨entries, hentries, -⟩ := map_eq_ok_iff.1 hscores
  have hmem : (partner.id, table.apply partner.type f base) ∈
      partners.map fun partner => (partner.id, table.apply partner.type f base) :=
    List.mem_map_of_mem hpartner
  rw [← map_entries_of_mapM hentries, List.mem_map] at hmem
  obtain ⟨entry, -, heq⟩ := hmem
  exact ⟨entry.2, (Prod.mk.inj heq).2.symm⟩

theorem exists_decide_iff : (∃ d, table.decide profile request partners = .ok d) ↔
    ∀ partner ∈ partners, ∃ score, table.apply partner.type (.ofRequest profile request)
      (Features.ofRequest profile request).score = .ok score :=
  exists_map_eq_ok_iff.trans exists_partnerScores_iff

/-- The score for a partner is that for the type which it has at its last place on the list. -/
theorem find?_partnerScores (h : table.partnerScores partners f base = .ok scores) (id : PartnerId) :
    (scores.find? id).map Except.ok = (partners.reverse.find? fun partner => id = partner.id).map
      fun partner => table.apply partner.type f base := by
  obtain ⟨entries, hentries, rfl⟩ := map_eq_ok_iff.1 h
  rw [Catalog.find?_ofList, ← lookup_map_snd, List.map_reverse, map_entries_of_mapM hentries,
    ← List.map_reverse, lookup_map]

theorem find?_partnerScores_eq_some_iff (h : table.partnerScores partners f base = .ok scores)
    {id : PartnerId} {score : Nat} : scores.find? id = some score ↔
      ∃ partner, (partners.reverse.find? fun partner => id = partner.id) = some partner ∧
        table.apply partner.type f base = .ok score := by
  rw [← Option.map_eq_some_iff, ← find?_partnerScores h, Option.map_eq_some_iff]
  constructor
  · exact fun hscore => ⟨score, hscore, rfl⟩
  · rintro ⟨other, hother, hsame⟩
    rwa [← Except.ok.inj hsame]

theorem Fair.find?_partnerScores_le (htable : table.Fair) (h : Features.NoBetter f g)
    (hle : base ≤ better) (hbetter : better ≤ 100) {scores' : Catalog Nat}
    (hscores : table.partnerScores partners f base = .ok scores)
    (hscores' : table.partnerScores partners g better = .ok scores') {id : PartnerId} {score : Nat}
    (hscore : scores.find? id = some score) :
    ∃ score', scores'.find? id = some score' ∧ score ≤ score' := by
  obtain ⟨partner, hpartner, happly⟩ := (find?_partnerScores_eq_some_iff hscores).1 hscore
  obtain ⟨least, score', hleast, happly', hle⟩ :=
    htable.apply_le_apply partner.type h hle hbetter
  refine ⟨score', (find?_partnerScores_eq_some_iff hscores').2 ⟨partner, hpartner, happly'⟩, ?_⟩
  rwa [Except.ok.inj (happly.symm.trans hleast)]

end Adjustments

/-! ### Risk -/

namespace Risk

theorem ageScale_descending : ageScale.Descending := ⟨by decide, by decide⟩

theorem revenueScale_descending : revenueScale.Descending := ⟨by decide, by decide⟩

theorem creditScale_descending : creditScale.Descending := ⟨by decide, by decide⟩

theorem foldl_scores_le {p q : Profile} (hyears : p.years ≤ q.years) (hrevenue : p.revenue ≤ q.revenue)
    (hcredit : p.credit ≤ q.credit) :
    (scores p).foldl (fun sum entry => sum + entry.2) 0
      ≤ (scores q).foldl (fun sum entry => sum + entry.2) 0 := by
  have hage := ageScale_descending.points_le_of_le Binary64.le_trans (fun _ _ => rfl) hyears
  have hearnings := revenueScale_descending.points_le_of_le Amount.le_trans (fun _ _ => rfl) hrevenue
  have hhistory := creditScale_descending.points_le_of_le Nat.le_trans (fun _ _ => rfl) hcredit
  simp only [scores, List.foldl_cons, List.foldl_nil]
  omega

end Risk

theorem Profile.assessRisk_score_le {p q : Profile} (hyears : p.years ≤ q.years)
    (hrevenue : p.revenue ≤ q.revenue) (hcredit : p.credit ≤ q.credit) (d d' : Decision) :
    (p.assessRisk d).score ≤ (q.assessRisk d').score :=
  roundHalfUp_mono 3 (Risk.foldl_scores_le hyears hrevenue hcredit)

/-! ### All scores -/

namespace Scorer

theorem decide_standard (profile : Profile) (request : Request) (partners : List PartnerSummary) :
    Adjustments.standard.decide profile request partners =
      .ok (standard.assess profile request partners) :=
  Overflow.ok_never _

theorem standard_score (profile : Profile) (request : Request) (partners : List PartnerSummary) :
    (standard.assess profile request partners).score = (Features.ofRequest profile request).score :=
  Adjustments.score_of_decide (decide_standard profile request partners)

/-- **A stronger applicant never scores lower.** The points of the four dimensions are no fewer, so whatever the
table and the partners, neither is the overall score of any decision; under the standard table there always is a
decision, and neither the score for any type of partner is lower, nor that for any partner by its name; and
neither is the score of the risk assessment, on whatever decisions it is made. -/
theorem scores_le_of_stronger {p q : Profile} {r s : Request} (hyears : p.years ≤ q.years)
    (hrevenue : p.revenue ≤ q.revenue) (hcredit : p.credit ≤ q.credit) (hamount : s.amount ≤ r.amount) :
    (Features.ofRequest p r).score ≤ (Features.ofRequest q s).score ∧
    (∀ table partners d d', Adjustments.decide table p r partners = .ok d →
      Adjustments.decide table q s partners = .ok d' → d.score ≤ d'.score) ∧
    (∀ partners, (standard.assess p r partners).score ≤ (standard.assess q s partners).score) ∧
    (∀ partners type, ∃ score score',
      Adjustments.standard.apply type (.ofRequest p r) (standard.assess p r partners).score = .ok score ∧
      Adjustments.standard.apply type (.ofRequest q s) (standard.assess q s partners).score = .ok score' ∧
      score ≤ score') ∧
    (∀ partners id score, (standard.assess p r partners).partnerScores.find? id = some score →
      ∃ score', (standard.assess q s partners).partnerScores.find? id = some score' ∧ score ≤ score') ∧
    ∀ d d', (p.assessRisk d).score ≤ (q.assessRisk d').score := by
  have hfeatures := Features.NoBetter.ofRequest hyears hrevenue hcredit hamount
  have hscore := hfeatures.score_le_score
  have hbound := (Features.ofRequest q s).score_le
  refine ⟨hscore, fun table partners d d' hd hd' => ?decided, fun partners => ?overall,
    fun partners type => ?types, fun partners id score hfind => ?named, ?risk⟩
  case decided =>
    rw [Adjustments.score_of_decide hd, Adjustments.score_of_decide hd']
    exact hscore
  case overall =>
    rw [standard_score, standard_score]
    exact hscore
  case types =>
    rw [standard_score, standard_score]
    exact Adjustments.standard_fair.apply_le_apply _ hfeatures hscore hbound
  case named =>
    obtain ⟨scores, hscores, hd⟩ := Adjustments.decide_eq_ok_iff.1 (decide_standard p r partners)
    obtain ⟨scores', hscores', hd'⟩ := Adjustments.decide_eq_ok_iff.1 (decide_standard q s partners)
    rw [← hd] at hfind
    rw [← hd']
    exact Adjustments.standard_fair.find?_partnerScores_le hfeatures hscore hbound hscores hscores' hfind
  case risk => exact Profile.assessRisk_score_le hyears hrevenue hcredit

/-- An applicant who reports a revenue of `10 ^ -27`, and years that are not a number. -/
def barelyEarning : Profile :=
  { Profile.empty with
    years? := some .nan
    revenue? := Amount.ofDecimal? ⟨false, 1, 27, by decide, by decide⟩ }

def established : Profile :=
  { Profile.empty with
    years? := some (.ofNat 4)
    revenue? := some (.ofNat 60000000)
    credit? := some 780 }

def enormous : Request := ⟨.ofNat (2 ^ 96 - 1), .termLoan, none, none⟩

def modest : Request := ⟨.ofNat 100000, .termLoan, none, none⟩

def lenders : List PartnerSummary := [⟨"steady", .bank⟩, ⟨"steady", .conservativeNbfc⟩, ⟨"open", .fintech⟩]

theorem scores_le_of_stronger_enormous_modest :
    barelyEarning.years ≤ established.years ∧ barelyEarning.revenue ≤ established.revenue ∧
      barelyEarning.credit ≤ established.credit ∧ modest.amount ≤ enormous.amount ∧
      enormous.amount.ratio? barelyEarning.revenue = none ∧
      (standard.assess barelyEarning enormous lenders).score
        ≤ (standard.assess established modest lenders).score ∧
      (∃ score, (standard.assess established modest lenders).partnerScores.find? "steady"
        = some score ∧ 23 ≤ score) ∧
      (barelyEarning.assessRisk (standard.assess barelyEarning enormous [])).score
        ≤ (established.assessRisk (standard.assess established modest [])).score := by
  have hyears : barelyEarning.years ≤ established.years := by decide +kernel
  have hrevenue : barelyEarning.revenue ≤ established.revenue := by decide
  have hcredit : barelyEarning.credit ≤ established.credit := by decide
  have hamount : modest.amount ≤ enormous.amount := by decide
  have hsteady : (standard.assess barelyEarning enormous lenders).partnerScores.find? "steady"
      = some 23 := by decide +kernel
  obtain ⟨-, -, hscore, -, hpartner, hrisk⟩ := scores_le_of_stronger hyears hrevenue hcredit hamount
  exact ⟨hyears, hrevenue, hcredit, hamount, by decide, hscore _, hpartner _ _ _ hsteady, hrisk _ _⟩

end Scorer
end Lending
