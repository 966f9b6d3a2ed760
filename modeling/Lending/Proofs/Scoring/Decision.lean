import Lending.Proofs.Scoring.Strength

/-!
# Decisions keep what they promise

Whether rules decide or a model, a decision is sound: score and risk make up a hundred, no score and no
confidence is more, and the partners are scored one by one, each as the type it has at its last place on the
list. Where rules decide, the score is the sum of the points.
-/

namespace Lending

/-- What a decision promises to those who read it. -/
structure Decision.Sound (d : Decision) (table : Adjustments) (f : Features)
    (partners : List PartnerSummary) : Prop where
  score_add_risk : d.score + d.risk = 100
  confidence_le : d.confidence ≤ 100
  partnerScore_le : ∀ entry ∈ d.partnerScores.entries, entry.2 ≤ 100
  scored : ∀ id, id ∈ d.partnerScores.names ↔ ∃ partner ∈ partners, partner.id = id
  adjusted : ∀ before partner after, partners = before ++ partner :: after →
    (∀ later ∈ after, later.id ≠ partner.id) →
    ∃ score, d.partnerScores.find? partner.id = some score ∧
      table.apply partner.type f d.score = .ok score ∧
      (score : Int) = max 0 (min (d.score + table.points partner.type f) 100)

/-! ### Who is scored -/

namespace Adjustments

variable {table : Adjustments} {partners : List PartnerSummary} {f : Features} {base : Nat}
  {scores : Catalog Nat} {profile : Profile} {request : Request} {d : Decision}

theorem mem_names_partnerScores (h : table.partnerScores partners f base = .ok scores) (id : PartnerId) :
    id ∈ scores.names ↔ ∃ partner ∈ partners, partner.id = id := by
  have hfind := find?_partnerScores h id
  rw [Catalog.mem_names_iff]
  constructor
  · rintro ⟨score, hscore⟩
    obtain ⟨partner, hpartner, -⟩ := (find?_partnerScores_eq_some_iff h).1 hscore
    have hid := List.find?_some hpartner
    exact ⟨partner, List.mem_reverse.1 (List.mem_of_find?_eq_some hpartner), (of_decide_eq_true hid).symm⟩
  · rintro ⟨partner, hmem, rfl⟩
    cases hfound : partners.reverse.find? fun other => partner.id = other.id with
    | some last =>
        rw [hfound, Option.map_some, Option.map_eq_some_iff] at hfind
        obtain ⟨score, hscore, -⟩ := hfind
        exact ⟨score, hscore⟩
    | none =>
        have hnone := List.find?_eq_none.1 hfound partner (List.mem_reverse.2 hmem)
        exact absurd (decide_eq_true rfl) hnone

theorem partnerScores_le (h : table.partnerScores partners f base = .ok scores) :
    ∀ entry ∈ scores.entries, entry.2 ≤ 100 := by
  intro entry hmem
  have hfind := (Catalog.find?_eq_some_iff _ entry.1 entry.2).2 hmem
  obtain ⟨partner, -, hscore⟩ := (find?_partnerScores_eq_some_iff h).1 hfind
  exact apply_le hscore

/-- The last place on the list counts. -/
theorem find?_partnerScores_of_last {partner : PartnerSummary} {before after : List PartnerSummary}
    (h : table.partnerScores (before ++ partner :: after) f base = .ok scores)
    (hlast : ∀ later ∈ after, later.id ≠ partner.id) :
    ∃ score, scores.find? partner.id = some score ∧ table.apply partner.type f base = .ok score := by
  have hafter : (after.reverse.find? fun other => partner.id = other.id) = none := by
    refine List.find?_eq_none.2 fun later hlater => ?_
    rw [decide_eq_true_iff]
    exact (hlast later (List.mem_reverse.1 hlater)).symm
  have hfound : (before ++ partner :: after).reverse.find? (fun other => partner.id = other.id) =
      some partner := by
    rw [List.reverse_append, List.reverse_cons, List.append_assoc, List.find?_append, hafter, Option.none_or]
    simp
  have hfind := find?_partnerScores h partner.id
  rw [hfound, Option.map_some, Option.map_eq_some_iff] at hfind
  obtain ⟨score, hscore, happly⟩ := hfind
  exact ⟨score, hscore, happly.symm⟩

/-! ### Rules and models -/

/-- The table may come to this decision: by its rules, or on some answer of a model that they stand behind. -/
def Decides (table : Adjustments) (profile : Profile) (request : Request) (partners : List PartnerSummary)
    (d : Decision) : Prop :=
  table.decide profile request partners = .ok d ∨
    ∃ answer, table.decideWith profile request partners answer = .ok d

theorem partnerScores_of_decide (h : table.decide profile request partners = .ok d) :
    table.partnerScores partners (.ofRequest profile request) d.score = .ok d.partnerScores := by
  have hscore := score_of_decide h
  obtain ⟨scores, hscores, rfl⟩ := decide_eq_ok_iff.1 h
  rwa [hscore]

theorem decideWith_eq_ok_iff {prediction : Prediction} (h : prediction.IsValid) :
    table.decideWith profile request partners (.ok prediction) = .ok d ↔
      ∃ scores, table.partnerScores partners (.ofRequest profile request) prediction.score = .ok scores ∧
        .make prediction.score profile.reportedCredit? scores (Features.ofRequest profile request).factors
          prediction.confidence .model = d := by
  rw [decideWith, if_pos h]
  exact map_eq_ok_iff

theorem Decides.partnerScores_eq (h : table.Decides profile request partners d) :
    table.partnerScores partners (.ofRequest profile request) d.score = .ok d.partnerScores := by
  rcases h with h | ⟨fault | prediction, h⟩
  · exact partnerScores_of_decide h
  · exact partnerScores_of_decide h
  · by_cases hvalid : prediction.IsValid
    · obtain ⟨scores, hscores, rfl⟩ := (decideWith_eq_ok_iff hvalid).1 h
      have hscore : (Decision.make prediction.score profile.reportedCredit? scores
          (Features.ofRequest profile request).factors prediction.confidence .model).score = prediction.score :=
        Nat.min_eq_left hvalid.1
      rwa [hscore]
    · rw [decideWith, if_neg hvalid] at h
      exact partnerScores_of_decide h

/-- Every decision by a table is sound, if there is one. -/
theorem Decides.sound (h : table.Decides profile request partners d) :
    d.Sound table (.ofRequest profile request) partners := by
  have hscores := h.partnerScores_eq
  constructor
  · exact Nat.add_sub_of_le d.score_le
  · exact d.confidence_le
  · exact partnerScores_le hscores
  · exact mem_names_partnerScores hscores
  · intro before partner after hpartners hlast
    rw [hpartners] at hscores
    obtain ⟨score, hfind, happly⟩ := find?_partnerScores_of_last hscores hlast
    exact ⟨score, hfind, happly, (apply_eq_ok_iff.1 happly).2⟩

end Adjustments

namespace Scorer

theorem decides_model (predict : Features → Except ModelFault Prediction) {table : Adjustments}
    (htable : table.Total) (profile : Profile) (request : Request) (partners : List PartnerSummary) :
    table.decideWith profile request partners (predict (.ofRequest profile request)) =
      .ok ((model predict table htable).assess profile request partners) :=
  Overflow.ok_never _

/-- Under the standard table every decision is sound, by the rules and by whatever model, and the score that
the rules give is the sum of the points. -/
theorem standard_decisions_sound (profile : Profile) (request : Request) (partners : List PartnerSummary) :
    (standard.assess profile request partners).Sound .standard (.ofRequest profile request) partners ∧
    (∀ predict, ((model predict .standard Adjustments.standard_total).assess profile request partners).Sound
      .standard (.ofRequest profile request) partners) ∧
    (standard.assess profile request partners).score =
      ((Features.ofRequest profile request).dimensions.map Dimension.points).sum := by
  refine ⟨?rules, fun predict => ?model, ?sum⟩
  case rules =>
    exact Adjustments.Decides.sound (Or.inl (decide_standard profile request partners))
  case model =>
    exact Adjustments.Decides.sound (Or.inr ⟨_, decides_model predict _ profile request partners⟩)
  case sum => rw [standard_score, Features.score_eq_sum]

end Scorer
end Lending
