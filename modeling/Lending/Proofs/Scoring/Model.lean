import Lending.Proofs.Scoring.Decision

/-!
# Models, and the rules behind them

A scorer with a model asks it once, about the features of the request. A valid prediction takes the place of
the score and of the confidence, and what else is in the decision is made as the rules make it. After any
other answer nothing of the model is left: the decision is that of the rules.
-/

namespace Lending

variable {σ : Type}

/-- A model may have a state, on which its answers depend and which a question may change. -/
abbrev Model (σ : Type) : Type := Features → StateM σ (Except ModelFault Prediction)

namespace Model

def answer (model : Model σ) (s : σ) (f : Features) : Except ModelFault Prediction := (model f s).1

def next (model : Model σ) (s : σ) (f : Features) : σ := (model f s).2

/-- The model with a list of what it was asked about. -/
def recorded (model : Model σ) (f : Features) :
    StateT (List Features) (StateM σ) (Except ModelFault Prediction) := do
  modify fun asked => asked ++ [f]
  model f

end Model

/-! ### Decisions on an answer -/

/-- The decision takes score and confidence from a prediction, and everything else from the rules. -/
structure Decision.IsPredicted (d : Decision) (table : Adjustments) (profile : Profile) (request : Request)
    (partners : List PartnerSummary) (prediction : Prediction) : Prop where
  score : d.score = prediction.score
  confidence : d.confidence = prediction.confidence
  source : d.source = .model
  credit? : d.credit? = profile.reportedCredit?
  factors : d.factors = (Features.ofRequest profile request).factors
  rules : ∀ decided, table.decide profile request partners = .ok decided →
    d.credit? = decided.credit? ∧ d.factors = decided.factors
  partnerScores : ∀ id, (d.partnerScores.find? id).map Except.ok =
    (partners.reverse.find? fun partner => id = partner.id).map
      fun partner => table.apply partner.type (.ofRequest profile request) prediction.score

namespace Adjustments

variable {table : Adjustments} {profile : Profile} {request : Request} {partners : List PartnerSummary}
  {prediction : Prediction} {d : Decision}

theorem decideWith_of_not_isValid (h : ¬ prediction.IsValid) :
    table.decideWith profile request partners (.ok prediction) =
      table.decide profile request partners := by
  simp [decideWith, h]

theorem exists_decideWith_iff (h : prediction.IsValid) :
    (∃ d, table.decideWith profile request partners (.ok prediction) = .ok d) ↔
      ∀ partner ∈ partners, ∃ score, table.apply partner.type (.ofRequest profile request)
        prediction.score = .ok score := by
  rw [decideWith, if_pos h]
  exact exists_map_eq_ok_iff.trans exists_partnerScores_iff

theorem isPredicted_of_decideWith (h : prediction.IsValid)
    (hd : table.decideWith profile request partners (.ok prediction) = .ok d) :
    d.IsPredicted table profile request partners prediction := by
  obtain ⟨scores, hscores, rfl⟩ := (decideWith_eq_ok_iff h).1 hd
  obtain ⟨hscore, hconfidence⟩ := h
  constructor
  case score => exact Nat.min_eq_left hscore
  case confidence => exact Nat.min_eq_left hconfidence
  case source => rfl
  case credit? => rfl
  case factors => simp only [Decision.make]
  case rules =>
    intro decided hdecided
    obtain ⟨_, -, rfl⟩ := decide_eq_ok_iff.1 hdecided
    simp only [Decision.make, and_self]
  case partnerScores => exact find?_partnerScores hscores

/-- The model is asked about the features of the request, and about nothing else. -/
theorem consult_recorded (table : Adjustments) (model : Model σ) (profile : Profile) (request : Request)
    (partners : List PartnerSummary) (asked : List Features) (s : σ) :
    let f := Features.ofRequest profile request
    table.consult model.recorded profile request partners asked s =
      ((table.decideWith profile request partners (model.answer s f), asked ++ [f]), model.next s f) :=
  rfl

end Adjustments

namespace Scorer

/-- **A model is asked once, and the rules stand behind it.** Whatever table the rules have, whatever the
model is and in whatever state, a decision takes one question to the model, about the features of the
request. Where the model fails, or its score or confidence is above a hundred, the decision is that of the
rules, and there is none where the rules come to none. Otherwise there is a decision unless the score of a partner
overflows; score and confidence are the model's, the partners are scored by the table from the score of the model,
and credit score and factors are those of the rules. A scorer with a table that cannot overflow decides so. -/
theorem decided_by_model_or_rules (table : Adjustments) (model : Model σ) (s : σ) (asked : List Features)
    (profile : Profile) (request : Request) (partners : List PartnerSummary) :
    let f := Features.ofRequest profile request
    let rules := table.decide profile request partners
    let decision := table.decideWith profile request partners (model.answer s f)
    table.consult model.recorded profile request partners asked s =
      ((decision, asked ++ [f]), model.next s f) ∧
    (∀ fault, model.answer s f = .error fault → decision = rules) ∧
    (∀ prediction, model.answer s f = .ok prediction →
      (100 < prediction.score ∨ 100 < prediction.confidence → decision = rules) ∧
      (prediction.score ≤ 100 → prediction.confidence ≤ 100 →
        ((∃ d, decision = .ok d) ↔
          ∀ partner ∈ partners, ∃ score, table.apply partner.type f prediction.score = .ok score) ∧
        ∀ d, decision = .ok d → d.IsPredicted table profile request partners prediction)) ∧
    ∀ htable : table.Total,
      rules = .ok ((Scorer.rules table htable).assess profile request partners) ∧
      decision = .ok ((Scorer.model (model.answer s) table htable).assess profile request partners) := by
  intro f rules decision
  refine ⟨table.consult_recorded model profile request partners asked s, ?failed, ?answered, ?scorers⟩
  case failed =>
    intro fault hfault
    show table.decideWith profile request partners (model.answer s f) = _
    rw [hfault]
    rfl
  case answered =>
    intro prediction hprediction
    have hdecision : decision = table.decideWith profile request partners (.ok prediction) := by
      rw [← hprediction]
    rw [hdecision]
    constructor
    · intro hexcess
      apply Adjustments.decideWith_of_not_isValid
      rintro ⟨hscore, hconfidence⟩
      omega
    · intro hscore hconfidence
      have hvalid : prediction.IsValid := ⟨hscore, hconfidence⟩
      exact ⟨Adjustments.exists_decideWith_iff hvalid, fun d => Adjustments.isPredicted_of_decideWith hvalid⟩
  case scorers =>
    intro htable
    exact ⟨Overflow.ok_never _, decides_model (model.answer s) htable profile request partners⟩

end Scorer
end Lending
