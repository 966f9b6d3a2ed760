import Lending.Decision.Basic
import Lending.Scoring.Adjustment

/-!
# Scorers

A scorer makes the decision on a request. A model may fail, or answer what is no score; rules then decide in
its place, and they explain its decisions in any case. Rules come to no decision where the score of a partner
overflows. Scorers always decide, so their rules are those of a table that cannot overflow.
-/

namespace Lending

/-- A partner as a scorer sees it. -/
structure PartnerSummary where
  id : PartnerId
  type : PartnerType
deriving DecidableEq

/-- The score of a partner by the rules for its type, under its identifier. -/
def Adjustments.entry (table : Adjustments) (f : Features) (base : Nat) (partner : PartnerSummary) :
    Except Overflow (PartnerId × Nat) :=
  (table.apply partner.type f base).map fun score => (partner.id, score)

def Adjustments.partnerScores (table : Adjustments) (partners : List PartnerSummary) (f : Features)
    (base : Nat) : Except Overflow (Catalog Nat) :=
  (partners.mapM (table.entry f base)).map .ofList

def Adjustments.decide (table : Adjustments) (profile : Profile) (request : Request)
    (partners : List PartnerSummary) : Except Overflow Decision :=
  let f := Features.ofRequest profile request
  (table.partnerScores partners f f.score).map fun scores =>
    .make f.score profile.reportedCredit? scores f.factors f.confidence .rules

structure Prediction where
  score : Nat
  confidence : Nat
deriving DecidableEq

/-- Score and confidence are percentages. -/
def Prediction.IsValid (p : Prediction) : Prop := p.score ≤ 100 ∧ p.confidence ≤ 100

instance (p : Prediction) : Decidable p.IsValid := inferInstanceAs (Decidable (_ ∧ _))

inductive ModelFault where
  | unavailable (reason : String)
  | invalidOutput (reason : String)
deriving DecidableEq

/-- The decision on the answer of a model. -/
def Adjustments.decideWith (table : Adjustments) (profile : Profile) (request : Request)
    (partners : List PartnerSummary) : Except ModelFault Prediction → Except Overflow Decision
  | .ok prediction =>
    if prediction.IsValid then
      let f := Features.ofRequest profile request
      (table.partnerScores partners f prediction.score).map fun scores =>
        .make prediction.score profile.reportedCredit? scores f.factors prediction.confidence .model
    else table.decide profile request partners
  | .error _ => table.decide profile request partners

/-- Asks a model and decides on its answer. -/
def Adjustments.consult {m : Type → Type} [Monad m] (table : Adjustments)
    (predict : Features → m (Except ModelFault Prediction)) (profile : Profile) (request : Request)
    (partners : List PartnerSummary) : m (Except Overflow Decision) := do
  let answer ← predict (Features.ofRequest profile request)
  return table.decideWith profile request partners answer

/-! ### Tables that cannot overflow -/

theorem exists_mapM {α β ε : Type} {f : α → Except ε β} {items : List α}
    (h : ∀ a ∈ items, ∃ b, f a = .ok b) : ∃ results, items.mapM f = .ok results := by
  induction items with
  | nil => exact ⟨[], rfl⟩
  | cons a items ih =>
      obtain ⟨b, hb⟩ := h a List.mem_cons_self
      obtain ⟨results, hresults⟩ := ih fun a ha => h a (List.mem_cons_of_mem _ ha)
      refine ⟨b :: results, ?_⟩
      rw [List.mapM_cons, hb, hresults]
      rfl

namespace Adjustments

variable {table : Adjustments}

theorem exists_partnerScores (partners : List PartnerSummary) {f : Features} {base : Nat}
    (h : ∀ partner ∈ partners, ∃ score, table.apply partner.type f base = .ok score) :
    ∃ scores, table.partnerScores partners f base = .ok scores := by
  have hentry : ∀ partner ∈ partners, ∃ entry, table.entry f base partner = .ok entry := by
    intro partner hpartner
    obtain ⟨score, hscore⟩ := h partner hpartner
    exact ⟨_, congrArg (Except.map _) hscore⟩
  obtain ⟨entries, hentries⟩ := exists_mapM hentry
  exact ⟨_, congrArg (Except.map _) hentries⟩

theorem Total.exists_decide (h : table.Total) (profile : Profile) (request : Request)
    (partners : List PartnerSummary) : ∃ d, table.decide profile request partners = .ok d := by
  obtain ⟨scores, hscores⟩ := exists_partnerScores partners fun partner _ =>
    h partner.type (.ofRequest profile request) _ (Nat.min_le_right _ 100)
  exact ⟨_, congrArg (Except.map _) hscores⟩

theorem Total.exists_decideWith (h : table.Total) (profile : Profile) (request : Request)
    (partners : List PartnerSummary) (answer : Except ModelFault Prediction) :
    ∃ d, table.decideWith profile request partners answer = .ok d := by
  cases answer with
  | error fault => exact h.exists_decide profile request partners
  | ok prediction =>
      rw [decideWith]
      split
      · rename_i hvalid
        obtain ⟨scores, hscores⟩ := exists_partnerScores partners fun partner _ =>
          h partner.type (.ofRequest profile request) prediction.score hvalid.1
        exact ⟨_, congrArg (Except.map _) hscores⟩
      · exact h.exists_decide profile request partners

end Adjustments

/-- The value of a computation that does not overflow. -/
def Overflow.never {α : Type} : (outcome : Except Overflow α) → (∃ value, outcome = .ok value) → α
  | .ok value, _ => value
  | .error _, h => (h.elim nofun : False).elim

theorem Overflow.ok_never {α : Type} {outcome : Except Overflow α} (h : ∃ value, outcome = .ok value) :
    outcome = .ok (never outcome h) := by
  obtain ⟨value, rfl⟩ := h
  rfl

/-- A way of deciding, under a name. It always comes to a decision. -/
structure Scorer where
  name : String
  assess : Profile → Request → List PartnerSummary → Decision

namespace Scorer

def rules (table : Adjustments) (h : table.Total) : Scorer where
  name := Vocabulary.tag ScoreSource.rules
  assess profile request partners :=
    Overflow.never (table.decide profile request partners) (h.exists_decide profile request partners)

def standard : Scorer := rules .standard Adjustments.standard_total

def model (predict : Features → Except ModelFault Prediction) (table : Adjustments) (h : table.Total) :
    Scorer where
  name := Vocabulary.tag ScoreSource.model
  assess profile request partners :=
    Overflow.never (Id.run (table.consult (fun f => pure (predict f)) profile request partners))
      (h.exists_decideWith profile request partners _)

/-- A scorer that does not see some of the partners. -/
def concealing (scorer : Scorer) (hidden : List PartnerId) : Scorer where
  name := scorer.name
  assess profile request partners :=
    scorer.assess profile request (partners.filter fun partner => !hidden.contains partner.id)

end Scorer
end Lending
