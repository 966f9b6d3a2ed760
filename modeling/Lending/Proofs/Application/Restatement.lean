import Lending.Decision.Risk
import Lending.Partner.Policy

/-!
# What counts of a profile

A figure that makes no sense counts as one that is missing: leaving it out changes no answer of anybody who
looks at profiles, be it the rules of scoring, the assessment of risk or a partner with a policy. Nor does
anything else in a profile but the three figures. A figure that does make sense, in contrast, is missed when
it is left out, and be it only in the confidence.

All of them see a profile through its reported figures, so it is enough that these are the same.
-/

namespace Lending

/-! ### Figures that make no sense -/

/-- Years that no business has: not a number, an infinite one, or one below zero. -/
def SenselessYears (years : Binary64) : Prop :=
  years.IsNaN ∨ (∃ negative, years = .infinite negative) ∨ years < .zero

/-- A credit score that no bureau gives. -/
def SenselessCredit (score : Nat) : Prop := score < 300 ∨ 900 < score

theorem senselessYears_iff {years : Binary64} :
    SenselessYears years ↔ ¬ (years.IsFinite ∧ Binary64.zero ≤ years) := by
  constructor
  · rintro (hnan | ⟨negative, rfl⟩ | hlt) ⟨hfinite, hle⟩
    · exact hfinite.not_isNaN hnan
    · exact Nat.lt_irrefl _ hfinite
    · exact Binary64.not_lt_of_le hle hlt
  · intro h
    by_cases hnan : years.IsNaN
    · exact Or.inl hnan
    · by_cases hfinite : years.IsFinite
      · refine Or.inr (Or.inr (Decidable.byContradiction fun hnot => h ⟨hfinite, ?_⟩))
        exact Binary64.le_of_not_lt (by decide) hnan hnot
      · refine Or.inr (Or.inl ⟨years.negative, ?_⟩)
        have hmagnitude : years.magnitude = Binary64.infiniteMagnitude :=
          Nat.le_antisymm (Nat.not_lt.1 hnan) (Nat.not_lt.1 hfinite)
        cases years
        simp_all [Binary64.infinite]

theorem senselessCredit_iff {score : Nat} : SenselessCredit score ↔ ¬ (300 ≤ score ∧ score ≤ 900) := by
  rw [SenselessCredit]
  omega

section Figures

variable {α : Type} {Senseless : α → Prop} {before after : Option α} {keep : α → Bool}

/-- The second figure is the first one, unless that makes no sense and is left out. -/
inductive Keeps (Senseless : α → Prop) : Option α → Option α → Prop where
  | same (figure? : Option α) : Keeps Senseless figure? figure?
  | leavesOut {figure : α} (h : Senseless figure) : Keeps Senseless (some figure) none

theorem Keeps.eq_or_eq_none (h : Keeps Senseless before after) : after = before ∨ after = none := by
  cases h with
  | same => exact Or.inl rfl
  | leavesOut => exact Or.inr rfl

theorem Keeps.filter_eq (h : Keeps Senseless before after)
    (hkeep : ∀ figure, Senseless figure → keep figure = false) : after.filter keep = before.filter keep := by
  cases h with
  | same => rfl
  | leavesOut hfigure =>
      rw [Option.filter_some, hkeep _ hfigure]
      rfl

theorem isNone_le (h : after = before ∨ after = none) : before.isNone.toNat ≤ after.isNone.toNat := by
  rcases h with rfl | rfl
  · exact Nat.le_refl _
  · exact Bool.toNat_le _

theorem eq_of_isNone_eq (h : after = before ∨ after = none)
    (heq : before.isNone.toNat = after.isNone.toNat) : after = before := by
  rcases h with rfl | rfl
  · rfl
  · cases before with
    | none => rfl
    | some figure => exact absurd heq Nat.zero_ne_one

theorem isNone_filter_le (h : after = before ∨ after = none) (keep : α → Bool) :
    (before.filter keep).isNone.toNat ≤ (after.filter keep).isNone.toNat :=
  isNone_le (h.imp (congrArg _) (congrArg _))

theorem Keeps.filter (hsense : ∀ figure, keep figure = false → Senseless figure) (figure? : Option α) :
    Keeps Senseless figure? (figure?.filter keep) := by
  cases figure? with
  | none => exact .same none
  | some figure =>
      rw [Option.filter_some]
      split
      case isTrue => exact .same _
      case isFalse hkeep => exact .leavesOut (hsense figure (Bool.eq_false_iff.2 hkeep))

/-- Where a figure was left out and is not missed, it made no sense. -/
theorem Keeps.of_isNone_filter_eq (h : after = before ∨ after = none)
    (hsense : ∀ figure, keep figure = false → Senseless figure)
    (heq : (before.filter keep).isNone.toNat = (after.filter keep).isNone.toNat) :
    Keeps Senseless before after := by
  rcases h with rfl | rfl
  · exact .same _
  · have hnone : none = before.filter keep := eq_of_isNone_eq (.inr rfl) heq
    rw [hnone]
    exact .filter hsense before

end Figures

namespace Profile

variable {p q : Profile}

/-- The second profile says what the first one does, except that it may leave out figures that make no sense.
Name, industry and contacts may be any. -/
structure Restates (p q : Profile) : Prop where
  years : Keeps SenselessYears p.years? q.years?
  revenue : q.revenue? = p.revenue?
  credit : Keeps SenselessCredit p.credit? q.credit?

/-- Both profiles get the same answers: decisions by the rules, whatever their table, assessments of risk, and
answers of partners by policy. -/
structure AnsweredAlike (p q : Profile) : Prop where
  decision : ∀ table request partners,
    Adjustments.decide table q request partners = Adjustments.decide table p request partners
  risk : ∀ decision, q.assessRisk decision = p.assessRisk decision
  eligibility : ∀ policy : Policy, policy.check q = policy.check p

/-- The profile without the figures that make no sense. -/
def cleared (p : Profile) : Profile :=
  { p with years? := p.reportedYears?, credit? := p.reportedCredit? }

theorem senselessYears_of_not_reported (years : Binary64)
    (h : decide (years.IsFinite ∧ Binary64.zero ≤ years) = false) : SenselessYears years :=
  senselessYears_iff.2 (of_decide_eq_false h)

theorem senselessCredit_of_not_reported (score : Nat)
    (h : decide (300 ≤ score ∧ score ≤ 900) = false) : SenselessCredit score :=
  senselessCredit_iff.2 (of_decide_eq_false h)

theorem restates_cleared (p : Profile) : p.Restates p.cleared where
  years := .filter senselessYears_of_not_reported p.years?
  revenue := rfl
  credit := .filter senselessCredit_of_not_reported p.credit?

example : ({ empty with years? := some (.infinite true), credit? := some 901 } : Profile).cleared = empty := by
  decide

/-! ### Reported figures -/

/-- The figures that make sense are the same in both profiles. -/
structure SameFigures (p q : Profile) : Prop where
  years : q.reportedYears? = p.reportedYears?
  revenue : q.revenue? = p.revenue?
  credit : q.reportedCredit? = p.reportedCredit?

theorem Restates.sameFigures (h : p.Restates q) : p.SameFigures q where
  years := h.years.filter_eq fun _ hyears => decide_eq_false (senselessYears_iff.1 hyears)
  revenue := h.revenue
  credit := h.credit.filter_eq fun _ hscore => decide_eq_false (senselessCredit_iff.1 hscore)

namespace SameFigures

theorem years_eq (h : p.SameFigures q) : q.years = p.years := by rw [Profile.years, Profile.years, h.years]

theorem revenue_eq (h : p.SameFigures q) : q.revenue = p.revenue := by
  rw [Profile.revenue, Profile.revenue, h.revenue]

theorem credit_eq (h : p.SameFigures q) : q.credit = p.credit := by
  rw [Profile.credit, Profile.credit, h.credit]

theorem defaultedFields_eq (h : p.SameFigures q) : q.defaultedFields = p.defaultedFields := by
  rw [defaultedFields, defaultedFields, h.years, h.revenue, h.credit]

theorem ofRequest_eq (h : p.SameFigures q) (request : Request) :
    Features.ofRequest q request = Features.ofRequest p request := by
  simp only [Features.ofRequest, h.years_eq, h.revenue_eq, h.credit_eq, h.defaultedFields_eq]

theorem answeredAlike (h : p.SameFigures q) : p.AnsweredAlike q where
  decision table request partners := by
    simp only [Adjustments.decide, h.ofRequest_eq, h.credit]
  risk decision := by
    simp only [assessRisk, Risk.scores, Risk.recommendations, h.years_eq, h.revenue_eq, h.credit_eq]
  eligibility policy := by
    simp only [Policy.check, h.years_eq, h.revenue_eq, h.credit_eq]

end SameFigures

/-! ### Confidence -/

theorem defaultedFields_le (p : Profile) : p.defaultedFields ≤ 3 := by
  have hle (b : Bool) : b.toNat ≤ 1 := Bool.toNat_le b
  have := hle p.reportedYears?.isNone
  have := hle p.revenue?.isNone
  have := hle p.reportedCredit?.isNone
  rw [defaultedFields]
  omega

theorem exists_decide_empty (p : Profile) (request : Request) :
    ∃ d, Adjustments.decide .empty p request [] = .ok d ∧ d.confidence = 80 - 15 * p.defaultedFields := by
  have hle := p.defaultedFields_le
  refine ⟨_, rfl, ?_⟩
  show min (max (80 - min (15 * p.defaultedFields) 255) 20) 100 = _
  omega

theorem defaultedFields_eq_of_decide_eq {request : Request}
    (h : Adjustments.decide .empty q request [] = Adjustments.decide .empty p request []) :
    q.defaultedFields = p.defaultedFields := by
  obtain ⟨d, hd, hconfidence⟩ := p.exists_decide_empty request
  obtain ⟨d', hd', hconfidence'⟩ := q.exists_decide_empty request
  have heq : d' = d := Except.ok.inj (hd'.symm.trans (h.trans hd))
  rw [heq, hconfidence] at hconfidence'
  have := p.defaultedFields_le
  have := q.defaultedFields_le
  omega

/-! ### Leaving figures out -/

/-- Each of the three figures is the same in the second profile, or is left out there. -/
structure Omits (p q : Profile) : Prop where
  years : q.years? = p.years? ∨ q.years? = none
  revenue : q.revenue? = p.revenue? ∨ q.revenue? = none
  credit : q.credit? = p.credit? ∨ q.credit? = none

/-- What makes sense is missed when it is left out, since one more default is counted. -/
theorem Omits.restates (h : p.Omits q) (hcount : q.defaultedFields = p.defaultedFields) : p.Restates q := by
  have hyears : p.reportedYears?.isNone.toNat ≤ q.reportedYears?.isNone.toNat := isNone_filter_le h.years _
  have hrevenue : p.revenue?.isNone.toNat ≤ q.revenue?.isNone.toNat := isNone_le h.revenue
  have hcredit : p.reportedCredit?.isNone.toNat ≤ q.reportedCredit?.isNone.toNat :=
    isNone_filter_le h.credit _
  rw [defaultedFields, defaultedFields] at hcount
  constructor
  case years =>
    have heq : p.reportedYears?.isNone.toNat = q.reportedYears?.isNone.toNat := by omega
    exact .of_isNone_filter_eq h.years senselessYears_of_not_reported heq
  case revenue =>
    have heq : p.revenue?.isNone.toNat = q.revenue?.isNone.toNat := by omega
    exact eq_of_isNone_eq h.revenue heq
  case credit =>
    have heq : p.reportedCredit?.isNone.toNat = q.reportedCredit?.isNone.toNat := by omega
    exact .of_isNone_filter_eq h.credit senselessCredit_of_not_reported heq

theorem Restates.omits (h : p.Restates q) : p.Omits q where
  years := h.years.eq_or_eq_none
  revenue := Or.inl h.revenue
  credit := h.credit.eq_or_eq_none

/-- Figures can be left out of a profile without changing an answer exactly if they make no sense. -/
theorem restates_iff_answeredAlike : p.Restates q ↔ p.Omits q ∧ p.AnsweredAlike q := by
  constructor
  · intro h
    exact ⟨h.omits, h.sameFigures.answeredAlike⟩
  · rintro ⟨homits, halike⟩
    let request : Request := ⟨.ofNat 1, default, none, none⟩
    exact homits.restates (defaultedFields_eq_of_decide_eq (halike.decision .empty request []))

end Profile
end Lending
