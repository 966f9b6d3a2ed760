import Mathlib.Algebra.Order.BigOperators.Group.List
import Lending.Proofs.Decimal.Order
import Lending.Proofs.Scoring.Scale
import Lending.Scoring.Features

/-!
# Better features score no lower

All four scales are descending, so the overall score follows the order of the features. The ratio of the
requested amount to the revenue is the one figure that may be missing: it counts as the worst, and a
larger revenue or a smaller request never makes it disappear. No dimension gives more points than its weight,
and the weights make up a hundred, so the score is the sum of the points.
-/

namespace Lending

namespace Scoring

theorem ageScale_descending : ageScale.Descending := ⟨by decide, by decide⟩

theorem revenueScale_descending : revenueScale.Descending := ⟨by decide, by decide⟩

theorem creditScale_descending : creditScale.Descending := ⟨by decide, by decide⟩

theorem ratioScale_descending : ratioScale.Descending := ⟨by decide, by decide⟩

theorem dimension_points_le_weight {α : Type} {name : String} {scale : Scale α} {position : Nat}
    {description : String} (h : scale.Descending) :
    (dimension name scale position description).points
      ≤ (dimension name scale position description).weight :=
  h.pointsAt_le_weight position

theorem ratioPosition_le_bottom (ratio? : Option Decimal) : ratioPosition ratio? ≤ ratioScale.bottom := by
  cases ratio? with
  | none => exact Nat.le_refl _
  | some ratio => exact ratioScale.position_le_bottom ratio

theorem ratioPosition_le {ratio? better? : Option Decimal}
    (h : ∀ ratio, ratio? = some ratio → ∃ better, better? = some better ∧ better ≤ ratio) :
    ratioPosition better? ≤ ratioPosition ratio? := by
  cases ratio? with
  | none =>
      exact ratioPosition_le_bottom better?
  | some ratio =>
      obtain ⟨better, rfl, hle⟩ := h ratio rfl
      exact Scale.position_le_of_meets fun threshold hmeets =>
        decide_eq_true (Decimal.le_trans hle (of_decide_eq_true hmeets))

end Scoring

namespace Features

open Scoring

variable {f g : Features}

/-- No figure of `f` is better than that of `g`. -/
structure NoBetter (f g : Features) : Prop where
  years : f.years ≤ g.years
  revenue : f.revenue ≤ g.revenue
  credit : f.credit ≤ g.credit
  ratio : ∀ ratio, f.ratio? = some ratio → ∃ better, g.ratio? = some better ∧ better ≤ ratio

theorem NoBetter.ofRequest {p q : Profile} {r s : Request} (hyears : p.years ≤ q.years)
    (hrevenue : p.revenue ≤ q.revenue) (hcredit : p.credit ≤ q.credit) (hamount : s.amount ≤ r.amount) :
    NoBetter (ofRequest p r) (ofRequest q s) where
  years := hyears
  revenue := hrevenue
  credit := hcredit
  ratio _ hratio := Amount.ratio?_mono hamount hrevenue hratio

theorem score_eq (f : Features) :
    f.score = min (ageScale.points f.years + revenueScale.points f.revenue + creditScale.points f.credit
      + ratioScale.pointsAt (ratioPosition f.ratio?)) 100 := by
  simp only [score, dimensions, dimension, List.foldl_cons, List.foldl_nil, Scale.points, Nat.zero_add]

theorem score_le (f : Features) : f.score ≤ 100 := Nat.min_le_right _ _

/-! ### The cap -/

theorem points_le_weight {d : Dimension} (h : d ∈ f.dimensions) : d.points ≤ d.weight := by
  simp only [dimensions, List.mem_cons, List.not_mem_nil, or_false] at h
  rcases h with rfl | rfl | rfl | rfl
  · exact dimension_points_le_weight ageScale_descending
  · exact dimension_points_le_weight revenueScale_descending
  · exact dimension_points_le_weight creditScale_descending
  · exact dimension_points_le_weight ratioScale_descending

theorem sum_weight (f : Features) : (f.dimensions.map Dimension.weight).sum = 100 := rfl

/-- The weights make up a hundred, so the cap has nothing to cut off. -/
theorem score_eq_sum (f : Features) : f.score = (f.dimensions.map Dimension.points).sum := by
  have hle : (f.dimensions.map Dimension.points).sum ≤ 100 :=
    (List.sum_le_sum fun d hd => points_le_weight hd).trans_eq f.sum_weight
  rw [score, ← List.foldl_map, ← List.sum_eq_foldl]
  exact Nat.min_eq_left hle

theorem score_eq_add (f : Features) :
    f.score = ageScale.points f.years + revenueScale.points f.revenue + creditScale.points f.credit
      + ratioScale.pointsAt (ratioPosition f.ratio?) := by
  rw [score_eq_sum]
  simp only [dimensions, dimension, List.map_cons, List.map_nil, List.sum_cons, List.sum_nil, Scale.points]
  omega

/-! ### Order -/

theorem NoBetter.score_le_score (h : NoBetter f g) : f.score ≤ g.score := by
  have hage := ageScale_descending.points_le_of_le Binary64.le_trans (fun _ _ => rfl) h.years
  have hrevenue := revenueScale_descending.points_le_of_le Amount.le_trans (fun _ _ => rfl) h.revenue
  have hcredit := creditScale_descending.points_le_of_le Nat.le_trans (fun _ _ => rfl) h.credit
  have hratio := ratioScale_descending.pointsAt_le (ratioPosition_le h.ratio)
  rw [score_eq, score_eq]
  omega

end Features
end Lending
