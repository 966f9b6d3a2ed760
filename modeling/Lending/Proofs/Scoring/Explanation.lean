import Lending.Proofs.Scoring.Decision

/-!
# The explanation of a score

The factors of a decision explain its score. Each dimension has points of its own at every position, so the
points say whether there is a factor and which impact it has: the two best values speak for the applicant, the
lowest against. The ratio gets to its lowest value in three ways, and the text of its factor tells them apart.
-/

namespace Lending

open Scoring

/-- What the factors say of the dimension of this name, whose points are one of the values, best first. -/
structure Explains (factors : List Factor) (name : String) (values : List ℕ) (points : ℕ) : Prop where
  mem : points ∈ values
  positive : (∃ factor ∈ factors, factor.name = name ∧ factor.impact = .positive) ↔ points ∈ values.take 2
  negative : (∃ factor ∈ factors, factor.name = name ∧ factor.impact = .negative) ↔
    values.getLast? = some points
  absent : (∀ factor ∈ factors, factor.name ≠ name) ↔
    points ∉ values.take 2 ∧ values.getLast? ≠ some points
  not_neutral : ∀ factor ∈ factors, factor.name = name → factor.impact ≠ .neutral
  weight : ∀ factor ∈ factors, factor.name = name → values.head? = some factor.weight

/-! ### Factors of dimensions -/

namespace Dimension

variable {d : Dimension} {dimensions : List Dimension} {factor : Factor}

theorem factor?_eq_some_iff : d.factor? = some factor ↔
    ∃ impact, d.impact? = some impact ∧ Factor.make d.name impact d.weight d.description = factor :=
  Option.map_eq_some_iff

theorem name_of_factor? (h : d.factor? = some factor) : factor.name = d.name := by
  obtain ⟨impact, -, rfl⟩ := factor?_eq_some_iff.1 h
  rfl

theorem weight_of_factor? (h : d.factor? = some factor) : factor.weight ≤ d.weight := by
  obtain ⟨impact, -, rfl⟩ := factor?_eq_some_iff.1 h
  exact Nat.min_le_left _ _

/-- Factors keep the order of their dimensions, and there is one of each at most. -/
theorem map_name_sublist (dimensions : List Dimension) :
    ((dimensions.filterMap factor?).map Factor.name).Sublist (dimensions.map Dimension.name) := by
  induction dimensions with
  | nil => exact List.Sublist.refl _
  | cons d dimensions ih =>
      cases hfactor : d.factor? with
      | none =>
          rw [List.filterMap_cons_none hfactor, List.map_cons]
          exact ih.cons _
      | some factor =>
          rw [List.filterMap_cons_some hfactor, List.map_cons, List.map_cons, name_of_factor? hfactor]
          exact ih.cons_cons _

theorem sum_weight_le (dimensions : List Dimension) :
    ((dimensions.filterMap factor?).map Factor.weight).sum ≤ (dimensions.map Dimension.weight).sum := by
  induction dimensions with
  | nil => exact Nat.le_refl _
  | cons d dimensions ih =>
      cases hfactor : d.factor? with
      | none =>
          rw [List.filterMap_cons_none hfactor, List.map_cons, List.sum_cons]
          exact ih.trans (Nat.le_add_left _ _)
      | some factor =>
          rw [List.filterMap_cons_some hfactor, List.map_cons, List.map_cons, List.sum_cons, List.sum_cons]
          exact Nat.add_le_add (weight_of_factor? hfactor) ih

/-- Where names are not used twice, the factor under a name is that of its dimension. -/
theorem mem_factors_iff (hnodup : (dimensions.map Dimension.name).Nodup) (hmem : d ∈ dimensions) :
    factor ∈ dimensions.filterMap factor? ∧ factor.name = d.name ↔ d.factor? = some factor := by
  rw [List.mem_filterMap]
  constructor
  · rintro ⟨⟨other, hother, hfactor⟩, hname⟩
    have hsame : other.name = d.name := (name_of_factor? hfactor).symm.trans hname
    rwa [← List.inj_on_of_nodup_map hnodup hother hmem hsame]
  · intro hfactor
    exact ⟨⟨d, hmem, hfactor⟩, name_of_factor? hfactor⟩

end Dimension

/-! ### What the points say -/

namespace Scale

variable {α : Type} {s : Scale α} {i : ℕ}

theorem getLast?_values (s : Scale α) : s.values.getLast? = some s.floor := by
  rw [values, List.getLast?_append, List.getLast?_singleton, Option.some_or]

theorem head?_values (s : Scale α) : s.values.head? = some s.weight := by
  rw [List.head?_eq_getElem?, getElem?_values (Nat.zero_le _)]
  rfl

theorem impactAt_ne_neutral (s : Scale α) (i : ℕ) : s.impactAt i ≠ some .neutral := by
  unfold impactAt
  split
  · decide
  · split <;> decide

namespace Graded

theorem impactAt_eq_positive_iff (h : s.Graded) (hi : i ≤ s.bottom) :
    s.impactAt i = some .positive ↔ s.pointsAt i ∈ s.values.take 2 := by
  rw [h.mem_take_values_iff hi, impactAt]
  split
  · simp_all
  · split <;> simp_all

theorem impactAt_eq_negative_iff (h : s.Graded) (hi : i ≤ s.bottom) :
    s.impactAt i = some .negative ↔ s.values.getLast? = some (s.pointsAt i) := by
  have hsteps := h.steps
  rw [getLast?_values, Option.some_inj, eq_comm (a := s.floor), h.pointsAt_eq_floor_iff hi, impactAt]
  split
  · simp; omega
  · split <;> simp_all

theorem impactAt_eq_none_iff (h : s.Graded) (hi : i ≤ s.bottom) : s.impactAt i = none ↔
    s.pointsAt i ∉ s.values.take 2 ∧ s.values.getLast? ≠ some (s.pointsAt i) := by
  rw [← h.impactAt_eq_positive_iff hi, ne_eq, ← h.impactAt_eq_negative_iff hi]
  have hneutral := s.impactAt_ne_neutral i
  cases himpact : s.impactAt i with
  | none => simp
  | some impact => cases impact <;> simp_all

/-- The factors of dimensions with different names explain each of them. -/
theorem explains (h : s.Graded) {dimensions : List Dimension}
    (hnodup : (dimensions.map Dimension.name).Nodup) (hi : i ≤ s.bottom) {name description : String}
    (hmem : dimension name s i description ∈ dimensions) :
    Explains (dimensions.filterMap Dimension.factor?) name s.values (s.pointsAt i) := by
  have hfactor : ∀ factor, factor ∈ dimensions.filterMap Dimension.factor? ∧ factor.name = name ↔
      ∃ impact, s.impactAt i = some impact ∧ Factor.make name impact s.weight description = factor :=
    fun factor => (Dimension.mem_factors_iff hnodup hmem).trans Dimension.factor?_eq_some_iff
  have himpact : ∀ impact, (∃ factor ∈ dimensions.filterMap Dimension.factor?, factor.name = name ∧
      factor.impact = impact) ↔ s.impactAt i = some impact := by
    intro impact
    constructor
    · rintro ⟨factor, hin, hname, rfl⟩
      obtain ⟨impact, hsome, rfl⟩ := (hfactor factor).1 ⟨hin, hname⟩
      exact hsome
    · intro hsome
      obtain ⟨hin, hname⟩ := (hfactor _).2 ⟨impact, hsome, rfl⟩
      exact ⟨_, hin, hname, rfl⟩
  constructor
  case mem => exact pointsAt_mem_values hi
  case positive => exact (himpact .positive).trans (h.impactAt_eq_positive_iff hi)
  case negative => exact (himpact .negative).trans (h.impactAt_eq_negative_iff hi)
  case absent =>
    rw [← h.impactAt_eq_none_iff hi, Option.eq_none_iff_forall_ne_some]
    constructor
    · intro hnone impact hsome
      obtain ⟨factor, hin, hname, -⟩ := (himpact impact).2 hsome
      exact hnone factor hin hname
    · intro hnone factor hin hname
      exact hnone factor.impact ((himpact factor.impact).1 ⟨factor, hin, hname, rfl⟩)
  case not_neutral =>
    intro factor hin hname hneutral
    exact s.impactAt_ne_neutral i ((himpact .neutral).1 ⟨factor, hin, hname, hneutral⟩)
  case weight =>
    intro factor hin hname
    obtain ⟨impact, -, rfl⟩ := (hfactor factor).1 ⟨hin, hname⟩
    rw [head?_values]
    exact congrArg some (Nat.min_eq_left h.weight_le).symm

end Graded
end Scale

namespace Scoring

theorem ageScale_graded : ageScale.Graded := ⟨by decide, by decide, by decide⟩

theorem revenueScale_graded : revenueScale.Graded := ⟨by decide, by decide, by decide⟩

theorem creditScale_graded : creditScale.Graded := ⟨by decide, by decide, by decide⟩

theorem ratioScale_graded : ratioScale.Graded := ⟨by decide, by decide, by decide⟩

/-! ### Three ways to the lowest value -/

/-- The ratio in percent, where both can be represented. -/
def percentage? (ratio? : Option Decimal) : Option Decimal :=
  ratio?.bind fun ratio => Decimal.mul? ratio (.ofNat 100)

/-- A percentage that is too large is one of a ratio that is beyond every threshold. -/
theorem ratioPosition_of_percentage?_eq_none {ratio? : Option Decimal}
    (hnonneg : ∀ ratio, ratio? = some ratio → ratio.negative = false) (h : percentage? ratio? = none) :
    ratioPosition ratio? = ratioScale.bottom := by
  cases ratio? with
  | none => rfl
  | some ratio =>
      have hlarge : .ofNat 1 ≤ ratio := by
        by_contra hless
        rw [Decimal.le_iff_toRat_le, Decimal.toRat_ofNat (by norm_num), Nat.cast_one, not_le] at hless
        obtain ⟨percent, hpercent, -⟩ := Decimal.exists_percentage (hnonneg ratio rfl) hless.le
        rw [percentage?, Option.bind_some, hpercent] at h
        cases h
      have hthresholds : ∀ tier ∈ ratioScale.tiers, ¬ .ofNat 1 ≤ tier.1 := by decide
      exact List.findIdx_eq_length.2 fun tier htier =>
        decide_eq_false fun hle => hthresholds tier htier (Decimal.le_trans hlarge hle)

theorem ratioText_of_percentage? {f : Features} {percent : Decimal} (h : percentage? f.ratio? = some percent) :
    ratioText f = "requested amount is " ++ (percent.roundTo 1).text ++ "% of annual revenue" := by
  rw [ratioText, ← percentage?, h]

theorem ratioText_of_none {f : Features} (h : percentage? f.ratio? = none) :
    ratioText f = if f.revenue.isZero then "no annual revenue reported to size the request against"
      else "requested amount exceeds annual revenue many times over" := by
  rw [ratioText, ← percentage?, h]

theorem ratioText_ne_of_percentage? {f : Features} {percent : Decimal} {text : String}
    (h : percentage? f.ratio? = some percent) (htext : ¬ "requested amount is ".toList <+: text.toList) :
    ratioText f ≠ text := by
  rintro rfl
  rw [ratioText_of_percentage? h, String.append_assoc, String.toList_append] at htext
  exact htext (List.prefix_append _ _)

end Scoring

namespace Features

theorem map_name_dimensions (f : Features) : f.dimensions.map Dimension.name =
    ["business_age", "annual_revenue", "credit_score", "amount_to_revenue"] := rfl

theorem nodup_names (f : Features) : (f.dimensions.map Dimension.name).Nodup := by
  rw [map_name_dimensions]
  decide

/-- What the factor for the ratio says. -/
def Tells (f : Features) (text : String) : Prop :=
  ∃ factor ∈ f.factors, factor.name = "amount_to_revenue" ∧ factor.description = text

variable {f : Features} {text : String}

theorem tells_iff : f.Tells text ↔
    (∃ impact, ratioScale.impactAt (ratioPosition f.ratio?) = some impact) ∧ ratioText f = text := by
  have hmem : dimension "amount_to_revenue" ratioScale (ratioPosition f.ratio?) (ratioText f) ∈ f.dimensions := by
    simp [dimensions]
  have hfactor : ∀ factor, factor ∈ f.factors ∧ factor.name = "amount_to_revenue" ↔
      ∃ impact, ratioScale.impactAt (ratioPosition f.ratio?) = some impact ∧
        Factor.make "amount_to_revenue" impact ratioScale.weight (ratioText f) = factor :=
    fun factor => (Dimension.mem_factors_iff f.nodup_names hmem).trans Dimension.factor?_eq_some_iff
  constructor
  · rintro ⟨factor, hin, hname, rfl⟩
    obtain ⟨impact, hsome, rfl⟩ := (hfactor factor).1 ⟨hin, hname⟩
    exact ⟨⟨impact, hsome⟩, rfl⟩
  · rintro ⟨⟨impact, hsome⟩, rfl⟩
    obtain ⟨hin, hname⟩ := (hfactor _).2 ⟨impact, hsome, rfl⟩
    exact ⟨_, hin, hname, rfl⟩

/-- Without a percentage there is a factor, and it says why. -/
theorem tells_of_percentage?_eq_none (hnonneg : ∀ ratio, f.ratio? = some ratio → ratio.negative = false)
    (h : percentage? f.ratio? = none) : f.Tells text ↔
      text = if f.revenue.isZero then "no annual revenue reported to size the request against"
        else "requested amount exceeds annual revenue many times over" := by
  rw [tells_iff, ratioPosition_of_percentage?_eq_none hnonneg h, ratioText_of_none h, eq_comm (b := text)]
  exact and_iff_right ⟨.negative, rfl⟩

theorem not_tells_of_percentage? {percent : Decimal} (h : percentage? f.ratio? = some percent)
    (htext : ¬ "requested amount is ".toList <+: text.toList) : ¬ f.Tells text :=
  fun htells => ratioText_ne_of_percentage? h htext (tells_iff.1 htells).2

/-- The factor for the ratio says that no revenue was reported exactly if there is none. -/
theorem tells_unreported_iff (hnonneg : ∀ ratio, f.ratio? = some ratio → ratio.negative = false)
    (hzero : f.revenue.isZero = true → f.ratio? = none) :
    f.Tells "no annual revenue reported to size the request against" ↔ f.revenue.isZero = true := by
  cases hpercentage : percentage? f.ratio? with
  | none =>
      rw [tells_of_percentage?_eq_none hnonneg hpercentage]
      cases f.revenue.isZero <;> simp
  | some percent =>
      refine iff_of_false (not_tells_of_percentage? hpercentage (by simp)) fun hrevenue => ?_
      rw [hzero hrevenue] at hpercentage
      cases hpercentage

/-- It says that the request exceeds the revenue many times exactly if there is one, but no percentage. -/
theorem tells_exceeds_iff (hnonneg : ∀ ratio, f.ratio? = some ratio → ratio.negative = false) :
    f.Tells "requested amount exceeds annual revenue many times over" ↔
      f.revenue.isZero = false ∧ percentage? f.ratio? = none := by
  cases hpercentage : percentage? f.ratio? with
  | none =>
      rw [tells_of_percentage?_eq_none hnonneg hpercentage]
      cases f.revenue.isZero <;> simp
  | some percent =>
      exact iff_of_false (not_tells_of_percentage? hpercentage (by simp)) fun hboth =>
        Option.some_ne_none percent hboth.2

/-- The factors explain each dimension. -/
theorem explains (f : Features) :
    Explains f.factors "business_age" ageScale.values (ageScale.points f.years) ∧
    Explains f.factors "annual_revenue" revenueScale.values (revenueScale.points f.revenue) ∧
    Explains f.factors "credit_score" creditScale.values (creditScale.points f.credit) ∧
    Explains f.factors "amount_to_revenue" ratioScale.values
      (ratioScale.pointsAt (ratioPosition f.ratio?)) := by
  refine ⟨?age, ?revenue, ?credit, ?ratio⟩
  case age =>
    exact ageScale_graded.explains f.nodup_names (ageScale.position_le_bottom f.years) (.head _)
  case revenue =>
    exact revenueScale_graded.explains f.nodup_names (revenueScale.position_le_bottom f.revenue)
      (.tail _ (.head _))
  case credit =>
    exact creditScale_graded.explains f.nodup_names (creditScale.position_le_bottom f.credit)
      (.tail _ (.tail _ (.head _)))
  case ratio =>
    exact ratioScale_graded.explains f.nodup_names (ratioPosition_le_bottom f.ratio?)
      (.tail _ (.tail _ (.tail _ (.head _))))

end Features

/-- **The explanation matches the score.** The rules decide unless the score of a partner overflows. Whatever they
decide, the score is the sum of the points of the four dimensions, and the factors are in their order, one of each
at most. The factor of a dimension is positive exactly if its points are one of the two highest values, negative
exactly if they are the lowest, and there is none otherwise; its weight is the highest value, and the weights make
up a hundred at most. The factor for the ratio says that no revenue was reported exactly if there is none, and
that the request exceeds the revenue many times exactly if there is one and the percentage cannot be
represented. -/
theorem Adjustments.decision_explained (table : Adjustments) (profile : Profile) (request : Request)
    (partners : List PartnerSummary) :
    let f := Features.ofRequest profile request
    let ratioPoints := ratioScale.pointsAt (ratioPosition f.ratio?)
    ((∃ d, table.decide profile request partners = .ok d) ↔
      ∀ partner ∈ partners, ∃ score, table.apply partner.type f f.score = .ok score) ∧
    ∀ d, table.decide profile request partners = .ok d →
      let tells (text : String) : Prop :=
        ∃ factor ∈ d.factors, factor.name = "amount_to_revenue" ∧ factor.description = text
      d.score = ageScale.points f.years + revenueScale.points f.revenue + creditScale.points f.credit +
        ratioPoints ∧
      (d.factors.map Factor.name).Sublist
        ["business_age", "annual_revenue", "credit_score", "amount_to_revenue"] ∧
      Explains d.factors "business_age" [25, 20, 15, 10, 5] (ageScale.points f.years) ∧
      Explains d.factors "annual_revenue" [30, 25, 20, 15, 10, 5] (revenueScale.points f.revenue) ∧
      Explains d.factors "credit_score" [30, 25, 20, 15, 10] (creditScale.points f.credit) ∧
      Explains d.factors "amount_to_revenue" [15, 12, 9, 6, 3] ratioPoints ∧
      (d.factors.map Factor.weight).sum ≤ 100 ∧
      (tells "no annual revenue reported to size the request against" ↔ profile.revenue.isZero = true) ∧
      (tells "requested amount exceeds annual revenue many times over" ↔
        profile.revenue.isZero = false ∧ percentage? f.ratio? = none) := by
  intro f ratioPoints
  refine ⟨exists_decide_iff, fun d hd => ?_⟩
  intro tells
  have hscore : d.score = f.score := score_of_decide hd
  have hfactors : d.factors = f.factors := factors_of_decide hd
  have hnonneg : ∀ ratio, f.ratio? = some ratio → ratio.negative = false :=
    fun ratio hratio => Amount.ratio?_nonneg hratio
  have hzero : f.revenue.isZero = true → f.ratio? = none :=
    fun hzero => Amount.ratio?_of_isZero hzero request.amount
  have htells : ∀ text, tells text ↔ f.Tells text := by
    intro text
    rw [Features.Tells, ← hfactors]
  obtain ⟨hage, hrevenue, hcredit, hratio⟩ := f.explains
  rw [htells, htells, hfactors, ← f.map_name_dimensions]
  exact ⟨hscore.trans f.score_eq_add, Dimension.map_name_sublist f.dimensions, hage, hrevenue, hcredit, hratio,
    (Dimension.sum_weight_le f.dimensions).trans_eq f.sum_weight, f.tells_unreported_iff hnonneg hzero,
    f.tells_exceeds_iff hnonneg⟩

end Lending
