import Lending.Scoring.Scale

/-!
# A scale gives no fewer points to a better figure

A figure that meets every threshold that another one meets stands no lower on the scale. Where tiers are
listed best first and none gives less than the floor, it is given no fewer points either, and a figure
that is not known, at the bottom, is given the fewest.
-/

namespace Lending.Scale

variable {α : Type} {s : Scale α}

theorem position_le_bottom (s : Scale α) (figure : α) : s.position figure ≤ s.bottom :=
  List.findIdx_le_length

theorem position_le_of_meets {figure better : α}
    (h : ∀ threshold, s.meets figure threshold = true → s.meets better threshold = true) :
    s.position better ≤ s.position figure := by
  refine List.findIdx_le_findIdx fun tier _ => ?_
  exact h tier.1

/-- Two scales with the same tiers, whatever points they give for them. -/
structure SameTiers (s t : Scale α) : Prop where
  meets : s.meets = t.meets
  thresholds : s.tiers.map (·.1) = t.tiers.map (·.1)

theorem position_eq_findIdx (s : Scale α) (figure : α) :
    s.position figure = (s.tiers.map (·.1)).findIdx (s.meets figure) :=
  (List.findIdx_map _ _ _).symm

theorem SameTiers.position_eq {t : Scale α} (h : s.SameTiers t) (figure : α) :
    s.position figure = t.position figure := by
  rw [position_eq_findIdx, position_eq_findIdx, h.meets, h.thresholds]

theorem points_nil (meets : α → α → Bool) (floor : Nat) (figure : α) :
    (Scale.mk meets [] floor).points figure = floor := rfl

theorem points_cons (meets : α → α → Bool) (tier : α × Nat) (tiers : List (α × Nat)) (floor : Nat)
    (figure : α) : (Scale.mk meets (tier :: tiers) floor).points figure =
      if meets figure tier.1 then tier.2 else (Scale.mk meets tiers floor).points figure := by
  simp only [points, pointsAt, position, List.findIdx_cons]
  cases meets figure tier.1 with
  | true => rfl
  | false => rfl

/-- Points fall along the tiers, down to the floor. -/
structure Descending (s : Scale α) : Prop where
  tiers : s.tiers.Pairwise fun upper lower => lower.2 ≤ upper.2
  floor : ∀ tier ∈ s.tiers, s.floor ≤ tier.2

theorem pointsAt_of_lt {i : Nat} (hi : i < s.tiers.length) : s.pointsAt i = s.tiers[i].2 := by
  rw [pointsAt, List.getElem?_eq_getElem hi]
  rfl

theorem pointsAt_of_le {i : Nat} (hi : s.tiers.length ≤ i) : s.pointsAt i = s.floor := by
  rw [pointsAt, List.getElem?_eq_none hi]
  rfl

theorem dvd_pointsAt {m : Nat} (htiers : ∀ tier ∈ s.tiers, m ∣ tier.2) (hfloor : m ∣ s.floor) (i : Nat) :
    m ∣ s.pointsAt i := by
  rcases Nat.lt_or_ge i s.tiers.length with hi | hi
  · rw [pointsAt_of_lt hi]
    exact htiers _ (List.getElem_mem hi)
  · rw [pointsAt_of_le hi]
    exact hfloor

namespace Descending

theorem floor_le_pointsAt (h : s.Descending) (i : Nat) : s.floor ≤ s.pointsAt i := by
  rcases Nat.lt_or_ge i s.tiers.length with hi | hi
  · rw [pointsAt_of_lt hi]
    exact h.floor _ (List.getElem_mem hi)
  · exact Nat.le_of_eq (pointsAt_of_le hi).symm

theorem pointsAt_le (h : s.Descending) {i j : Nat} (hij : i ≤ j) : s.pointsAt j ≤ s.pointsAt i := by
  rcases Nat.lt_or_ge j s.tiers.length with hj | hj
  · rcases Nat.eq_or_lt_of_le hij with rfl | hlt
    · exact Nat.le_refl _
    · rw [pointsAt_of_lt hj, pointsAt_of_lt (Nat.lt_trans hlt hj)]
      exact List.pairwise_iff_getElem.1 h.tiers i j _ hj hlt
  · rw [pointsAt_of_le hj]
    exact h.floor_le_pointsAt i

theorem pointsAt_le_weight (h : s.Descending) (i : Nat) : s.pointsAt i ≤ s.weight :=
  h.pointsAt_le (Nat.zero_le i)

theorem points_le (h : s.Descending) {figure better : α}
    (hmeets : ∀ threshold, s.meets figure threshold = true → s.meets better threshold = true) :
    s.points figure ≤ s.points better :=
  h.pointsAt_le (position_le_of_meets hmeets)

theorem points_le_of_le [LE α] [DecidableLE α] (h : s.Descending)
    (htrans : ∀ {a b c : α}, a ≤ b → b ≤ c → a ≤ c)
    (hmeets : ∀ figure threshold, s.meets figure threshold = decide (threshold ≤ figure))
    {figure larger : α} (hle : figure ≤ larger) : s.points figure ≤ s.points larger := by
  refine h.points_le fun threshold hmet => ?_
  rw [hmeets, decide_eq_true_iff] at hmet ⊢
  exact htrans hmet hle

end Descending

/-! ### Positions by points -/

def values (s : Scale α) : List Nat := s.tiers.map (·.2) ++ [s.floor]

theorem length_values (s : Scale α) : s.values.length = s.bottom + 1 := by
  rw [values, List.length_append, List.length_map, List.length_singleton, bottom]

theorem getElem?_values {i : Nat} (hi : i ≤ s.bottom) : s.values[i]? = some (s.pointsAt i) := by
  rcases Nat.lt_or_eq_of_le hi with hlt | rfl
  · rw [values, List.getElem?_append_left (by rwa [List.length_map]), List.getElem?_map,
      List.getElem?_eq_getElem hlt, pointsAt_of_lt hlt, Option.map_some]
  · rw [values, List.getElem?_append_right (by rw [List.length_map]; exact Nat.le_refl _), List.length_map,
      bottom, Nat.sub_self, pointsAt_of_le (Nat.le_refl _), List.getElem?_cons_zero]

theorem pointsAt_mem_values {i : Nat} (hi : i ≤ s.bottom) : s.pointsAt i ∈ s.values :=
  List.mem_of_getElem? (getElem?_values hi)

/-- Every position has points of its own, there are three at least, and the weight is a percentage. -/
structure Graded (s : Scale α) : Prop where
  strict : s.values.Pairwise fun upper lower => lower < upper
  steps : 2 ≤ s.bottom
  weight_le : s.weight ≤ 100

namespace Graded

variable {i j : Nat}

theorem eq_of_pointsAt_eq (h : s.Graded) (hi : i ≤ s.bottom) (hj : j ≤ s.bottom)
    (heq : s.pointsAt i = s.pointsAt j) : i = j := by
  have hnodup : s.values.Nodup := h.strict.imp Nat.ne_of_gt
  refine (List.getElem?_inj ?_ hnodup).1 ?_
  · rw [length_values]
    exact Nat.lt_succ_of_le hi
  · rw [getElem?_values hi, getElem?_values hj, heq]

/-- The points tell whether a position is among the best. -/
theorem mem_take_values_iff (h : s.Graded) (hi : i ≤ s.bottom) {best : Nat} :
    s.pointsAt i ∈ s.values.take best ↔ i < best := by
  rw [List.mem_take_iff_getElem]
  constructor
  · rintro ⟨j, hj, heq⟩
    have hjle : j ≤ s.bottom := by
      have := length_values s
      omega
    have hpoints : s.pointsAt j = s.pointsAt i := by
      rw [← Option.some_inj, ← getElem?_values hjle, ← heq, List.getElem?_eq_getElem]
    have := h.eq_of_pointsAt_eq hjle hi hpoints
    omega
  · intro hlt
    have hlength : i < s.values.length := by
      rw [length_values]
      exact Nat.lt_succ_of_le hi
    refine ⟨i, by omega, ?_⟩
    rw [← Option.some_inj, ← List.getElem?_eq_getElem, getElem?_values hi]

theorem pointsAt_eq_floor_iff (h : s.Graded) (hi : i ≤ s.bottom) :
    s.pointsAt i = s.floor ↔ i = s.bottom := by
  have hbottom : s.pointsAt s.bottom = s.floor := pointsAt_of_le (Nat.le_refl _)
  constructor
  · intro heq
    exact h.eq_of_pointsAt_eq hi (Nat.le_refl _) (heq.trans hbottom.symm)
  · rintro rfl
    exact hbottom

end Graded
end Lending.Scale
