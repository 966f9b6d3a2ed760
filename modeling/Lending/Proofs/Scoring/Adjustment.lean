import Mathlib.Algebra.Order.BigOperators.Group.List
import Lending.Proofs.Scoring.Features
import Lending.Scoring.Adjustment

/-!
# What adjustments do to a score

The points of all rules that hold are added up in words of 16 bits. Where each sum on the way fits into a word,
the adjusted score is the exact total of the score and the points, cut off at 0 and at 100; where one does not,
there is no score.

A table is fair if its rules give points for being strong and take them for being weak, and in no such
amount that a sum could leave the range. Under a fair table better features and a better score never
give a lower adjusted score.
-/

namespace Lending

/-! ### Single adjustments -/

namespace Adjustment

/-- The points that a rule gives: none where its condition does not hold. -/
def gain (a : Adjustment) (f : Features) : Int := if a.condition.holds f then a.delta.toInt else 0

/-- The rule does not reward a weak applicant, nor punish a strong one. -/
def IsFair (a : Adjustment) : Prop :=
  match a.condition with
  | .belowYears _ => a.delta.toInt ≤ 0
  | .minYears _ | .minRevenue _ | .minCredit _ => 0 ≤ a.delta.toInt

instance : ∀ a : Adjustment, Decidable a.IsFair
  | ⟨.belowYears _, delta⟩ => inferInstanceAs (Decidable (delta.toInt ≤ 0))
  | ⟨.minYears _, delta⟩ | ⟨.minRevenue _, delta⟩ | ⟨.minCredit _, delta⟩ =>
      inferInstanceAs (Decidable (0 ≤ delta.toInt))

variable {a : Adjustment} {f g : Features}

theorem gain_le_of_reward (hdelta : 0 ≤ a.delta.toInt)
    (hkept : a.condition.holds f = true → a.condition.holds g = true) : a.gain f ≤ a.gain g := by
  cases hf : a.condition.holds f with
  | true => rw [gain, gain, hf, hkept hf]
  | false =>
      rw [gain, gain, hf, if_neg Bool.false_ne_true]
      split
      · exact hdelta
      · exact Int.le_refl 0

theorem gain_le_of_punishment (hdelta : a.delta.toInt ≤ 0)
    (hkept : a.condition.holds g = true → a.condition.holds f = true) : a.gain f ≤ a.gain g := by
  cases hg : a.condition.holds g with
  | true => rw [gain, gain, hg, hkept hg]
  | false =>
      rw [gain, gain, hg, if_neg Bool.false_ne_true]
      split
      · exact hdelta
      · exact Int.le_refl 0

theorem IsFair.gain_le_gain (ha : a.IsFair) (h : Features.NoBetter f g) : a.gain f ≤ a.gain g := by
  obtain ⟨condition, delta⟩ := a
  cases condition with
  | minYears years =>
      exact gain_le_of_reward ha fun hholds =>
        decide_eq_true (Binary64.le_trans (of_decide_eq_true hholds) h.years)
  | belowYears years =>
      exact gain_le_of_punishment ha fun hholds =>
        decide_eq_true (Binary64.lt_of_le_of_lt h.years (of_decide_eq_true hholds))
  | minRevenue units =>
      exact gain_le_of_reward ha fun hholds =>
        decide_eq_true (Amount.le_trans (of_decide_eq_true hholds) h.revenue)
  | minCredit score =>
      exact gain_le_of_reward ha fun hholds =>
        decide_eq_true (Nat.le_trans (of_decide_eq_true hholds) h.credit)

end Adjustment

namespace Adjustments

variable {table : Adjustments} {type : PartnerType} {f g : Features}

/-! ### The sum of the points -/

/-- What the rules of a type add up to, as an integer. -/
def points (table : Adjustments) (type : PartnerType) (f : Features) : Int :=
  (((table.rules type).filter fun rule => rule.condition.holds f).map fun rule => rule.delta.toInt).sum

theorem points_eq_sum_gain (table : Adjustments) (type : PartnerType) (f : Features) :
    table.points type f = ((table.rules type).map fun rule => rule.gain f).sum := by
  rw [points]
  induction table.rules type with
  | nil => rfl
  | cons rule rules ih =>
      rw [List.map_cons, List.sum_cons, Adjustment.gain, ← ih, List.filter_cons]
      split
      · rw [List.map_cons, List.sum_cons]
      · rw [Int.zero_add]

def AllWords (sums : List Int) : Prop := ∀ sum ∈ sums, IsWord sum

instance (sums : List Int) : Decidable (AllWords sums) := inferInstanceAs (Decidable (∀ sum ∈ sums, IsWord sum))

/-- The sums on the way to the points of a type: those of its first rules that hold. -/
def sums (table : Adjustments) (type : PartnerType) (f : Features) : List Int :=
  (((table.rules type).filter fun rule => rule.condition.holds f).map fun rule => rule.delta.toInt).scanl
    (· + ·) 0

/-- No sum on the way from no points to the adjusted score leaves the range of a word. -/
def Fits (table : Adjustments) (type : PartnerType) (f : Features) (base : Nat) : Prop :=
  AllWords (table.sums type f) ∧ IsWord (base + table.points type f)

instance (table : Adjustments) (type : PartnerType) (f : Features) (base : Nat) :
    Decidable (table.Fits type f base) := inferInstanceAs (Decidable (_ ∧ _))

theorem isWord_toInt (w : Int16) : IsWord w.toInt := ⟨w.le_toInt, Int.le_of_lt_add_one w.toInt_lt⟩

theorem toInt_ofInt {x : Int} (h : IsWord x) : (Int16.ofInt x).toInt = x :=
  checkedWord_eq_ok_iff.1 (if_pos h)

theorem AllWords.start {deltas : List Int} {start : Int} (h : AllWords (deltas.scanl (· + ·) start)) :
    IsWord start := h start (by cases deltas <;> simp)

theorem add_sum_mem_scanl (deltas : List Int) (start : Int) :
    start + deltas.sum ∈ deltas.scanl (· + ·) start := by
  induction deltas generalizing start with
  | nil => simp
  | cons delta deltas ih =>
      rw [List.scanl_cons, List.sum_cons, ← Int.add_assoc]
      exact List.mem_cons_of_mem _ (ih (start + delta))

theorem allWords_scanl_cons (w : Int16) (delta : Int) (deltas : List Int) :
    AllWords ((delta :: deltas).scanl (· + ·) w.toInt) ↔ AllWords (deltas.scanl (· + ·) (w.toInt + delta)) := by
  rw [List.scanl_cons, AllWords, List.forall_mem_cons]
  exact and_iff_right (isWord_toInt w)

theorem foldlM_checkedWord (rules : List Adjustment) (start : Int16) :
    rules.foldlM (fun sum rule => checkedWord (sum.toInt + rule.delta.toInt)) start =
      if AllWords ((rules.map fun rule => rule.delta.toInt).scanl (· + ·) start.toInt) then
        .ok (.ofInt (start.toInt + (rules.map fun rule => rule.delta.toInt).sum))
      else .error {} := by
  induction rules generalizing start with
  | nil =>
      have hstart : AllWords (([] : List Int).scanl (· + ·) start.toInt) := by
        simpa [AllWords] using isWord_toInt start
      rw [List.map_nil, if_pos hstart, List.sum_nil, Int.add_zero, Int16.ofInt_toInt]
      rfl
  | cons rule rules ih =>
      rw [List.foldlM_cons, List.map_cons, List.sum_cons, ← Int.add_assoc]
      simp only [allWords_scanl_cons]
      by_cases hword : IsWord (start.toInt + rule.delta.toInt)
      · have hnext := ih (.ofInt (start.toInt + rule.delta.toInt))
        rw [toInt_ofInt hword] at hnext
        rw [checkedWord, if_pos hword]
        exact hnext
      · rw [checkedWord, if_neg hword, if_neg fun hall => hword hall.start]
        rfl

theorem delta_eq (table : Adjustments) (type : PartnerType) (f : Features) :
    table.delta type f =
      if AllWords (table.sums type f) then .ok (.ofInt (table.points type f)) else .error {} := by
  have hfold := foldlM_checkedWord ((table.rules type).filter fun rule => rule.condition.holds f) 0
  rwa [Int16.toInt_zero, Int.zero_add] at hfold

/-! ### Any table -/

/-- Either every sum fits and the score is exact, or there is none. -/
theorem apply_eq (table : Adjustments) (type : PartnerType) (f : Features) (base : Nat) :
    table.apply type f base =
      if table.Fits type f base then .ok (min (base + table.points type f) 100).toNat else .error {} := by
  by_cases hsums : AllWords (table.sums type f)
  · have hdelta : table.delta type f = .ok (.ofInt (table.points type f)) :=
      (delta_eq table type f).trans (if_pos hsums)
    have hpoints : IsWord (table.points type f) := by
      have hlast := add_sum_mem_scanl
        (((table.rules type).filter fun rule => rule.condition.holds f).map fun rule => rule.delta.toInt) 0
      rw [Int.zero_add] at hlast
      exact hsums _ hlast
    rw [apply_of_delta hdelta, toInt_ofInt hpoints, checkedWord]
    by_cases htotal : IsWord (base + table.points type f)
    · rw [if_pos htotal, if_pos ⟨hsums, htotal⟩]
      exact congrArg (fun total => Except.ok (min total 100).toNat) (toInt_ofInt htotal)
    · rw [if_neg htotal, if_neg fun hfits => htotal hfits.2]
      rfl
  · rw [if_neg fun hfits => hsums hfits.1, apply, delta_eq, if_neg hsums]
    rfl

theorem apply_eq_ok_iff {base score : Nat} : table.apply type f base = .ok score ↔
    table.Fits type f base ∧ (score : Int) = max 0 (min (base + table.points type f) 100) := by
  rw [apply_eq]
  split
  · rename_i hfits
    rw [Except.ok.injEq, and_iff_right hfits]
    omega
  · rename_i hnot
    exact iff_of_false nofun fun h => hnot h.1

theorem fits_iff_exists_apply {base : Nat} :
    table.Fits type f base ↔ ∃ score, table.apply type f base = .ok score := by
  constructor
  · intro hfits
    exact ⟨_, (apply_eq table type f base).trans (if_pos hfits)⟩
  · rintro ⟨score, hscore⟩
    exact (apply_eq_ok_iff.1 hscore).1

theorem apply_le {base score : Nat} (h : table.apply type f base = .ok score) : score ≤ 100 := by
  have hscore := (apply_eq_ok_iff.1 h).2
  omega

theorem points_eq_of_perm {other : Adjustments} (h : (other.rules type).Perm (table.rules type)) :
    other.points type f = table.points type f :=
  ((h.filter _).map _).sum_eq

theorem span_eq_sum (rules : List Adjustment) :
    span rules = (rules.map fun rule => rule.delta.toInt.natAbs).sum := by
  induction rules with
  | nil => rfl
  | cons rule rules ih => rw [span, ih, List.map_cons, List.sum_cons]

theorem reach_eq_of_perm {other : Adjustments} (h : (other.rules type).Perm (table.rules type)) :
    other.reach type = table.reach type := by
  rw [reach, reach, span_eq_sum, span_eq_sum]
  exact (h.map _).sum_eq

/-- **An adjusted score is exact, or there is none.** Whatever rules there are, a score is adjusted exactly if
neither a sum of the points of the first rules that hold nor that of the score and all points leaves the range of
a word; it is then the exact total, cut off at 0 and at 100. The order of the rules does not show in the score,
only in whether there is one, and there is one in every order where the score and the points of all rules, taken
as gains, fit into a word. -/
theorem apply_exact_iff_fits (table : Adjustments) (type : PartnerType) (f : Features) (base : Nat) :
    (∀ score, table.apply type f base = .ok score ↔
      table.Fits type f base ∧ (score : Int) = max 0 (min (base + table.points type f) 100)) ∧
    (table.apply type f base = .error {} ↔ ¬ table.Fits type f base) ∧
    ∀ other : Adjustments, (other.rules type).Perm (table.rules type) →
      (table.Fits type f base → other.Fits type f base →
        other.apply type f base = table.apply type f base) ∧
      (base + table.reach type ≤ 32767 → other.Fits type f base) := by
  refine ⟨fun score => apply_eq_ok_iff, ?overflow, fun other hperm =>
    ⟨fun hfits hfits' => ?same, fun hreach => ?all⟩⟩
  case overflow =>
    rw [apply_eq]
    split
    · rename_i hfits
      exact iff_of_false nofun fun hnot => hnot hfits
    · rename_i hnot
      exact iff_of_true rfl hnot
  case same =>
    rw [apply_eq, apply_eq, if_pos hfits, if_pos hfits', points_eq_of_perm hperm]
  case all =>
    rw [← reach_eq_of_perm hperm] at hreach
    exact fits_iff_exists_apply.2 (exists_apply hreach f)

/-- A bank that gives and takes these points whoever applies. -/
def lavish (deltas : List Int16) : Adjustments :=
  empty.withRules .bank (deltas.map fun delta => ⟨.minCredit 0, delta⟩)

def newcomer : Features := .ofRequest .empty ⟨.ofNat 1, .termLoan, none, none⟩

/-- The total of 32768 is one more than a word holds. With three rules it depends on their order whether the sums
fit. -/
theorem apply_lavish : (lavish [32767]).points .bank newcomer = 32767 ∧
    (lavish [32767]).apply .bank newcomer 1 = .error {} ∧
    (lavish [32767, 1, -32767]).apply .bank newcomer 50 = .error {} ∧
    (lavish [32767, -32767, 1]).apply .bank newcomer 50 = .ok 51 := by
  decide

/-! ### Fair tables -/

/-- Being better is never punished, and no total leaves the range of a word of 16 bits. -/
structure Fair (table : Adjustments) : Prop where
  rules : ∀ type, ∀ rule ∈ table.rules type, rule.IsFair
  moderate : ∀ type, 100 + table.reach type ≤ 32767

theorem Fair.total (htable : table.Fair) : table.Total := total_of_reach_le htable.moderate

theorem Fair.points_le_points (htable : table.Fair) (h : Features.NoBetter f g) :
    table.points type f ≤ table.points type g := by
  rw [points_eq_sum_gain, points_eq_sum_gain]
  exact List.sum_le_sum fun rule hrule => (htable.rules type rule hrule).gain_le_gain h

theorem Fair.apply_le_apply (htable : table.Fair) (type : PartnerType) (h : Features.NoBetter f g)
    {base better : Nat} (hle : base ≤ better) (hbetter : better ≤ 100) :
    ∃ score score', table.apply type f base = .ok score ∧ table.apply type g better = .ok score' ∧
      score ≤ score' := by
  obtain ⟨score, hscore⟩ := htable.total type f base (hle.trans hbetter)
  obtain ⟨score', hscore'⟩ := htable.total type g better hbetter
  refine ⟨score, score', hscore, hscore', ?_⟩
  have hpoints : table.points type f ≤ table.points type g := htable.points_le_points h
  have hvalue := (apply_eq_ok_iff.1 hscore).2
  have hvalue' := (apply_eq_ok_iff.1 hscore').2
  omega

theorem standard_fair : standard.Fair where
  rules type := by cases type <;> decide
  moderate type := by cases type <;> decide

end Adjustments
end Lending
