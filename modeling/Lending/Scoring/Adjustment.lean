import Lending.Scoring.Features

/-!
# Adjustments

Partners of one type value an applicant in their own way: their rules add points to the overall score
and take points off it, each under a condition on the features. Points are added up in words of 16 bits, and
a sum that does not fit ends the computation. That cannot happen under the standard rules.
-/

namespace Lending

inductive Condition where
  | minYears (years : Binary64)
  | belowYears (years : Binary64)
  | minRevenue (units : Nat)
  | minCredit (score : Nat)
deriving DecidableEq

def Condition.holds (f : Features) : Condition → Bool
  | minYears years => years ≤ f.years
  | belowYears years => f.years < years
  | minRevenue units => Amount.ofNat units ≤ f.revenue
  | minCredit score => score ≤ f.credit

/-- A word of 16 bits holds the number. -/
def IsWord (x : Int) : Prop := -32768 ≤ x ∧ x ≤ 32767

instance (x : Int) : Decidable (IsWord x) := inferInstanceAs (Decidable (_ ∧ _))

/-- A number that a word was to hold and does not. What needs it ends there. -/
structure Overflow where
deriving DecidableEq

def checkedWord (x : Int) : Except Overflow Int16 := if IsWord x then .ok (.ofInt x) else .error {}

theorem exists_checkedWord {x : Int} (h : IsWord x) : ∃ w, checkedWord x = .ok w := ⟨_, if_pos h⟩

theorem checkedWord_eq_ok_iff {x : Int} {w : Int16} : checkedWord x = .ok w ↔ w.toInt = x := by
  rw [checkedWord]
  split
  · rename_i h
    have hword : (Int16.ofInt x).toInt = x := Int16.toInt_ofInt_of_le h.1 (Int.lt_of_le_of_lt h.2 (by decide))
    rw [Except.ok.injEq, ← Int16.toInt_inj, hword, eq_comm]
  · rename_i h
    refine iff_of_false nofun fun hx => h ?_
    exact hx ▸ ⟨w.le_toInt, Int.le_of_lt_add_one w.toInt_lt⟩

/-- Points given or taken where a condition holds. -/
structure Adjustment where
  condition : Condition
  delta : Int16
deriving DecidableEq

/-- The rules of each type of partner. -/
structure Adjustments where
  rules : PartnerType → List Adjustment

namespace Adjustments

def empty : Adjustments := ⟨fun _ => []⟩

/-- Gives a type these rules in the place of those that it has. -/
def withRules (table : Adjustments) (type : PartnerType) (rules : List Adjustment) : Adjustments :=
  ⟨fun other => if other = type then rules else table.rules other⟩

/-- The rules that lenders of each type are known to follow. -/
def standard : Adjustments :=
  ((empty.withRules .conservativeNbfc
      [⟨.minYears (.ofNat 2), 5⟩, ⟨.belowYears (.ofNat 2), -10⟩, ⟨.minRevenue 10000000, 5⟩]).withRules
    .flexibleNbfc [⟨.minYears (.ofNat 1), 5⟩, ⟨.minCredit 720, 10⟩]).withRules
    .bank [⟨.belowYears (.ofNat 3), -5⟩, ⟨.minCredit 750, 5⟩]

/-- What the rules of a type add up to. Each sum on the way is put into a word. -/
def delta (table : Adjustments) (type : PartnerType) (f : Features) : Except Overflow Int16 :=
  ((table.rules type).filter fun rule => rule.condition.holds f).foldlM
    (fun sum rule => checkedWord (sum.toInt + rule.delta.toInt)) 0

/-- The score that partners of a type give, between 0 and 100. -/
def apply (table : Adjustments) (type : PartnerType) (f : Features) (base : Nat) : Except Overflow Nat := do
  let sum ← table.delta type f
  let total ← checkedWord (base + sum.toInt)
  return (min total.toInt 100).toNat

theorem apply_of_delta {table : Adjustments} {type : PartnerType} {f : Features} {sum : Int16}
    (h : table.delta type f = .ok sum) (base : Nat) :
    table.apply type f base =
      (checkedWord (base + sum.toInt)).map fun total => (min total.toInt 100).toNat := by
  rw [apply, h]
  rfl

/-! ### Tables that cannot overflow -/

/-- How far rules can move a score. -/
def span : List Adjustment → Nat
  | [] => 0
  | rule :: rules => rule.delta.toInt.natAbs + span rules

def reach (table : Adjustments) (type : PartnerType) : Nat := span (table.rules type)

/-- Every score can be adjusted. -/
def Total (table : Adjustments) : Prop :=
  ∀ type f base, base ≤ 100 → ∃ score, table.apply type f base = .ok score

theorem exists_foldlM (rules : List Adjustment) (f : Features) (start : Int16)
    (h : start.toInt.natAbs + span rules ≤ 32767) :
    ∃ sum, (rules.filter fun rule => rule.condition.holds f).foldlM
        (fun sum rule => checkedWord (sum.toInt + rule.delta.toInt)) start = .ok sum ∧
      sum.toInt.natAbs ≤ start.toInt.natAbs + span rules := by
  induction rules generalizing start with
  | nil => exact ⟨start, rfl, Nat.le_refl _⟩
  | cons rule rules ih =>
      rw [span] at h ⊢
      rw [List.filter_cons]
      split
      · obtain ⟨next, hnext⟩ := exists_checkedWord (x := start.toInt + rule.delta.toInt)
          (by unfold IsWord; omega)
        have hvalue := checkedWord_eq_ok_iff.1 hnext
        obtain ⟨sum, hsum, hle⟩ := ih next (by omega)
        refine ⟨sum, ?_, by omega⟩
        rw [List.foldlM_cons, hnext]
        exact hsum
      · obtain ⟨sum, hsum, hle⟩ := ih start (by omega)
        exact ⟨sum, hsum, by omega⟩

theorem exists_apply {table : Adjustments} {type : PartnerType} {base : Nat}
    (h : base + table.reach type ≤ 32767) (f : Features) : ∃ score, table.apply type f base = .ok score := by
  rw [reach] at h
  obtain ⟨sum, hsum, hle⟩ := exists_foldlM (table.rules type) f 0 (by rw [Int16.toInt_zero]; omega)
  rw [Int16.toInt_zero] at hle
  obtain ⟨total, htotal⟩ := exists_checkedWord (x := base + sum.toInt) (by unfold IsWord; omega)
  exact ⟨_, (apply_of_delta hsum base).trans (congrArg (Except.map _) htotal)⟩

theorem total_of_reach_le {table : Adjustments} (h : ∀ type, 100 + table.reach type ≤ 32767) :
    table.Total := fun type f _ hbase => exists_apply (Nat.le_trans (Nat.add_le_add_right hbase _) (h type)) f

theorem standard_total : standard.Total := total_of_reach_le fun type => by cases type <;> decide

end Adjustments
end Lending
