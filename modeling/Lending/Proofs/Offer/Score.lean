import Mathlib.Algebra.Order.Floor.Ring
import Mathlib.Data.Rat.Floor
import Lending.Offer.Basic
import Lending.Proofs.Binary64.Conversion
import Lending.Proofs.Decimal.Order

/-!
# The score of an offer

A score is computed in five steps, and each of them rounds: a ratio, a percentage, what is missing of a
hundred, half of that, and what is left of the probability, in the end to hundredths. Every step follows
the order of its operands, so the score does, too. It is strict in the probability because a whole percent is
more than all that the roundings could take away between two hundredths.
-/

namespace Lending.Offer

variable {estimated estimated' requested requested' : Amount} {coverage coverage' half half' : Decimal}

/-! ### What is missing of the amount -/

theorem toRat_hundred : hundred.toRat = 100 := Decimal.toRat_ofNat (by norm_num)

theorem shortfall?_eq_some_iff : shortfall? estimated requested = some coverage ↔
    ∃ ratio, estimated.ratio? requested = some ratio ∧ Decimal.mul? ratio hundred = some coverage ∧
      coverage.toRat < 100 := by
  rw [shortfall?, Option.filter_eq_some_iff, decide_eq_true_eq, coverage?, Option.map_eq_some_iff,
    Decimal.lt_iff_toRat_lt, toRat_hundred]
  constructor
  · rintro ⟨⟨ratio, hratio, hproduct⟩, hlt⟩
    refine ⟨ratio, hratio, ?_, hlt⟩
    cases hmul : Decimal.mul? ratio hundred with
    | some product => exact congrArg some (by rwa [hmul] at hproduct)
    | none =>
        rw [hmul, Option.getD_none] at hproduct
        have hlargest : ¬ Decimal.largest < hundred := by decide
        rw [Decimal.lt_iff_toRat_lt, toRat_hundred, hproduct] at hlargest
        exact absurd hlt hlargest
  · rintro ⟨ratio, hratio, hmul, hlt⟩
    exact ⟨⟨ratio, hratio, by rw [hmul, Option.getD_some]⟩, hlt⟩

theorem shortfall?_nonneg (h : shortfall? estimated requested = some coverage) :
    coverage.negative = false := by
  obtain ⟨ratio, hratio, hmul, -⟩ := shortfall?_eq_some_iff.1 h
  exact Decimal.mul?_nonneg (Amount.ratio?_nonneg hratio) rfl hmul

/-- More of a smaller amount is covered, and what is missing of it is missing of a larger one. -/
theorem shortfall?_mono (hestimated : estimated ≤ estimated') (hrequested : requested' ≤ requested)
    (h : shortfall? estimated' requested' = some coverage') :
    ∃ coverage, shortfall? estimated requested = some coverage ∧ coverage.toRat ≤ coverage'.toRat := by
  obtain ⟨ratio', hratio', hmul', hlt⟩ := shortfall?_eq_some_iff.1 h
  obtain ⟨ratio, hratio, hle⟩ := Amount.ratio?_mono hestimated hrequested hratio'
  rw [Decimal.le_iff_toRat_le] at hle
  have hrounds' := (Decimal.mul?_computes ratio' hundred).rounds coverage' hmul'
  have hnonneg := Decimal.toRat_nonneg (Amount.ratio?_nonneg hratio)
  have hproduct : ratio.toRat * hundred.toRat ≤ ratio'.toRat * hundred.toRat :=
    mul_le_mul_of_nonneg_right hle (Decimal.toRat_nonneg rfl)
  have hproductNonneg : 0 ≤ ratio.toRat * hundred.toRat := mul_nonneg hnonneg (Decimal.toRat_nonneg rfl)
  obtain ⟨coverage, hmul, hcoverage⟩ :=
    (Decimal.mul?_computes ratio hundred).exists_le hrounds' hproductNonneg hproduct
  exact ⟨coverage, shortfall?_eq_some_iff.2 ⟨ratio, hratio, hmul, hcoverage.trans_lt hlt⟩, hcoverage⟩

theorem shortfall?_eq_none (h : requested.isZero = true ∨ requested ≤ estimated) :
    shortfall? estimated requested = none := by
  refine Option.eq_none_iff_forall_ne_some.2 fun coverage hsome => ?_
  obtain ⟨ratio, hratio, hmul, hlt⟩ := shortfall?_eq_some_iff.1 hsome
  cases hzero : requested.isZero with
  | true =>
      rw [Amount.ratio?_of_isZero hzero] at hratio
      cases hratio
  | false =>
      have hle := Amount.le_iff_toRat_le.1 (h.resolve_left (Bool.eq_false_iff.1 hzero))
      have hone : (Decimal.ofNat 1).toRat = 1 := by exact_mod_cast Decimal.toRat_ofNat (by norm_num)
      have hratioGe := ((Amount.ratio?_computes hzero estimated).rounds ratio hratio).toRat_le
        (c := .ofNat 1) (by rwa [hone, one_le_div (Amount.toRat_pos hzero)])
      have hcoverageGe := ((Decimal.mul?_computes ratio hundred).rounds coverage hmul).toRat_le
        (c := hundred) (by rw [toRat_hundred]; linarith)
      rw [toRat_hundred] at hcoverageGe
      linarith

/-! ### What is taken off -/

def half? (coverage : Decimal) : Option Decimal :=
  (hundred.sub? coverage).bind fun missing => missing.div? (.ofNat 2)

theorem half?_eq_some_iff : half? coverage = some half ↔
    ∃ missing, hundred.sub? coverage = some missing ∧ missing.div? (.ofNat 2) = some half :=
  Option.bind_eq_some_iff

theorem toRat_two : (Decimal.ofNat 2).toRat = 2 := Decimal.toRat_ofNat (by norm_num)

theorem half_computes (missing : Decimal) :
    Decimal.Computes (missing.toRat / 2) (missing.div? (.ofNat 2)) := by
  have hcomputes := Decimal.div?_computes missing (b := .ofNat 2) (by rw [toRat_two]; norm_num)
  rwa [toRat_two] at hcomputes

theorem missing_computes (coverage : Decimal) :
    Decimal.Computes (100 - coverage.toRat) (hundred.sub? coverage) := by
  have hcomputes := Decimal.sub?_computes hundred coverage
  rwa [toRat_hundred] at hcomputes

theorem exists_half? (hsign : coverage.negative = false) (hle : coverage.toRat < 100) :
    ∃ half, half? coverage = some half ∧ half.negative = false ∧ half.toRat ≤ 50 := by
  have hnonneg := Decimal.toRat_nonneg hsign
  obtain ⟨missing, hmissing⟩ := (missing_computes coverage).defined
    (by rw [abs_of_nonneg (by linarith)]; linarith)
  have hrounds := (missing_computes coverage).rounds missing hmissing
  have hmissingNonneg := hrounds.toRat_le (c := .zero) (by rw [Decimal.toRat_zero]; linarith)
  have hmissingLe := hrounds.le_toRat (c := hundred) (by rw [toRat_hundred]; linarith)
  rw [Decimal.toRat_zero] at hmissingNonneg
  rw [toRat_hundred] at hmissingLe
  obtain ⟨half, hhalf⟩ := (half_computes missing).defined
    (by rw [abs_of_nonneg (by linarith)]; linarith)
  have hhalfLe := ((half_computes missing).rounds half hhalf).le_toRat (c := .ofNat 50)
    (by rw [Decimal.toRat_ofNat (by norm_num)]; push_cast; linarith)
  rw [Decimal.toRat_ofNat (by norm_num)] at hhalfLe
  have hproper : missing.Proper :=
    (Decimal.Proper.of_nonneg rfl).sub? (Decimal.Proper.of_nonneg hsign) hmissing
  have hmissingSign : missing.negative = false := by
    rw [hproper.negative_eq]
    exact decide_eq_false (lt_iff_not_ge.not_left.2 hmissingNonneg)
  exact ⟨half, half?_eq_some_iff.2 ⟨missing, hmissing, hhalf⟩,
    Decimal.div?_nonneg hmissingSign rfl hhalf, by exact_mod_cast hhalfLe⟩

theorem half?_antitone (h : half? coverage = some half) (h' : half? coverage' = some half')
    (hle : coverage.toRat ≤ coverage'.toRat) : half'.toRat ≤ half.toRat := by
  obtain ⟨missing, hmissing, hhalf⟩ := half?_eq_some_iff.1 h
  obtain ⟨missing', hmissing', hhalf'⟩ := half?_eq_some_iff.1 h'
  have hmissingLe := ((missing_computes coverage').rounds missing' hmissing').le
    ((missing_computes coverage).rounds missing hmissing) (by linarith)
  exact ((half_computes missing').rounds half' hhalf').le ((half_computes missing).rounds half hhalf)
    (by linarith)

/-- What is taken off the probability. -/
def penalty (estimated requested : Amount) : ℚ :=
  (((shortfall? estimated requested).bind half?).map Decimal.toRat).getD 0

theorem penalty_of_none (h : shortfall? estimated requested = none) : penalty estimated requested = 0 := by
  rw [penalty, h]
  rfl

theorem penalty_of_some (h : shortfall? estimated requested = some coverage)
    (hhalf : half? coverage = some half) : penalty estimated requested = half.toRat := by
  rw [penalty, h, Option.bind_some, hhalf]
  rfl

theorem penalty_cases (estimated requested : Amount) :
    (shortfall? estimated requested = none ∧ penalty estimated requested = 0) ∨
    ∃ coverage half, shortfall? estimated requested = some coverage ∧ half? coverage = some half ∧
      half.negative = false ∧ half.toRat ≤ 50 ∧ penalty estimated requested = half.toRat := by
  cases hshort : shortfall? estimated requested with
  | none => exact Or.inl ⟨rfl, penalty_of_none hshort⟩
  | some coverage =>
      obtain ⟨-, -, -, hlt⟩ := shortfall?_eq_some_iff.1 hshort
      obtain ⟨half, hhalf, hsign, hle⟩ := exists_half? (shortfall?_nonneg hshort) hlt
      exact Or.inr ⟨coverage, half, rfl, hhalf, hsign, hle, penalty_of_some hshort hhalf⟩

theorem penalty_nonneg (estimated requested : Amount) : 0 ≤ penalty estimated requested := by
  obtain ⟨-, hzero⟩ | ⟨coverage, half, -, -, hsign, -, heq⟩ := penalty_cases estimated requested
  · exact hzero.ge
  · exact heq ▸ Decimal.toRat_nonneg hsign

theorem penalty_le (estimated requested : Amount) : penalty estimated requested ≤ 50 := by
  obtain ⟨-, hzero⟩ | ⟨coverage, half, -, -, -, hle, heq⟩ := penalty_cases estimated requested
  · rw [hzero]
    norm_num
  · exact heq ▸ hle

theorem penalty_antitone (hestimated : estimated ≤ estimated') (hrequested : requested' ≤ requested) :
    penalty estimated' requested' ≤ penalty estimated requested := by
  obtain ⟨-, hzero⟩ | ⟨coverage', half', hshort', hhalf', -, -, heq'⟩ :=
    penalty_cases estimated' requested'
  · exact hzero ▸ penalty_nonneg estimated requested
  · obtain ⟨coverage, hshort, hle⟩ := shortfall?_mono hestimated hrequested hshort'
    obtain ⟨-, -, -, hlt⟩ := shortfall?_eq_some_iff.1 hshort
    obtain ⟨half, hhalf, -, -⟩ := exists_half? (shortfall?_nonneg hshort) hlt
    rw [heq', penalty_of_some hshort hhalf]
    exact half?_antitone hhalf hhalf' hle

/-! ### Hundredths -/

/-- Rounded to a decimal and then to two places, the number has so many hundredths. -/
def InHundredths (x : ℚ) (n : ℤ) : Prop := ∃ d, Decimal.Rounds x d ∧ RoundsTo (d.toRat * 100) n

namespace InHundredths

variable {x y : ℚ} {m n : ℤ}

theorem le (hm : InHundredths x m) (hn : InHundredths y n) (hle : x ≤ y) : m ≤ n := by
  obtain ⟨d, hd, hround⟩ := hm
  obtain ⟨d', hd', hround'⟩ := hn
  exact hround.le hround' (mul_le_mul_of_nonneg_right (hd.le hd' hle) (by norm_num))

theorem of_div (n : ℤ) (hn : n.natAbs < 2 ^ 96) : InHundredths (n / 100) n := by
  obtain ⟨d, hd⟩ := Decimal.exists_toRat_eq n hn (by norm_num : 2 ≤ 28)
  have hvalue : d.toRat = n / 100 := by
    rw [hd]
    norm_num
  refine ⟨d, Decimal.Rounds.of_eq hvalue, ?_⟩
  rw [hvalue, div_mul_cancel₀ _ (by norm_num)]
  exact RoundsTo.intCast n

theorem le_of_le_div (h : InHundredths x m) (hn : n.natAbs < 2 ^ 96) (hle : x ≤ n / 100) : m ≤ n :=
  h.le (of_div n hn) hle

theorem le_of_div_le (h : InHundredths x m) (hn : n.natAbs < 2 ^ 96) (hle : (n : ℚ) / 100 ≤ x) : n ≤ m :=
  (of_div n hn).le h hle

/-- Two hundredths between the numbers leave one between their hundredths. -/
theorem lt (hm : InHundredths x m) (hn : InHundredths y n) (hlow : -2 ^ 64 ≤ x) (hhigh : y ≤ 2 ^ 64)
    (hgap : x + 2 / 100 ≤ y) : m < n := by
  have hceil := Int.le_ceil (x * 100)
  have hceil' := Int.ceil_lt_add_one (x * 100)
  generalize ⌈x * 100⌉ = k at *
  have hk : -2 ^ 71 ≤ k ∧ k ≤ 2 ^ 71 := by
    have hlow' : (-2 ^ 71 : ℚ) ≤ k := by linarith
    have hhigh' : (k : ℚ) ≤ 2 ^ 71 := by linarith
    exact ⟨by exact_mod_cast hlow', by exact_mod_cast hhigh'⟩
  have hmk : m ≤ k := hm.le_of_le_div (by omega) (by linarith)
  have hkn : k + 1 ≤ n := by
    refine hn.le_of_div_le (by omega) ?_
    push_cast
    linarith
  omega

end InHundredths

/-! ### The score -/

/-- What is left of a percentage that loses no more than half of a hundred. -/
theorem exists_sub? {base : Decimal} (hbase : base.negative = false) (hhalf : half.negative = false)
    (hle : half.toRat ≤ 50) :
    ∃ (rest : Decimal) (n : ℤ), base.sub? half = some rest ∧ rest.Proper ∧
      (rest.roundTo 2).toRat = n / 100 ∧ InHundredths (base.toRat - half.toRat) n := by
  have hbaseNonneg := Decimal.toRat_nonneg hbase
  have hhalfNonneg := Decimal.toRat_nonneg hhalf
  have hsmall := (Decimal.Rounds.of_eq (d := base) rfl).abs_lt
  rw [abs_of_nonneg hbaseNonneg] at hsmall
  have hcomputes := Decimal.sub?_computes base half
  obtain ⟨rest, hrest⟩ := hcomputes.defined (by
    rw [← lt_sub_iff_add_lt, abs_lt]
    constructor <;> linarith)
  obtain ⟨n, hvalue, hround⟩ := Decimal.exists_toRat_roundTo 2 rest
  norm_num at hvalue hround
  exact ⟨rest, n, hrest, (Decimal.Proper.of_nonneg hbase).sub? (Decimal.Proper.of_nonneg hhalf) hrest, hvalue,
    rest, hcomputes.rounds rest hrest, hround⟩

/-- No step of the computation is without a result, and the last one finds the hundredths of the probability
less the penalty. -/
theorem exists_exactScore? (probability : ℕ) (estimated requested : Amount) :
    ∃ (d : Decimal) (n : ℤ), exactScore? probability estimated requested = some d ∧
      d.Proper ∧ d.scale ≤ 2 ∧ d.toRat = n / 100 ∧
      InHundredths ((Decimal.ofNat probability).toRat - penalty estimated requested) n := by
  have hsign := Decimal.ofNat_nonneg probability
  have hscale := Decimal.scale_ofNat probability
  unfold exactScore?
  generalize Decimal.ofNat probability = base at *
  obtain ⟨hshort, hzero⟩ | ⟨coverage, half, hshort, hhalf, hhalfSign, hhalfLe, hpenalty⟩ :=
    penalty_cases estimated requested
  · have hvalue : base.toRat * 100 = (base.mantissa * 100 : ℤ) := by
      rw [Decimal.toRat_of_nonneg hsign, hscale, pow_zero, div_one]
      push_cast
      rfl
    refine ⟨base, base.mantissa * 100, ?_, Decimal.Proper.of_nonneg hsign, by omega, ?_, base, ?_, ?_⟩
    · rw [hshort]
      rfl
    · rw [← hvalue, mul_div_cancel_right₀ _ (by norm_num)]
    · exact Decimal.Rounds.of_eq (by rw [hzero, sub_zero])
    · rw [hvalue]
      exact RoundsTo.intCast _
  · obtain ⟨missing, hmissing, hdiv⟩ := half?_eq_some_iff.1 hhalf
    obtain ⟨rest, n, hrest, hproper, hvalue, hround⟩ := exists_sub? hsign hhalfSign hhalfLe
    refine ⟨rest.roundTo 2, n, ?_, hproper.roundTo 2, Decimal.scale_roundTo_le 2 rest, hvalue, ?_⟩
    · simp [hshort, hmissing, hdiv, hrest]
    · rw [hpenalty]
      exact hround

/-- The score is that many hundredths. -/
structure HasScore (probability : ℕ) (estimated requested : Amount) (n : ℤ) : Prop where
  inHundredths : InHundredths (probability - penalty estimated requested) n
  exact : ∃ d, exactScore? probability estimated requested = some d ∧ d.toRat = n / 100
  score_eq : score probability estimated requested = .ofHundredths n
  lower : 100 * probability - 5000 ≤ n
  upper : n ≤ 100 * probability

theorem exists_hasScore {probability : ℕ} (h : probability < 2 ^ 8) (estimated requested : Amount) :
    ∃ n, HasScore probability estimated requested n := by
  obtain ⟨d, n, hexact, hproper, hscale, hvalue, hround⟩ :=
    exists_exactScore? probability estimated requested
  have hpenalty := penalty_nonneg estimated requested
  have hpenaltyLe := penalty_le estimated requested
  rw [Decimal.toRat_ofNat (h.trans (by norm_num))] at hround
  have hlower : 100 * probability - 5000 ≤ n := by
    refine hround.le_of_div_le (by omega) ?_
    push_cast
    linarith
  have hupper : n ≤ 100 * probability := by
    refine hround.le_of_le_div (by omega) ?_
    push_cast
    linarith
  refine ⟨n, hround, ⟨d, hexact, hvalue⟩, ?_, hlower, hupper⟩
  rw [score, hexact, Option.getD_some]
  exact hproper.toBinary64_eq_ofHundredths hscale hvalue (by omega)

namespace HasScore

variable {probability probability' : ℕ} {m n : ℤ}

theorem natAbs_lt (hn : HasScore probability estimated requested n) (h : probability < 2 ^ 8) :
    n.natAbs < 2 ^ 40 := by
  have := hn.lower
  have := hn.upper
  omega

theorem score_le (hm : HasScore probability estimated requested m)
    (hn : HasScore probability' estimated' requested' n) (h : probability < 2 ^ 8)
    (h' : probability' < 2 ^ 8)
    (hle : (probability : ℚ) - penalty estimated requested ≤ probability' - penalty estimated' requested') :
    score probability estimated requested ≤ score probability' estimated' requested' := by
  rw [hm.score_eq, hn.score_eq]
  exact Binary64.ofHundredths_le (hm.inHundredths.le hn.inHundredths hle) (hm.natAbs_lt h) (hn.natAbs_lt h')

theorem score_lt (hm : HasScore probability estimated requested m)
    (hn : HasScore probability' estimated requested n) (h : probability' < 2 ^ 8)
    (hlt : probability < probability') :
    score probability estimated requested < score probability' estimated requested := by
  have hpenalty := penalty_nonneg estimated requested
  have hpenaltyLe := penalty_le estimated requested
  have hgap : (probability : ℚ) + 1 ≤ probability' := by exact_mod_cast hlt
  have hnonneg : (0 : ℚ) ≤ probability := by positivity
  have hsmall : (probability' : ℚ) ≤ 2 ^ 8 := by exact_mod_cast h.le
  have hmn : m < n :=
    hm.inHundredths.lt hn.inHundredths (by linarith) (by linarith) (by linarith)
  rw [hm.score_eq, hn.score_eq]
  exact Binary64.ofHundredths_lt hmn (hm.natAbs_lt (hlt.trans h)) (hn.natAbs_lt h)

theorem score_eq_ofNat (hn : HasScore probability estimated requested n) (h : probability < 2 ^ 8)
    (hnone : shortfall? estimated requested = none) :
    score probability estimated requested = .ofNat probability := by
  have hround := hn.inHundredths
  rw [penalty_of_none hnone, sub_zero] at hround
  have hlow : 100 * (probability : ℤ) ≤ n := by
    refine hround.le_of_div_le (by omega) ?_
    push_cast
    linarith
  rw [hn.score_eq, le_antisymm hn.upper hlow, Binary64.ofHundredths_hundred_mul]

end HasScore

/-- For every probability that fits into a byte and any two amounts, the exact score is computed without a
fault, and the score is the double nearest to it: a number of hundredths between the probability less 50 and
the probability, and the probability itself where nothing is missing. More that is estimated never lowers the
score, more that is requested never raises it, and a greater probability gives a greater score. -/
theorem score_bounds_and_order {probability : ℕ} (h : probability < 2 ^ 8) (estimated requested : Amount) :
    (∃ (d : Decimal) (n : ℤ), exactScore? probability estimated requested = some d ∧ d.toRat = n / 100 ∧
      score probability estimated requested = .ofHundredths n ∧
      100 * probability - 5000 ≤ n ∧ n ≤ 100 * probability) ∧
    (requested.isZero = true ∨ requested ≤ estimated →
      score probability estimated requested = .ofNat probability) ∧
    (∀ more, estimated ≤ more →
      score probability estimated requested ≤ score probability more requested) ∧
    (∀ more, requested ≤ more →
      score probability estimated more ≤ score probability estimated requested) ∧
    ∀ less < probability, score less estimated requested < score probability estimated requested := by
  obtain ⟨n, hn⟩ := exists_hasScore h estimated requested
  refine ⟨?bounds, ?full, ?estimated, ?requested, ?probability⟩
  case bounds =>
    obtain ⟨d, hexact, hvalue⟩ := hn.exact
    exact ⟨d, n, hexact, hvalue, hn.score_eq, hn.lower, hn.upper⟩
  case full =>
    intro hfull
    exact hn.score_eq_ofNat h (shortfall?_eq_none hfull)
  case estimated =>
    intro more hmore
    obtain ⟨m, hm⟩ := exists_hasScore h more requested
    have hpenalty := penalty_antitone hmore (Amount.le_refl requested)
    exact hn.score_le hm h h (by linarith)
  case requested =>
    intro more hmore
    obtain ⟨m, hm⟩ := exists_hasScore h estimated more
    have hpenalty := penalty_antitone (Amount.le_refl estimated) hmore
    exact hm.score_le hn h h (by linarith)
  case probability =>
    intro less hless
    obtain ⟨m, hm⟩ := exists_hasScore (hless.trans h) estimated requested
    exact hm.score_lt hn h hless

theorem score_bounds_and_order_half : 80 < 2 ^ 8 ∧
    score 80 (.ofNat 100) (.ofNat 100) = .ofNat 80 ∧
    score 80 (.ofNat 50) (.ofNat 100) ≤ score 80 (.ofNat 100) (.ofNat 100) ∧
    score 79 (.ofNat 50) (.ofNat 100) < score 80 (.ofNat 50) (.ofNat 100) := by
  have h : 80 < 2 ^ 8 := by decide
  obtain ⟨-, hfull, -, -, -⟩ := score_bounds_and_order h (.ofNat 100) (.ofNat 100)
  obtain ⟨-, -, hestimated, -, hprobability⟩ := score_bounds_and_order h (.ofNat 50) (.ofNat 100)
  exact ⟨h, hfull (Or.inr (by decide)), hestimated (.ofNat 100) (by decide), hprobability 79 (by decide)⟩

example : score 80 (.ofNat 50) (.ofNat 100) = .ofNat 55 := by decide +kernel

end Lending.Offer
