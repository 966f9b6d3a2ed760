import Lending.Engine.Intake
import Lending.Proofs.Engine.Refusal
import Lending.Session

/-!
# What is accepted once is accepted throughout

A request is checked as it comes in, its amount as it is made, the application as it is answered, and the
options of the settings when these are read. What the first of these checks accepts, none of the later ones
refuses: a valid request becomes an application with the same contents, and every engine answers that.
-/

namespace Lending

/-! ### Positive amounts -/

theorem Decimal.le_zero_iff {d : Decimal} : d ≤ zero ↔ d.negative = true ∨ d.mantissa = 0 := by
  have hzero : zero.signed * 10 ^ d.scale = 0 := Int.zero_mul _
  have hone : d.signed * 10 ^ zero.scale = d.signed := Int.mul_one _
  rw [le_def, hzero, hone]
  unfold signed
  cases d.negative
  · simp only [Bool.false_eq_true, if_false, false_or]
    omega
  · simp only [if_true, true_or, iff_true]
    omega

theorem Amount.ofDecimal_of_pos {d : Decimal} (h : ¬ d ≤ .zero) :
    ∃ amount, ofDecimal d = .ok amount ∧ Decimal.Same amount.value d ∧ amount.isZero = false := by
  rw [Decimal.le_zero_iff, not_or] at h
  obtain ⟨hsign, hmantissa⟩ := h
  have hpositive : d.normalize.negative = false := by simp [Decimal.normalize, hsign]
  refine ⟨⟨d.normalize, hpositive, d.normalize_normal⟩, ?_, d.normalize_same, ?_⟩
  · rw [ofDecimal, ofDecimal?, dif_pos hpositive]
  · have hnormal : d.normalize.mantissa ≠ 0 := mt Decimal.stripZeros_fst_eq_zero.1 hmantissa
    simpa [isZero, Decimal.isZero] using hnormal

/-! ### Requests that come in -/

namespace Intake

variable {i : Intake}

/-- What is wrong with a request: who makes it is not named, nothing is requested, or its options are out of
range. -/
def IsFaulty (i : Intake) : Prop :=
  Text.IsBlank i.tenant ∨ Text.IsBlank i.user ∨ i.amount ≤ .zero ∨
    ∃ options ∈ i.options?, 100 < options.minProbability ∨ options.maxPartners = 0

theorem validate_cases (i : Intake) :
    (i.IsFaulty ∧ ∃ reason, i.validate = .error (.validation reason)) ∨
      (¬ i.IsFaulty ∧ i.validate = .ok ()) := by
  unfold validate IsFaulty
  split
  · rename_i htenant
    exact Or.inl ⟨Or.inl htenant, _, rfl⟩
  · rename_i htenant
    split
    · rename_i huser
      exact Or.inl ⟨Or.inr (Or.inl huser), _, rfl⟩
    · rename_i huser
      split
      · rename_i hamount
        exact Or.inl ⟨Or.inr (Or.inr (Or.inl hamount)), _, rfl⟩
      · rename_i hamount
        cases hoptions : i.options? with
        | none =>
            refine Or.inr ⟨?_, rfl⟩
            simp only [htenant, huser, hamount, false_or]
            rintro ⟨options, hmem, -⟩
            cases hmem
        | some options =>
            rcases options.validate_cases with ⟨hfaulty, reason, hreason⟩ | ⟨hprobability, hpartners, hok⟩
            · exact Or.inl ⟨Or.inr (Or.inr (Or.inr ⟨options, rfl, hfaulty⟩)), reason, hreason⟩
            · refine Or.inr ⟨?_, hok⟩
              simp only [htenant, huser, hamount, false_or]
              rintro ⟨other, hmem, hfaulty⟩
              obtain rfl := Option.some.inj hmem
              exact hfaulty.elim hprobability hpartners

theorem validate_eq_ok_iff : i.validate = .ok () ↔ ¬ i.IsFaulty := by
  rcases i.validate_cases with ⟨hfaulty, reason, hreason⟩ | ⟨hvalid, hok⟩
  · rw [hreason]
    exact ⟨fun h => (nomatch h), fun h => absurd hfaulty h⟩
  · exact ⟨fun _ => hvalid, fun _ => hok⟩

theorem application_of_error {fault : ServiceFault} (h : i.validate = .error fault) :
    i.application = .error fault := by
  rw [application, h]
  rfl

/-- What has been found valid becomes an application with the same contents. -/
theorem application_of_ok (h : i.validate = .ok ()) :
    ∃ amount, i.application =
        .ok (⟨i.tenant, i.user, i.profile, ⟨amount, i.product, i.purpose, i.urgency⟩⟩, i.options?) ∧
      Decimal.Same amount.value i.amount ∧ amount ≠ .zero := by
  have hpositive : ¬ i.amount ≤ .zero := fun hle =>
    validate_eq_ok_iff.1 h (Or.inr (Or.inr (Or.inl hle)))
  obtain ⟨amount, hamount, hsame, hnonzero⟩ := Amount.ofDecimal_of_pos hpositive
  have hrequest : Request.make amount i.product i.purpose i.urgency =
      .ok ⟨amount, i.product, i.purpose, i.urgency⟩ := by
    rw [Request.make, hnonzero]
    rfl
  refine ⟨amount, ?_, hsame, fun hzero => ?_⟩
  · rw [application, h, hamount]
    simp only [Except.mapError, bind, Except.bind, hrequest]
    rfl
  · rw [Amount.isZero_iff.2 hzero] at hnonzero
    cases hnonzero

end Intake

/-! ### Options of the settings -/

theorem Settings.options_of_validate {s : Settings} (h : s.validate = .ok ()) :
    ¬ 100 < s.options.minProbability ∧ s.options.maxPartners ≠ 0 := by
  unfold validate at h
  split at h
  · cases h
  · rename_i hchecks
    rw [List.find?_eq_none] at hchecks
    simp only [checks, List.forall_mem_cons] at hchecks
    obtain ⟨-, hprobability, hpartners, -⟩ := hchecks
    simpa [options] using And.intro hprobability hpartners

theorem Intake.options_of_validate {i : Intake} {s : Settings} (hi : i.validate = .ok ())
    (hs : s.validate = .ok ()) :
    ¬ 100 < (i.options?.getD s.options).minProbability ∧ (i.options?.getD s.options).maxPartners ≠ 0 := by
  have hvalid := validate_eq_ok_iff.1 hi
  cases hoptions : i.options? with
  | none => exact s.options_of_validate hs
  | some options =>
      have hrange : ¬ (100 < options.minProbability ∨ options.maxPartners = 0) := fun hfaulty =>
        hvalid (Or.inr (Or.inr (Or.inr ⟨options, hoptions, hfaulty⟩)))
      exact not_or.1 hrange

/-- **A valid request is accepted throughout.** Exactly the valid requests become applications; from any
other the fault of the validation is what comes, and it tells that the input is not valid. Under valid
settings, every engine answers the application of a valid request, with the options of the request or else
of the settings. The application is as requested, and its amount is the same number. -/
theorem Intake.accepted_throughout (i : Intake) :
    ((∃ accepted, i.application = .ok accepted) ↔ i.validate = .ok ()) ∧
    (∀ fault, i.application = .error fault → i.validate = .error fault ∧ fault.isValidation = true) ∧
    ∀ s : Settings, i.validate = .ok () → s.validate = .ok () →
      ∃ a, i.application = .ok (a, i.options?) ∧ a.tenant = i.tenant ∧ a.user = i.user ∧
        a.profile = i.profile ∧ a.request.product = i.product ∧ a.request.purpose = i.purpose ∧
        a.request.urgency = i.urgency ∧ Decimal.Same a.request.amount.value i.amount ∧
        ∀ (e : Engine) (arrival finish : Nat), ∃ assessment,
          e.reply ⟨a, i.options?.getD s.options⟩ arrival finish = .ok assessment := by
  refine ⟨?accepts, fun fault happlication => ?fails, fun s hi hs => ?answers⟩
  case accepts =>
    rcases i.validate_cases with ⟨-, reason, hreason⟩ | ⟨-, hok⟩
    · rw [application_of_error hreason, hreason]
      exact ⟨fun ⟨_, h⟩ => (nomatch h), fun h => (nomatch h)⟩
    · obtain ⟨amount, happlication, -⟩ := application_of_ok hok
      exact ⟨fun _ => hok, fun _ => ⟨_, happlication⟩⟩
  case fails =>
    rcases i.validate_cases with ⟨-, reason, hreason⟩ | ⟨-, hok⟩
    · rw [application_of_error hreason] at happlication
      obtain rfl := Except.error.inj happlication
      exact ⟨hreason, rfl⟩
    · obtain ⟨amount, haccepted, -⟩ := application_of_ok hok
      rw [haccepted] at happlication
      cases happlication
  case answers =>
    obtain ⟨amount, happlication, hsame, hnonzero⟩ := application_of_ok hi
    obtain ⟨hprobability, hpartners⟩ := options_of_validate hi hs
    have hnamed := validate_eq_ok_iff.1 hi
    refine ⟨_, happlication, rfl, rfl, rfl, rfl, rfl, rfl, hsame, fun e arrival finish => ?_⟩
    refine Engine.reply_of_not_isFaulty ?_ e arrival finish
    rintro (h | h | h | h | h)
    · exact hprobability h
    · exact hpartners h
    · exact hnamed (Or.inl h)
    · exact hnamed (Or.inr (Or.inl h))
    · exact hnonzero h

theorem Intake.accepted_throughout_onePointFifty :
    let i : Intake := { Session.sampleRequest with amount := ⟨false, 150, 2, by decide, by decide⟩ }
    i.validate = .ok () ∧ Settings.standard.validate = .ok () ∧
    ∃ a, i.application = .ok (a, none) ∧ Decimal.Same a.request.amount.value i.amount ∧
      ∀ (e : Engine) (arrival finish : Nat), ∃ assessment,
        e.reply ⟨a, Settings.standard.options⟩ arrival finish = .ok assessment := by
  intro i
  have hi : i.validate = .ok () := by decide +kernel
  have hs : Settings.standard.validate = .ok () := by decide +kernel
  obtain ⟨-, -, hanswers⟩ := accepted_throughout i
  obtain ⟨a, happlication, -, -, -, -, -, -, hsame, hreply⟩ := hanswers .standard hi hs
  exact ⟨hi, hs, a, happlication, hsame, hreply⟩

end Lending
