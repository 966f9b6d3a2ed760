import Lending.Proofs.Engine.SingleFlight

/-!
# Refused calls

The only calls that fail are those with something wrong in them, and these fail before anything is done.
Everything else is answered: what may go wrong with the scorer's model or with a partner is settled inside
of the computation. The same holds for callers among others, at whatever point they are.
-/

namespace Lending

/-! ### What is wrong with a call -/

/-- The options are out of range, tenant or user is not named, or nothing is requested. -/
def Call.IsFaulty (call : Call) : Prop :=
  100 < call.options.minProbability ∨ call.options.maxPartners = 0 ∨
    Text.IsBlank call.application.tenant ∨ Text.IsBlank call.application.user ∨
    call.application.request.amount = .zero

theorem Options.validate_cases (o : Options) :
    ((100 < o.minProbability ∨ o.maxPartners = 0) ∧ ∃ reason, o.validate = .error (.validation reason)) ∨
      (¬ 100 < o.minProbability ∧ o.maxPartners ≠ 0 ∧ o.validate = .ok ()) := by
  unfold validate
  split
  · rename_i hprobability
    exact Or.inl ⟨Or.inl hprobability, _, rfl⟩
  · rename_i hprobability
    split
    · rename_i hpartners
      exact Or.inl ⟨Or.inr hpartners, _, rfl⟩
    · rename_i hpartners
      exact Or.inr ⟨hprobability, hpartners, rfl⟩

theorem Application.validate_cases (a : Application) :
    ((Text.IsBlank a.tenant ∨ Text.IsBlank a.user ∨ a.request.amount = .zero) ∧
        ∃ reason, a.validate = .error (.validation reason)) ∨
      (¬ Text.IsBlank a.tenant ∧ ¬ Text.IsBlank a.user ∧ a.request.amount ≠ .zero ∧
        a.validate = .ok ()) := by
  unfold validate
  split
  · rename_i htenant
    exact Or.inl ⟨Or.inl htenant, _, rfl⟩
  · rename_i htenant
    split
    · rename_i huser
      exact Or.inl ⟨Or.inr (Or.inl huser), _, rfl⟩
    · rename_i huser
      split
      · rename_i hzero
        exact Or.inl ⟨Or.inr (Or.inr (Amount.isZero_iff.1 hzero)), _, rfl⟩
      · rename_i hzero
        exact Or.inr ⟨htenant, huser, fun h => hzero (Amount.isZero_iff.2 h), rfl⟩

namespace Engine

theorem check_cases (call : Call) :
    (call.IsFaulty ∧ ∃ reason, check call.application call.options = .error (.validation reason)) ∨
      (¬ call.IsFaulty ∧ check call.application call.options = .ok ()) := by
  unfold check Call.IsFaulty
  rcases call.options.validate_cases with ⟨hfaulty, reason, hreason⟩ | ⟨hprobability, hpartners, hok⟩
  · refine Or.inl ⟨?_, reason, by rw [hreason]; rfl⟩
    exact hfaulty.imp_right Or.inl
  · rw [hok]
    rcases call.application.validate_cases with ⟨hfaulty, reason, hreason⟩ | ⟨htenant, huser, hamount, hok⟩
    · exact Or.inl ⟨Or.inr (Or.inr hfaulty), reason, hreason⟩
    · refine Or.inr ⟨?_, hok⟩
      simp only [hprobability, hpartners, htenant, huser, hamount, or_self, not_false_eq_true]

theorem check_eq_error_iff {call : Call} :
    (∃ fault, check call.application call.options = .error fault) ↔ call.IsFaulty := by
  rcases check_cases call with ⟨hfaulty, reason, hcheck⟩ | ⟨hvalid, hcheck⟩
  · exact ⟨fun _ => hfaulty, fun _ => ⟨_, hcheck⟩⟩
  · refine ⟨fun ⟨fault, hfault⟩ => ?_, fun hfaulty => absurd hfaulty hvalid⟩
    rw [hcheck] at hfault
    cases hfault

theorem isValidation_of_check {call : Call} {fault : ServiceFault}
    (h : check call.application call.options = .error fault) : fault.isValidation = true := by
  rcases check_cases call with ⟨-, reason, hcheck⟩ | ⟨-, hcheck⟩
  · rw [hcheck] at h
    exact Except.error.inj h ▸ rfl
  · rw [hcheck] at h
    cases h

/-! ### One call -/

theorem answer_of_isFaulty {call : Call} (h : call.IsFaulty) (e : Engine) (arrival finish : Nat) :
    ∃ fault, fault.isValidation = true ∧
      e.answer call.application call.options arrival finish = (.error fault, e) := by
  obtain ⟨fault, hcheck⟩ := check_eq_error_iff.2 h
  exact ⟨fault, isValidation_of_check hcheck, by simp only [answer, hcheck]⟩

theorem reply_of_not_isFaulty {call : Call} (h : ¬ call.IsFaulty) (e : Engine) (arrival finish : Nat) :
    ∃ assessment, e.reply call arrival finish = .ok assessment := by
  rcases e.answer_cases call arrival finish with
    ⟨fault, hcheck, -⟩ | ⟨entry, -, -, -, hanswer⟩ | ⟨-, hreply, -⟩
  · exact absurd (check_eq_error_iff.1 ⟨fault, hcheck⟩) h
  · exact ⟨entry.value, by rw [reply, hanswer]⟩
  · exact ⟨_, hreply⟩

/-- **Only faulty calls fail, and they do nothing.** In whatever state the engine is, and whatever its
scorer and its partners do, a call fails exactly if it is faulty; it then is told that its input is not
valid, and nothing of the engine changes. Any other call gets an assessment. -/
theorem reply_error_iff (e : Engine) (call : Call) (arrival finish : Nat) :
    ((∃ fault, e.reply call arrival finish = .error fault) ↔ call.IsFaulty) ∧
    (∀ fault, e.reply call arrival finish = .error fault →
      fault.isValidation = true ∧ (e.answer call.application call.options arrival finish).2 = e) ∧
    (¬ call.IsFaulty → ∃ assessment, e.reply call arrival finish = .ok assessment) := by
  refine ⟨⟨fun ⟨fault, hreply⟩ => ?faulty, fun hfaulty => ?fails⟩, fun fault hreply => ?unchanged,
    fun hvalid => reply_of_not_isFaulty hvalid e arrival finish⟩
  case faulty =>
    by_contra hvalid
    obtain ⟨assessment, hok⟩ := reply_of_not_isFaulty hvalid e arrival finish
    rw [hreply] at hok
    cases hok
  case fails =>
    obtain ⟨fault, -, hanswer⟩ := answer_of_isFaulty hfaulty e arrival finish
    exact ⟨fault, by rw [reply, hanswer]⟩
  case unchanged =>
    by_cases hfaulty : call.IsFaulty
    · obtain ⟨told, hvalidation, hanswer⟩ := answer_of_isFaulty hfaulty e arrival finish
      rw [reply, hanswer] at hreply
      obtain rfl := Except.error.inj hreply
      exact ⟨hvalidation, by rw [hanswer]⟩
    · obtain ⟨assessment, hok⟩ := reply_of_not_isFaulty hfaulty e arrival finish
      rw [hreply] at hok
      cases hok

end Engine

/-! ### Callers among others -/

namespace Caller.Checked

variable {c : Caller}

theorem answer_error_iff (h : c.Checked) {answer : Except ServiceFault Assessment}
    (hanswer : c.answer? = some answer) : (∃ fault, answer = .error fault) ↔ c.call.IsFaulty := by
  obtain ⟨given, hphase⟩ := Caller.answered_of_answer? (Option.isSome_of_mem hanswer)
  rw [Caller.answer?, hphase] at hanswer
  obtain rfl := Option.some.inj hanswer
  rw [← Engine.check_eq_error_iff]
  rcases h.answered hphase with ⟨fault, hcheck, rfl⟩ | ⟨hcheck, r, rfl, -⟩
  · exact ⟨fun _ => ⟨fault, hcheck⟩, fun _ => ⟨fault, rfl⟩⟩
  · rw [Caller.check] at hcheck
    constructor
    · rintro ⟨fault, herror⟩
      cases herror
    · rintro ⟨fault, hfault⟩
      rw [hcheck] at hfault
      cases hfault

end Caller.Checked

/-- However callers come and go together, those who are told of a fault are those with a faulty call. -/
theorem Traffic.answer_error_iff (scorer : Scorer) (config : EngineConfig) (capacity timeToLive : Nat)
    (moves : List Move) {c : Caller}
    (hc : c ∈ ((Traffic.start scorer config capacity timeToLive).run moves).callers)
    {answer : Except ServiceFault Assessment} (hanswer : c.answer? = some answer) :
    (∃ fault, answer = .error fault) ↔ c.call.IsFaulty :=
  (checked_run (List.forall_mem_nil _) moves c hc).answer_error_iff hanswer

end Lending
