import Lending.Partner.Policy
import Lending.Proofs.Engine.Probing

/-!
# Time limits

Every question to a partner is on the clock for itself. It ends with its reply if that has come by the limit, and
at the limit if not, so what it comes to and when is the same whoever else is asked. A limit of a partner's own
only shortens that of the service.
-/

namespace Lending

/-- What a reply in time comes to. -/
def Reply.outcome : Reply → Outcome
  | .answer eligibility => .answered eligibility
  | .fault cause => .failed cause.message
  | .aborted => .failed "partner check aborted"

namespace Probe

variable {probe : Probe} {limit : Nat}

theorem settle_of_delay_le (h : probe.delay ≤ limit) : probe.settle limit = probe.reply.outcome := by
  rw [settle, if_pos h]
  cases hreply : probe.reply <;> rfl

theorem settle_of_lt_delay (h : limit < probe.delay) :
    probe.settle limit = .failed (PartnerFault.timeout limit).message := by
  rw [settle, if_neg (Nat.not_le.2 h)]

end Probe

theorem effectiveLimit_le (service own : Nat) : effectiveLimit service own ≤ service := by
  unfold effectiveLimit
  split
  · exact Nat.le_refl _
  · exact Nat.min_le_right _ _

theorem effectiveLimit_le_own (service : Nat) {own : Nat} (h : own ≠ 0) : effectiveLimit service own ≤ own := by
  rw [effectiveLimit, if_neg h]
  exact Nat.min_le_left _ _

/-! ### The clock -/

namespace Task

/-- What becomes of a question that is still open at this time, if anything. A reply comes before the limit. -/
def end? (t : Task) (time : Nat) : Option Outcome :=
  if t.probe.delay ≤ time then some t.probe.reply.outcome
  else if t.limit ≤ time then some (.failed (PartnerFault.timeout t.limit).message)
  else none

/-- What is known of a question at this time. The clock goes on by milliseconds. -/
def known? (t : Task) : (time : Nat) → Option Outcome
  | 0 => t.end? 0
  | time + 1 => (t.known? time).or (t.end? (time + 1))

variable {t : Task} {time : Nat}

theorem end?_of_lt (h : time < t.duration) : t.end? time = none := by
  obtain ⟨hdelay, hlimit⟩ := Nat.lt_min.1 h
  rw [end?, if_neg (Nat.not_le.2 hdelay), if_neg (Nat.not_le.2 hlimit)]

theorem end?_duration (t : Task) : t.end? t.duration = some t.outcome := by
  rw [end?, duration, outcome]
  rcases Nat.lt_or_ge t.limit t.probe.delay with hlimit | hdelay
  · rw [Nat.min_eq_right (Nat.le_of_lt hlimit), if_neg (Nat.not_le.2 hlimit), if_pos (Nat.le_refl _),
      Probe.settle_of_lt_delay hlimit]
  · rw [Nat.min_eq_left hdelay, if_pos (Nat.le_refl _), Probe.settle_of_delay_le hdelay]

theorem known?_of_lt (h : time < t.duration) : t.known? time = none := by
  induction time with
  | zero => exact end?_of_lt h
  | succ time ih => rw [known?, ih (Nat.lt_of_succ_lt h), end?_of_lt h, Option.or_none]

theorem known?_duration (t : Task) : t.known? t.duration = some t.outcome := by
  have hend := t.end?_duration
  cases hduration : t.duration with
  | zero =>
      rw [hduration] at hend
      exact hend
  | succ time =>
      rw [hduration] at hend
      rw [known?, known?_of_lt (hduration ▸ Nat.lt_succ_self time), hend, Option.none_or]

/-- Once a question has ended, its outcome stays what it is. -/
theorem known?_of_le (h : t.duration ≤ time) : t.known? time = some t.outcome := by
  induction h with
  | refl => exact t.known?_duration
  | step _ ih => rw [known?, ih, Option.some_or]

end Task

namespace Probing

/-- In whatever order the questions end, each comes to what it comes to by itself. -/
theorem getElem?_gather {service i probability : Nat} {profile : Profile} {partners : List (Partner × Nat)}
    {p : Partner} {order : List Nat} (hp : partners[i]? = some (p, probability))
    (horder : ∀ number < partners.length, number ∈ order) :
    (gather order (ask service profile partners))[i]? =
      some ((Task.start service profile p probability).candidate
        (Task.start service profile p probability).outcome) := by
  have horder : ∀ number < (ask service profile partners).length, number ∈ order := by
    rw [ask, List.length_map]
    exact horder
  rw [gather_eq_map horder, ask, List.map_map, List.getElem?_map, hp]
  rfl

/-- **Limits are a partner's own, and only shorten that of the service.** The limit of a partner is its own if it
has one, and never more than that of the service. Whoever else is asked, before or after it, and in whatever order
the questions end, the partner becomes the same candidate. Nothing is known of it until the reply comes or the
limit passes. A reply that takes no longer than the limit decides the outcome; where it takes longer, the
candidate has failed with a text that names the limit, and is offered the requested amount at a rate of 16 within
two or three days. -/
theorem candidate_within_limit (service : Nat) (profile : Profile) (p : Partner) (probability : Nat)
    (product : Product) (requested : Amount) :
    let limit := if p.timeout = 0 then service else min p.timeout service
    let probe := p.check profile
    (limit ≤ service ∧ (p.timeout ≠ 0 → limit ≤ p.timeout)) ∧
    ∃ c : Candidate,
      (c.id = p.id ∧ c.name = p.listing.name ∧ c.probability = probability) ∧
      (∀ (partners : List (Partner × Nat)) (i : Nat) order, partners[i]? = some (p, probability) →
        (∀ number < partners.length, number ∈ order) →
        (gather order (ask service profile partners))[i]? = some c) ∧
      (∀ time, (Task.start service profile p probability).known? time =
        if time < min probe.delay limit then none else some c.outcome) ∧
      (probe.delay ≤ limit → c.outcome = probe.reply.outcome) ∧
      (limit < probe.delay →
        c.outcome = .failed ("partner timed out after " ++ toString limit ++ "ms") ∧
        (c.offer product requested).rate = .ofNat 16 ∧ (c.offer product requested).amount = requested ∧
        (c.offer product requested).approvalTime = .ofDays 2 3) := by
  intro limit probe
  let t := Task.start service profile p probability
  refine ⟨⟨effectiveLimit_le service p.timeout, effectiveLimit_le_own service⟩, t.candidate t.outcome,
    ⟨rfl, rfl, rfl⟩, fun partners i order => getElem?_gather, fun time => ?known, Probe.settle_of_delay_le,
    fun hlate => ?late⟩
  case known =>
    show t.known? time = if time < t.duration then none else some t.outcome
    split
    · exact Task.known?_of_lt ‹_›
    · exact Task.known?_of_le (Nat.not_lt.1 ‹_›)
  case late =>
    have houtcome : t.outcome = .failed (PartnerFault.timeout limit).message := Probe.settle_of_lt_delay hlate
    exact ⟨houtcome, Candidate.offer_of_failed houtcome product requested⟩

/-- The limit of the first partner is its own, that of the second is too long for the service. -/
theorem candidate_within_limit_slow :
    let slow (id : PartnerId) (timeout delay : Nat) : Partner :=
      { (Policy.named id id).partner with timeout := timeout, check := fun _ => ⟨delay, .aborted⟩ }
    let partners := [(slow "hasty" 50 60, 80), (slow "patient" 9000 6000, 70), (slow "quick" 0 40, 60)]
    let outcomes := (gather [2, 0, 1] (ask 5000 .empty partners)).map Candidate.outcome
    outcomes[0]? = some (.failed (PartnerFault.timeout 50).message) ∧
    outcomes[1]? = some (.failed (PartnerFault.timeout 5000).message) ∧
    outcomes[2]? = some (.failed "partner check aborted") := by
  intro slow partners outcomes
  have horder : ∀ number < partners.length, number ∈ [2, 0, 1] := by decide
  obtain ⟨-, first, -, hfirst, -, -, hhasty⟩ :=
    candidate_within_limit 5000 .empty (slow "hasty" 50 60) 80 .workingCapital .zero
  obtain ⟨-, second, -, hsecond, -, -, hpatient⟩ :=
    candidate_within_limit 5000 .empty (slow "patient" 9000 6000) 70 .workingCapital .zero
  obtain ⟨-, third, -, hthird, -, hquick, -⟩ :=
    candidate_within_limit 5000 .empty (slow "quick" 0 40) 60 .workingCapital .zero
  simp only [outcomes, List.getElem?_map, hfirst partners 0 _ rfl horder, hsecond partners 1 _ rfl horder,
    hthird partners 2 _ rfl horder, Option.map_some]
  exact ⟨congrArg some (hhasty (by decide)).1, congrArg some (hpatient (by decide)).1,
    congrArg some (hquick (by decide))⟩

end Probing
end Lending
