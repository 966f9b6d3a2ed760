import Mathlib.Data.List.Basic
import Lending.Partner.Policy

/-!
# Whose a reference is

A partner takes a reference for its own by the way it begins: with the partner's identifier and a hyphen.
The reference of an application that was submitted begins so with the identifier of the partner it was
submitted to. With the identifier of another partner it begins so only if the two identifiers overlap:
if the partner's continues the other's behind a hyphen, or the other way round and the universal identifier
in the reference happens to go on like the rest.
-/

namespace Lending

/-- Whether a partner that goes by `id` takes for its own what `submitter` called by the universal
identifier `u`. -/
def PartnerId.Overlaps (id submitter : PartnerId) (u : UniversalId) : Prop :=
  id.toList ++ ['-'] <+: submitter.toList ∨
    ∃ rest, id.toList = submitter.toList ++ '-' :: rest ∧ rest ++ ['-'] <+: u.text.toList

theorem PartnerId.not_overlaps {id submitter : PartnerId} {u : UniversalId} (hid : '-' ∉ id.toList)
    (hsubmitter : '-' ∉ submitter.toList) : ¬ id.Overlaps submitter u := by
  rintro (hbegins | ⟨rest, heq, -⟩)
  · exact hsubmitter (hbegins.subset (List.mem_append_right id.toList List.mem_cons_self))
  · exact hid (heq ▸ List.mem_append_right submitter.toList List.mem_cons_self)

namespace Policy

variable {p q : Policy} {reference : String}

/-- The partner finds an application of its own under the reference. -/
structure Accepts (p : Policy) (reference : String) : Prop where
  track : p.track reference = .ok .underReview
  offers : p.offers reference = .ok [⟨reference ++ "-offer-1", p.maxAmount, p.minRate, 12⟩]

/-- The partner says that it does not know the reference. -/
structure Rejects (p : Policy) (reference : String) : Prop where
  track : p.track reference = .error (.rejected ("unknown reference '" ++ reference ++ "'"))
  offers : p.offers reference = .error (.rejected ("unknown reference '" ++ reference ++ "'"))

/-! ### By the beginning -/

theorem accepts_of_owns (henabled : p.enabled) (howns : p.owns reference) : p.Accepts reference := by
  have howned : p.ensureOwned reference = .ok () := by
    rw [ensureOwned, ensureEnabled, if_pos henabled]
    exact if_pos howns
  refine ⟨?_, ?_⟩
  · rw [track, howned]
    rfl
  · rw [offers, howned]
    rfl

theorem rejects_of_not_owns (henabled : p.enabled) (howns : ¬ p.owns reference) : p.Rejects reference := by
  have hunknown :
      p.ensureOwned reference = .error (.rejected ("unknown reference '" ++ reference ++ "'")) := by
    rw [ensureOwned, ensureEnabled, if_pos henabled]
    exact if_neg howns
  refine ⟨?_, ?_⟩
  · rw [track, hunknown]
    rfl
  · rw [offers, hunknown]
    rfl

theorem owns_iff : p.owns reference ↔ p.id.toList ++ ['-'] <+: reference.toList := List.isPrefixOf_iff_prefix

/-! ### References of applications that were submitted -/

theorem concat_prefix_append_cons_iff {start whole tail : List Char} {c : Char} :
    start ++ [c] <+: whole ++ c :: tail ↔
      start ++ [c] <+: whole ∨ start = whole ∨ ∃ rest, start = whole ++ c :: rest ∧ rest ++ [c] <+: tail := by
  constructor
  · intro h
    have hstart : start <+: whole ++ c :: tail := (List.prefix_append start [c]).trans h
    rcases List.prefix_or_prefix_of_prefix hstart (List.prefix_append whole (c :: tail)) with
      ⟨more, rfl⟩ | ⟨more, rfl⟩
    · rw [List.append_assoc, List.prefix_append_right_inj] at h
      cases more with
      | nil => exact .inr (.inl (List.append_nil start).symm)
      | cons d more =>
          obtain ⟨rfl, -⟩ := List.cons_prefix_cons.1 h
          exact .inl ⟨more, by simp⟩
    · rw [List.append_assoc, List.prefix_append_right_inj] at h
      cases more with
      | nil => exact .inr (.inl (List.append_nil whole))
      | cons d rest =>
          obtain ⟨rfl, hrest⟩ := List.cons_prefix_cons.1 h
          exact .inr (.inr ⟨rest, rfl, hrest⟩)
  · rintro (h | rfl | ⟨rest, rfl, hrest⟩)
    · exact h.trans (List.prefix_append whole (c :: tail))
    · exact (List.prefix_append_right_inj start).2 (List.cons_prefix_cons.2 ⟨rfl, List.nil_prefix⟩)
    · rw [List.append_assoc, List.prefix_append_right_inj]
      exact List.cons_prefix_cons.2 ⟨rfl, hrest⟩

theorem toList_reference (p : Policy) (u : UniversalId) :
    (p.id ++ "-" ++ u.text).toList = p.id.toList ++ '-' :: u.text.toList := by
  rw [String.toList_append, String.toList_append, List.append_assoc]
  rfl

theorem owns_own (p : Policy) (u : UniversalId) : p.owns (p.id ++ "-" ++ u.text) := by
  rw [owns_iff, toList_reference, concat_prefix_append_cons_iff]
  exact .inr (.inl rfl)

theorem owns_other_iff (hid : p.id ≠ q.id) (u : UniversalId) :
    q.owns (p.id ++ "-" ++ u.text) ↔ PartnerId.Overlaps q.id p.id u := by
  have hne : q.id.toList ≠ p.id.toList := fun heq => hid (String.toList_injective heq).symm
  rw [owns_iff, toList_reference, concat_prefix_append_cons_iff, PartnerId.Overlaps, or_iff_right hne]

theorem submit_offered {application : Application} (henabled : p.enabled)
    (hoffered : p.products.contains application.request.product) (u : UniversalId) :
    p.submit application u = .ok (p.id ++ "-" ++ u.text) := by
  rw [submit, ensureEnabled, if_pos henabled]
  exact if_pos hoffered

/-- **References of one partner.** The partner to which an application was submitted finds it under the
reference that it gave. Another one rejects the reference, except where the identifiers of the two overlap:
there it finds an application as well. -/
theorem accepts_reference_iff (hp : p.enabled) (hq : q.enabled) (hid : p.id ≠ q.id) (u : UniversalId) :
    let reference := p.id ++ "-" ++ u.text
    (∀ application : Application, p.products.contains application.request.product →
      p.submit application u = .ok reference) ∧
    p.Accepts reference ∧
    (¬ PartnerId.Overlaps q.id p.id u → q.Rejects reference) ∧
    (PartnerId.Overlaps q.id p.id u → q.Accepts reference) := by
  intro reference
  refine ⟨fun application hoffered => submit_offered hp hoffered u, accepts_of_owns hp (owns_own p u),
    fun hapart => ?apart, fun hoverlaps => ?overlapping⟩
  case apart => exact rejects_of_not_owns hq fun howns => hapart ((owns_other_iff hid u).1 howns)
  case overlapping => exact accepts_of_owns hq ((owns_other_iff hid u).2 hoverlaps)

/-- A universal identifier of the kind that is drawn at random. -/
def drawnId : UniversalId := ⟨0x3f2b8c1e9d4a4c6b8e2f1a2b3c4d5e6f, by decide⟩

theorem accepts_reference_iff_acme_bank :
    let acme := named "acme" "Acme"
    let bank := named "bank" "Bank"
    (acme.enabled ∧ bank.enabled ∧ acme.id ≠ bank.id) ∧
    acme.Accepts (acme.id ++ "-" ++ drawnId.text) ∧ bank.Rejects (acme.id ++ "-" ++ drawnId.text) := by
  intro acme bank
  have hid : acme.id ≠ bank.id := by decide
  obtain ⟨-, haccepts, hrejects, -⟩ := accepts_reference_iff (p := acme) (q := bank) rfl rfl hid drawnId
  exact ⟨⟨rfl, rfl, hid⟩, haccepts, hrejects (PartnerId.not_overlaps (by decide) (by decide))⟩

/-- The identifier of one partner begins with that of another and a hyphen, so both find an application
under a reference of the one. -/
theorem accepts_reference_of_another :
    let submitter := named "bank-a-x" "Bank A X"
    let other := named "bank-a" "Bank A"
    let application : Application := ⟨"t1", "u1", .empty, ⟨.ofNat 500000, .workingCapital, none, none⟩⟩
    let reference := "bank-a-x-3f2b8c1e-9d4a-4c6b-8e2f-1a2b3c4d5e6f"
    (submitter.enabled ∧ other.enabled ∧ submitter.id ≠ other.id ∧
      ¬ Text.IsBlank submitter.id ∧ ¬ Text.IsBlank other.id) ∧
    submitter.submit application drawnId = .ok reference ∧
    other.Accepts reference ∧ ¬ other.Rejects reference := by
  intro submitter other application reference
  have haccepts : other.Accepts reference := accepts_of_owns rfl (by decide +kernel)
  refine ⟨⟨rfl, rfl, by decide, by decide +kernel, by decide +kernel⟩, by decide +kernel, haccepts, ?_⟩
  intro hrejects
  have htrack := haccepts.track.symm.trans hrejects.track
  cases htrack

end Policy
end Lending
