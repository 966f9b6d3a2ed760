import Lending.Session
import Lending.Proofs.Engine.Operation
import Lending.Proofs.Partner.Registration

/-!
# Starting up

Settings that are found valid name distinct partners, and each of these has all that a registration asks
for, except perhaps a name: the validation does not look at names, but a registration does. So the partners
of valid settings are registered one after another, up to the first that has no name.
-/

namespace Lending

open Directory (Operation Answer)

/-! ### One partner -/

namespace Policy

variable {p : Policy}

/-- What a directory says that does not know the partner yet. -/
def admission (p : Policy) : Except PartnerFault Bool :=
  if Text.IsBlank p.name then .error (.invalidDescriptor p.id ["partner_name is required"]) else .ok true

theorem errors_partner (h : p.fault? = none) :
    p.partner.errors = if Text.IsBlank p.name then ["partner_name is required"] else [] := by
  obtain ⟨hid, hproducts, -⟩ := fault?_eq_none_iff.1 h
  have hoffers : p.products.isEmpty = false := by simpa using hproducts
  have hcapable : (Vocabulary.terms.filter fun capability : Capability =>
      !Vocabulary.terms.contains capability) = [] := rfl
  simp only [Partner.errors, partner, listing, hid, hoffers, hcapable, List.nil_append, List.map_nil,
    List.append_nil, Bool.false_eq_true, if_false]
  rfl

/-- The registration of a partner that is new and has nothing wrong with it fails if the name is blank. -/
theorem register_partner (h : p.fault? = none) {d : Directory} (hnew : d.find? p.id = none) :
    d.register p.partner =
      (p.admission, if Text.IsBlank p.name then d else ⟨d.partners ++ [p.partner]⟩) := by
  have hfind : d.find? p.partner.id = none := hnew
  by_cases hname : Text.IsBlank p.name
  · have herrors : p.partner.errors = ["partner_name is required"] := by
      rw [errors_partner h, if_pos hname]
    rw [Directory.register, herrors, admission, if_pos hname, if_pos hname]
    rfl
  · have herrors : p.partner.errors = [] := by rw [errors_partner h, if_neg hname]
    rw [Directory.register, herrors, hfind, admission, if_neg hname, if_neg hname]
    rfl

end Policy

/-! ### Valid settings -/

namespace Settings

variable {s : Settings} {policies : List Policy} {d : Directory}

theorem validatePartners_eq_ok_iff {index : Nat} {seen : List PartnerId} :
    validatePartners index seen policies = .ok () ↔
      (∀ p ∈ policies, p.fault? = none) ∧ (policies.map Policy.id).Nodup ∧
        ∀ p ∈ policies, p.id ∉ seen := by
  induction policies generalizing index seen with
  | nil => simp [validatePartners]
  | cons p rest ih =>
      simp only [validatePartners, List.forall_mem_cons, List.map_cons, List.nodup_cons]
      cases hfault : p.fault? with
      | some fault => simp
      | none =>
          by_cases hseen : p.id ∈ seen
          · simp [hseen]
          · have hcontains : seen.contains p.id = false := by simpa using hseen
            simp only [hcontains, Bool.false_eq_true, if_false, ih, List.mem_cons, not_or, true_and]
            constructor
            · rintro ⟨hvalid, hnodup, hfresh⟩
              refine ⟨hvalid, ⟨fun hmem => ?_, hnodup⟩, hseen, fun q hq => (hfresh q hq).2⟩
              obtain ⟨q, hq, hid⟩ := List.mem_map.1 hmem
              exact (hfresh q hq).1 hid
            · rintro ⟨hvalid, ⟨hid, hnodup⟩, -, hfresh⟩
              refine ⟨hvalid, hnodup, fun q hq => ⟨fun heq => hid ?_, hfresh q hq⟩⟩
              exact heq ▸ List.mem_map_of_mem hq

theorem partners_of_validate (h : s.validate = .ok ()) :
    (∀ p ∈ s.partners, p.fault? = none) ∧ (s.partners.map Policy.id).Nodup := by
  unfold validate at h
  split at h
  · cases h
  · obtain ⟨hvalid, hnodup, -⟩ := validatePartners_eq_ok_iff.1 h
    exact ⟨hvalid, hnodup⟩

/-- Partners that can be registered together, in a directory that knows none of them. -/
structure Admissible (d : Directory) (policies : List Policy) : Prop where
  valid : ∀ p ∈ policies, p.fault? = none
  nodup : (policies.map Policy.id).Nodup
  fresh : ∀ p ∈ policies, d.find? p.id = none

theorem Admissible.head {p : Policy} (h : Admissible d (p :: policies)) :
    d.register p.partner =
      (p.admission, if Text.IsBlank p.name then d else ⟨d.partners ++ [p.partner]⟩) :=
  Policy.register_partner (h.valid p List.mem_cons_self) (h.fresh p List.mem_cons_self)

theorem Admissible.tail {p : Policy} (h : Admissible d (p :: policies)) :
    Admissible (d.register p.partner).2 policies := by
  obtain ⟨hid, hnodup⟩ := List.nodup_cons.1 h.nodup
  refine ⟨fun q hq => h.valid q (List.mem_cons_of_mem p hq), hnodup, fun q hq => ?_⟩
  have hfresh := h.fresh q (List.mem_cons_of_mem p hq)
  rw [h.head]
  split
  · exact hfresh
  · have hne : q.id ≠ p.id := fun heq => hid (heq ▸ List.mem_map_of_mem hq)
    exact (Directory.find?_append_of_ne hne).trans hfresh

def registrations (policies : List Policy) : List Operation := policies.map fun p => .registers p.partner

theorem Admissible.replies (h : Admissible d policies) :
    d.replies (registrations policies) = policies.map fun p => .registered p.admission := by
  induction policies generalizing d with
  | nil => rfl
  | cons p rest ih =>
      have hfirst : (d.perform (.registers p.partner)).1 = .registered p.admission := by
        rw [Directory.perform, h.head]
      rw [registrations, List.map_cons, Directory.replies, hfirst]
      exact congrArg _ (ih h.tail)

theorem Admissible.partners_after (h : Admissible d policies) :
    (d.after (registrations policies)).partners =
      d.partners ++ (policies.filter fun p => ¬ Text.IsBlank p.name).map Policy.partner := by
  induction policies generalizing d with
  | nil => simp [registrations, Directory.after]
  | cons p rest ih =>
      have hrest : d.after (registrations (p :: rest)) =
          (d.register p.partner).2.after (registrations rest) := rfl
      rw [hrest, ih h.tail, h.head]
      by_cases hname : Text.IsBlank p.name <;> simp [hname]

end Settings

/-! ### Sessions -/

namespace Session

open Settings (Admissible registrations)

variable {policies : List Policy} {e : Engine}

theorem register_answer (e : Engine) (p : Partner) : (e.register p).1 = (e.directory.register p).1 := by
  unfold Engine.register
  split
  · rename_i hregister
    rw [hregister]
  · rename_i hregister
    rw [hregister]

/-- A session registers the partners up to the first without a name, and ends there. -/
theorem registerAll_eq (h : Admissible e.directory policies) :
    registerAll policies e =
      match policies.find? fun p => Text.IsBlank p.name with
      | some p => .error (.registering (.invalidDescriptor p.id ["partner_name is required"]))
      | none => .ok (policies.foldl (fun e p => (e.register p.partner).2) e) := by
  induction policies generalizing e with
  | nil => rfl
  | cons p rest ih =>
      have hfirst : (e.register p.partner).1 = p.admission := by
        rw [register_answer, h.head]
      have hrest : Admissible (e.register p.partner).2.directory rest := by
        rw [Engine.register_directory]
        exact h.tail
      have hregister : e.register p.partner = (p.admission, (e.register p.partner).2) := by
        rw [← hfirst]
      rw [registerAll, hregister, Policy.admission]
      by_cases hname : Text.IsBlank p.name
      · rw [List.find?_cons_of_pos (by simpa using hname), if_pos hname]
      · rw [List.find?_cons_of_neg (by simpa using hname), if_neg hname]
        exact ih hrest

end Session

/-- **Valid settings start if every partner has a name.** The partners of valid settings are all registered
exactly if none has a blank name, and then the directory holds them and nothing else. Otherwise those
without a name are refused, and a session ends at the first of them. -/
theorem Settings.registered_iff_named {s : Settings} (h : s.validate = .ok ()) :
    let d := Directory.empty.after (registrations s.partners)
    let idle (scorer : Scorer) := Engine.start scorer s.engineConfig s.cache.build
    ((∀ answer ∈ Directory.empty.replies (registrations s.partners), answer = .registered (.ok true)) ↔
      ∀ p ∈ s.partners, ¬ Text.IsBlank p.name) ∧
    d.partners = (s.partners.filter fun p => ¬ Text.IsBlank p.name).map Policy.partner ∧
    ((∀ p ∈ s.partners, ¬ Text.IsBlank p.name) →
      d.size = s.partners.length ∧ d.partners.map Partner.id = s.partners.map Policy.id) ∧
    ∀ scorer, Session.registerAll s.partners (idle scorer) =
      match s.partners.find? fun p => Text.IsBlank p.name with
      | some p => .error (.registering (.invalidDescriptor p.id ["partner_name is required"]))
      | none => .ok (s.partners.foldl (fun e p => (e.register p.partner).2) (idle scorer)) := by
  intro d idle
  obtain ⟨hvalid, hnodup⟩ := partners_of_validate h
  have hadmissible : Admissible Directory.empty s.partners := ⟨hvalid, hnodup, fun p _ => rfl⟩
  have hpartners : d.partners = (s.partners.filter fun p => ¬ Text.IsBlank p.name).map Policy.partner :=
    hadmissible.partners_after.trans (List.nil_append _)
  refine ⟨?answers, hpartners, fun hnamed => ?named, fun scorer => Session.registerAll_eq hadmissible⟩
  case answers =>
    rw [hadmissible.replies, List.forall_mem_map]
    refine forall₂_congr fun p _ => ?_
    rw [Policy.admission]
    split
    · rename_i hname
      simp [hname]
    · rename_i hname
      simp [hname]
  case named =>
    have hall : (s.partners.filter fun p => ¬ Text.IsBlank p.name) = s.partners :=
      List.filter_eq_self.2 fun p hp => decide_eq_true (hnamed p hp)
    rw [hall] at hpartners
    refine ⟨?_, ?_⟩
    · rw [Directory.size, hpartners, List.length_map]
    · rw [hpartners, List.map_map]
      rfl

/-- Settings with the partners that a session falls back on. -/
def Settings.wellNamed : Settings := { standard with partners := Session.builtinPartners }

theorem Settings.registered_iff_named_wellNamed :
    wellNamed.validate = .ok () ∧
    (∀ answer ∈ Directory.empty.replies (registrations wellNamed.partners), answer = .registered (.ok true)) ∧
    (Directory.empty.after (registrations wellNamed.partners)).partners.map Partner.id =
      ["steady-capital", "quickcash", "national-bank"] := by
  have hvalid : wellNamed.validate = .ok () := by decide +kernel
  have hnamed : ∀ p ∈ wellNamed.partners, ¬ Text.IsBlank p.name := by decide +kernel
  obtain ⟨hall, -, hids, -⟩ := registered_iff_named hvalid
  exact ⟨hvalid, hall.2 hnamed, (hids hnamed).2⟩

/-- Settings with a partner that gives an identifier and nothing else. -/
def Settings.nameless : Settings := { standard with partners := [Policy.named "p1" ""] }

theorem Settings.refused_nameless :
    nameless.validate = .ok () ∧
    Directory.empty.replies (registrations nameless.partners) =
      [.registered (.error (.invalidDescriptor "p1" ["partner_name is required"]))] ∧
    (Directory.empty.after (registrations nameless.partners)).size = 0 := by
  refine ⟨by decide +kernel, rfl, rfl⟩

end Lending
