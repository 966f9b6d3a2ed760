import Mathlib.Data.Finmap
import Mathlib.Data.List.DropRight
import Lending.Proofs.Partner.Directory

/-!
# The directory is a finite map

However partners come and go, the directory replies as a finite map from identifiers to partners does in
which the first complete partner under an identifier stays until it is removed. The map of a directory is
read off its partners, and each operation on the directory is that operation on its map.
-/

namespace Lending

/-! ### Complete partners -/

/-- A partner has an identifier and a name, offers something and can do all that is asked of one. -/
def Partner.IsComplete (p : Partner) : Prop :=
  ¬ Text.IsBlank p.listing.id ∧ ¬ Text.IsBlank p.listing.name ∧ p.listing.products ≠ [] ∧
    ∀ capability, capability ∈ p.capabilities

theorem Capability.mem_terms (capability : Capability) : capability ∈ Vocabulary.terms := by
  cases capability <;> decide

theorem Partner.errors_eq_nil_iff {p : Partner} : p.errors = [] ↔ p.IsComplete := by
  unfold errors IsComplete
  simp only [List.append_eq_nil_iff, and_assoc]
  refine and_congr ?id (and_congr ?name (and_congr ?products ?capabilities))
  case id => split <;> simp_all
  case name => split <;> simp_all
  case products => simp
  case capabilities =>
    rw [List.map_eq_nil_iff, List.filter_eq_nil_iff]
    constructor
    · intro h capability
      simpa using h capability capability.mem_terms
    · intro h capability _
      simpa using h capability

instance (p : Partner) : Decidable p.IsComplete := decidable_of_iff (p.errors = []) Partner.errors_eq_nil_iff

/-! ### The map -/

namespace Directory

/-- What changes the directory. -/
inductive Operation where
  | registers (p : Partner)
  | unregisters (id : PartnerId)

/-- What is heard of it. -/
inductive Answer where
  | registered (answer : Except PartnerFault Bool)
  | unregistered (present : Bool)

def perform (d : Directory) : Operation → Answer × Directory
  | .registers p => (.registered (d.register p).1, (d.register p).2)
  | .unregisters id => (.unregistered (d.unregister id).1, (d.unregister id).2)

def after (d : Directory) (operations : List Operation) : Directory :=
  operations.foldl (fun d operation => (d.perform operation).2) d

def replies (d : Directory) : List Operation → List Answer
  | [] => []
  | operation :: rest => (d.perform operation).1 :: (d.perform operation).2.replies rest

end Directory

/-- Partners by their identifiers. -/
abbrev Roll := Finmap fun _ : PartnerId => Partner

namespace Roll

open Directory (Operation Answer)

/-- A partner that is not complete is refused. One that is complete is entered, unless its identifier is
taken. -/
def register (roll : Roll) (p : Partner) : Except PartnerFault Bool × Roll :=
  if ¬ p.IsComplete then (.error (.invalidDescriptor p.id p.errors), roll)
  else if p.id ∈ roll then (.ok false, roll)
  else (.ok true, roll.insert p.id p)

def unregister (roll : Roll) (id : PartnerId) : Bool × Roll := (decide (id ∈ roll), roll.erase id)

def perform (roll : Roll) : Operation → Answer × Roll
  | .registers p => (.registered (roll.register p).1, (roll.register p).2)
  | .unregisters id => (.unregistered (roll.unregister id).1, (roll.unregister id).2)

def after (roll : Roll) (operations : List Operation) : Roll :=
  operations.foldl (fun roll operation => (roll.perform operation).2) roll

def replies (roll : Roll) : List Operation → List Answer
  | [] => []
  | operation :: rest => (roll.perform operation).1 :: (roll.perform operation).2.replies rest

end Roll

namespace Directory

variable {d : Directory} {p : Partner} {id : PartnerId}

def roll (d : Directory) : Roll := (d.partners.map fun p => (⟨p.id, p⟩ : Σ _ : PartnerId, Partner)).toFinmap

theorem lookup_roll (d : Directory) (id : PartnerId) : d.roll.lookup id = d.find? id := by
  rw [roll, Finmap.dlookup_list_toFinmap, find?]
  induction d.partners with
  | nil => rfl
  | cons p rest ih =>
      by_cases hid : p.id = id
      · subst hid
        rw [List.map_cons, List.dlookup_cons_eq, List.find?_cons_of_pos (by simp)]
      · rw [List.map_cons, List.dlookup_cons_ne _ _ (Ne.symm hid), ih,
          List.find?_cons_of_neg (by simpa using hid)]

theorem mem_roll : id ∈ d.roll ↔ (d.find? id).isSome := by
  rw [← Finmap.lookup_isSome, lookup_roll]

/-! ### Each operation on the map -/

theorem find?_append_self (hnew : d.find? p.id = none) :
    Directory.find? ⟨d.partners ++ [p]⟩ p.id = some p := by
  rw [find?, List.find?_append, ← find?, hnew, Option.none_or, List.find?_cons_of_pos (by simp)]

theorem find?_append_of_ne (hid : id ≠ p.id) :
    Directory.find? ⟨d.partners ++ [p]⟩ id = d.find? id := by
  rw [find?, List.find?_append, List.find?_cons_of_neg (by simpa using Ne.symm hid), List.find?_nil,
    Option.or_none, find?]

theorem roll_append (hnew : d.find? p.id = none) :
    Directory.roll ⟨d.partners ++ [p]⟩ = d.roll.insert p.id p := by
  refine Finmap.ext_lookup fun id => ?_
  rw [lookup_roll]
  by_cases hid : id = p.id
  · rw [hid, find?_append_self hnew, Finmap.lookup_insert]
  · rw [find?_append_of_ne hid, Finmap.lookup_insert_of_ne _ hid, lookup_roll]

theorem find?_unregister_self (d : Directory) (id : PartnerId) : (d.unregister id).2.find? id = none := by
  rw [find?_eq_none_iff, List.mem_map]
  rintro ⟨p, hp, hid⟩
  simp [unregister, hid] at hp

theorem find?_unregister_of_ne {other : PartnerId} (hne : other ≠ id) :
    (d.unregister id).2.find? other = d.find? other := by
  have hkept : (fun p : Partner => decide ((p.id != id) = true ∧ (p.id == other) = true)) =
      fun p => p.id == other := by
    funext p
    by_cases hid : p.id = other
    · simp [hid, hne]
    · simp [hid]
  rw [find?, unregister, List.find?_filter, hkept, find?]

theorem roll_unregister (d : Directory) (id : PartnerId) : (d.unregister id).2.roll = d.roll.erase id := by
  refine Finmap.ext_lookup fun other => ?_
  rw [lookup_roll]
  by_cases hid : other = id
  · rw [hid, find?_unregister_self, Finmap.lookup_erase]
  · rw [find?_unregister_of_ne hid, Finmap.lookup_erase_ne hid, lookup_roll]

theorem roll_register (d : Directory) (p : Partner) :
    d.roll.register p = ((d.register p).1, (d.register p).2.roll) := by
  rcases d.register_cases p with
    ⟨herrors, hregister⟩ | ⟨herrors, htaken, hregister⟩ | ⟨herrors, hnew, hregister⟩
  · rw [hregister, Roll.register, if_pos (mt Partner.errors_eq_nil_iff.2 herrors)]
  · rw [hregister, Roll.register, if_neg (not_not.2 (Partner.errors_eq_nil_iff.1 herrors)),
      if_pos (mem_roll.2 htaken)]
  · rw [hregister, Roll.register, if_neg (not_not.2 (Partner.errors_eq_nil_iff.1 herrors)), if_neg,
      roll_append hnew]
    rw [mem_roll, hnew]
    exact Bool.false_ne_true

theorem roll_perform (d : Directory) (operation : Operation) :
    d.roll.perform operation = ((d.perform operation).1, (d.perform operation).2.roll) := by
  cases operation with
  | registers p => rw [Roll.perform, roll_register, perform]
  | unregisters id =>
      have hpresent : decide (id ∈ d.roll) = (d.unregister id).1 := by
        rw [Bool.eq_iff_iff, decide_eq_true_iff]
        exact mem_roll
      rw [Roll.perform, Roll.unregister, hpresent, ← roll_unregister, perform]

/-! ### Runs -/

theorem roll_after (d : Directory) (operations : List Operation) :
    (d.after operations).roll = d.roll.after operations := by
  induction operations generalizing d with
  | nil => rfl
  | cons operation rest ih =>
      rw [after, List.foldl_cons, ← after, ih, Roll.after, Roll.after, List.foldl_cons, roll_perform]

theorem replies_roll (d : Directory) (operations : List Operation) :
    d.roll.replies operations = d.replies operations := by
  induction operations generalizing d with
  | nil => rfl
  | cons operation rest ih => rw [Roll.replies, replies, roll_perform, ih]

theorem after_concat (d : Directory) (operations : List Operation) (operation : Operation) :
    d.after (operations ++ [operation]) = ((d.after operations).perform operation).2 := by
  rw [after, after, List.foldl_append, List.foldl_cons, List.foldl_nil]

theorem Distinct.after (h : d.Distinct) (operations : List Operation) : (d.after operations).Distinct := by
  induction operations generalizing d with
  | nil => exact h
  | cons operation rest ih =>
      cases operation with
      | registers p => exact ih (h.register p)
      | unregisters id => exact ih (h.unregister id)

/-! ### The history of an identifier -/

/-- The complete partner that an operation offers under an identifier. -/
def Operation.registration? (id : PartnerId) : Operation → Option Partner
  | .registers p => if p.id = id ∧ p.IsComplete then some p else none
  | .unregisters _ => none

def Operation.removes (id : PartnerId) : Operation → Bool
  | .registers _ => false
  | .unregisters other => other == id

/-- The first complete partner that was registered under an identifier since the last removal of that. -/
def standing? (id : PartnerId) (operations : List Operation) : Option Partner :=
  (operations.rtakeWhile fun operation => !operation.removes id).findSome? (Operation.registration? id)

theorem standing?_concat (id : PartnerId) (operations : List Operation) (operation : Operation) :
    standing? id (operations ++ [operation]) =
      if operation.removes id then none
      else (standing? id operations).or (operation.registration? id) := by
  cases hremoves : operation.removes id with
  | true =>
      rw [standing?, List.rtakeWhile_concat_neg _ _ _ (by simp [hremoves]), List.findSome?_nil,
        if_pos rfl]
  | false =>
      rw [standing?, List.rtakeWhile_concat_pos _ _ _ (by simp [hremoves]), List.findSome?_append,
        List.findSome?_singleton, if_neg Bool.false_ne_true, standing?]

theorem isComplete_of_standing? {operations : List Operation} (h : standing? id operations = some p) :
    p.IsComplete := by
  obtain ⟨operation, -, hoperation⟩ := List.exists_of_findSome?_eq_some h
  cases operation with
  | registers q =>
      rw [Operation.registration?] at hoperation
      split at hoperation
      · rename_i hq
        exact Option.some.inj hoperation ▸ hq.2
      · cases hoperation
  | unregisters other => cases hoperation

/-- What is found afterwards is what was found before, or else what is registered. -/
theorem find?_perform (d : Directory) (operation : Operation) (id : PartnerId) :
    (d.perform operation).2.find? id =
      if operation.removes id then none else (d.find? id).or (operation.registration? id) := by
  cases operation with
  | registers p =>
      rw [perform, Operation.removes, if_neg Bool.false_ne_true, Operation.registration?]
      rcases d.register_cases p with
        ⟨herrors, hregister⟩ | ⟨-, htaken, hregister⟩ | ⟨herrors, hnew, hregister⟩
      · have hrefused : ¬ (p.id = id ∧ p.IsComplete) :=
          fun h => herrors (Partner.errors_eq_nil_iff.2 h.2)
        rw [hregister, if_neg hrefused, Option.or_none]
      · rw [hregister]
        split
        · rename_i h
          obtain ⟨q, hq⟩ := Option.isSome_iff_exists.1 htaken
          rw [← h.1, hq, Option.some_or]
        · rw [Option.or_none]
      · rw [hregister]
        by_cases hid : p.id = id
        · rw [if_pos ⟨hid, Partner.errors_eq_nil_iff.1 herrors⟩, ← hid, find?_append_self hnew, hnew,
            Option.none_or]
        · rw [if_neg fun h => hid h.1, find?_append_of_ne (Ne.symm hid), Option.or_none]
  | unregisters other =>
      rw [perform, Operation.removes, Operation.registration?, Option.or_none]
      by_cases hid : other = id
      · rw [if_pos (by simpa using hid), hid, find?_unregister_self]
      · rw [if_neg (by simpa using hid), find?_unregister_of_ne (Ne.symm hid)]

theorem find?_after (operations : List Operation) (id : PartnerId) :
    (empty.after operations).find? id = standing? id operations := by
  induction operations using List.reverseRecOn with
  | nil => rfl
  | append_singleton operations operation ih =>
      rw [after_concat, find?_perform, ih, standing?_concat]

/-! ### Getting -/

theorem get_eq_error_iff : (∃ fault, d.get id = .error fault) ↔ d.find? id = none := by
  unfold get
  cases d.find? id with
  | none => exact ⟨fun _ => rfl, fun _ => ⟨_, rfl⟩⟩
  | some p => exact ⟨fun ⟨_, h⟩ => (nomatch h), fun h => (nomatch h)⟩

theorem eq_notFound_of_get {fault : PartnerFault} (h : d.get id = .error fault) :
    fault = .notFound id d.ids := by
  unfold get at h
  cases hfind : d.find? id with
  | none =>
      rw [hfind] at h
      exact (Except.error.inj h).symm
  | some p =>
      rw [hfind] at h
      cases h

theorem mem_ids_iff : id ∈ d.ids ↔ id ∈ d.roll := by
  rw [mem_ids, mem_roll, Option.isSome_iff_ne_none, Ne, find?_eq_none_iff, not_not]

/-- **The directory is a map in which the first comer stays.** Over any operations, the replies and what
is held afterwards are those of a map of complete partners. Everything held is complete and stands under
its own identifier; what is found under an identifier is the first complete partner registered for it
since it was last removed; and to get a partner fails exactly if none is found, with the identifiers that
there are, in ascending order. -/
theorem replies_eq_roll_replies (operations : List Operation) :
    let d := empty.after operations
    empty.replies operations = Roll.replies ∅ operations ∧
    d.roll = Roll.after ∅ operations ∧
    (∀ p ∈ d.partners, p.errors = [] ∧ d.find? p.id = some p) ∧
    (∀ id, d.find? id = standing? id operations) ∧
    (∀ id, (∃ fault, d.get id = .error fault) ↔ d.find? id = none) ∧
    ∀ id fault, d.get id = .error fault →
      ∃ ids, fault = .notFound id ids ∧ ids.Pairwise (· < ·) ∧ ∀ other, other ∈ ids ↔ other ∈ d.roll := by
  intro d
  have hdistinct : d.Distinct := distinct_empty.after operations
  refine ⟨(replies_roll empty operations).symm, roll_after empty operations, fun p hp => ?held,
    find?_after operations, fun id => get_eq_error_iff, fun id fault hget => ?absent⟩
  case held =>
    have hfind : d.find? p.id = some p := hdistinct.find? hp
    have hstanding : standing? p.id operations = some p := (find?_after operations p.id).symm.trans hfind
    exact ⟨Partner.errors_eq_nil_iff.2 (isComplete_of_standing? hstanding), hfind⟩
  case absent =>
    exact ⟨d.ids, eq_notFound_of_get hget, hdistinct.pairwise_ids, fun other => mem_ids_iff⟩

end Directory
end Lending
