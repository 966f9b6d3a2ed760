import Lending.Settings.Override

/-!
# What overrides change

Every variable belongs to one field, and what its text stands for does not depend on the settings. So the
overrides are a walk through the fields in their order: each one whose variable is set takes the value that is
read, up to the first that cannot be read, and from that on all is as it was. Nothing else changes. An error
therefore does not undo what was read before it.
-/

namespace Lending.Settings

/-! ### The fields -/

inductive Field where
  | logLevel
  | logFormat
  | minProbability
  | maxPartners
  | probeLimit
  | scorer
  | timeToLive
  | capacity
deriving DecidableEq

namespace Field

def Value : Field → Type
  | logLevel => String
  | logFormat => LogFormat
  | scorer => ScorerKind
  | minProbability | maxPartners | probeLimit | timeToLive | capacity => Nat

def get : (field : Field) → Settings → field.Value
  | logLevel, s => s.log.level
  | logFormat, s => s.log.format
  | minProbability, s => s.assessment.minProbability
  | maxPartners, s => s.assessment.maxPartners
  | probeLimit, s => s.assessment.probeLimit
  | scorer, s => s.assessment.scorer
  | timeToLive, s => s.cache.timeToLiveSeconds
  | capacity, s => s.cache.capacity

def set (s : Settings) : (field : Field) → field.Value → Settings
  | logLevel, value => { s with log.level := value }
  | logFormat, value => { s with log.format := value }
  | minProbability, value => { s with assessment.minProbability := value }
  | maxPartners, value => { s with assessment.maxPartners := value }
  | probeLimit, value => { s with assessment.probeLimit := value }
  | scorer, value => { s with assessment.scorer := value }
  | timeToLive, value => { s with cache.timeToLiveSeconds := value }
  | capacity, value => { s with cache.capacity := value }

/-- The variable that stands above a field. -/
def variableName : Field → String
  | logLevel => "LOG_LEVEL"
  | logFormat => "LOG_FORMAT"
  | minProbability => "MIN_APPROVAL_PROBABILITY"
  | maxPartners => "MAX_PARTNERS"
  | probeLimit => "PROBE_TIMEOUT_MS"
  | scorer => "SCORER"
  | timeToLive => "CACHE_TTL_SECS"
  | capacity => "CACHE_CAPACITY"

def read : (field : Field) → String → Except SettingsFault field.Value
  | logLevel, text => .ok text
  | logFormat, text => .ok (LogFormat.ofText text)
  | minProbability, text => readCount "prequal.min_approval_probability" largestByte text
  | maxPartners, text => readCount "prequal.max_partners" largestWord text
  | probeLimit, text => readCount "prequal.probe_timeout_ms" largestWord text
  | scorer, text => ScorerKind.ofText text
  | timeToLive, text => readCount "cache.ttl_secs" largestWord text
  | capacity, text => readCount "cache.capacity" largestWord text

/-- The fields in the order in which they are overridden. -/
def all : List Field :=
  [logLevel, logFormat, minProbability, maxPartners, probeLimit, scorer, timeToLive, capacity]

theorem nodup_all : all.Nodup := by decide

variable {field other : Field} {s : Settings}

@[simp] theorem get_set (field : Field) (s : Settings) (value : field.Value) :
    field.get (set s field value) = value := by
  cases field <;> rfl

theorem get_set_of_ne (h : other ≠ field) (s : Settings) (value : field.Value) :
    other.get (set s field value) = other.get s := by
  cases field <;> cases other <;> first | rfl | exact absurd rfl h

@[simp] theorem set_includeTarget (field : Field) (s : Settings) (value : field.Value) :
    (set s field value).log.includeTarget = s.log.includeTarget := by
  cases field <;> rfl

@[simp] theorem set_partners (field : Field) (s : Settings) (value : field.Value) :
    (set s field value).partners = s.partners := by
  cases field <;> rfl

end Field

/-! ### One field after the other -/

/-- The override of a field reads the text of its variable, whatever the settings are. -/
def Field.override (field : Field) : Override where
  variableName := field.variableName
  apply s text := (field.read text).map (field.set s)

theorem overrides_eq : overrides = Field.all.map Field.override := rfl

section Walk

variable {environment : String → Option String} {field : Field} {fields : List Field}
  {s t : Settings} {text : String}

/-- The text that stands above a field. -/
def Field.given (environment : String → Option String) (field : Field) : Option String :=
  environment (variablePrefix ++ field.variableName)

/-- A field holds what its variable says, or what it held before if that is not set. -/
def Field.Follows (environment : String → Option String) (before after : Settings) (field : Field) : Prop :=
  match field.given environment with
  | some text => field.read text = .ok (field.get after)
  | none => field.get after = field.get before

/-- The variable of a field is set to a text that cannot be read. -/
def Field.Fails (environment : String → Option String) (fault : SettingsFault) (field : Field) : Prop :=
  ∃ text, field.given environment = some text ∧ field.read text = .error fault

/-- Settings in which the fields of a list follow their variables, and all else is as it was. -/
structure Overridden (environment : String → Option String) (fields : List Field)
    (before after : Settings) : Prop where
  follows : ∀ field ∈ fields, field.Follows environment before after
  others : ∀ field, field ∉ fields → field.get after = field.get before
  includeTarget : after.log.includeTarget = before.log.includeTarget
  partners : after.partners = before.partners

theorem Overridden.refl (environment : String → Option String) (s : Settings) :
    Overridden environment [] s s :=
  ⟨fun _ h => absurd h List.not_mem_nil, fun _ _ => rfl, rfl, rfl⟩

theorem Overridden.cons_unset (h : Overridden environment fields s t) (hfield : field ∉ fields)
    (hgiven : field.given environment = none) : Overridden environment (field :: fields) s t where
  follows := by
    rw [List.forall_mem_cons]
    refine ⟨?_, h.follows⟩
    rw [Field.Follows, hgiven]
    exact h.others field hfield
  others other hother := h.others other fun hmem => hother (List.mem_cons_of_mem field hmem)
  includeTarget := h.includeTarget
  partners := h.partners

theorem Overridden.cons_set {value : field.Value} (h : Overridden environment fields (field.set s value) t)
    (hfield : field ∉ fields) (hgiven : field.given environment = some text)
    (hread : field.read text = .ok value) : Overridden environment (field :: fields) s t where
  follows := by
    rw [List.forall_mem_cons]
    constructor
    · rw [Field.Follows, hgiven]
      show field.read text = .ok (field.get t)
      rw [h.others field hfield, Field.get_set, hread]
    · intro other hother
      have hne : other ≠ field := fun heq => hfield (heq ▸ hother)
      have hfollows := h.follows other hother
      rw [Field.Follows, Field.get_set_of_ne hne] at hfollows
      exact hfollows
  others other hother := by
    obtain ⟨hne, hmem⟩ := not_or.1 (mt List.mem_cons.2 hother)
    rw [h.others other hmem, Field.get_set_of_ne hne]
  includeTarget := h.includeTarget.trans (field.set_includeTarget s value)
  partners := h.partners.trans (field.set_partners s value)

/-- What a walk through fields comes to: it ends behind the last of them, or in front of the first that fails,
with its fault. -/
def Walked (environment : String → Option String) (fields : List Field) (s : Settings)
    (answer : Except SettingsFault Unit) (t : Settings) : Prop :=
  (answer = .ok () ∧ Overridden environment fields s t) ∨
    ∃ earlier faulty later fault, fields = earlier ++ faulty :: later ∧ answer = .error fault ∧
      faulty.Fails environment fault ∧ Overridden environment earlier s t

/-- A walk goes on behind its first field as it would have begun there. -/
theorem Walked.cons {s' : Settings} {answer : Except SettingsFault Unit}
    (h : Walked environment fields s' answer t)
    (hfirst : ∀ earlier, earlier <+: fields → Overridden environment earlier s' t →
      Overridden environment (field :: earlier) s t) :
    Walked environment (field :: fields) s answer t := by
  rcases h with ⟨hok, hall⟩ | ⟨earlier, faulty, later, fault, hfields, herror, hfails, hearlier⟩
  · exact Or.inl ⟨hok, hfirst fields (List.prefix_refl fields) hall⟩
  · have hstart : earlier <+: fields := ⟨faulty :: later, hfields.symm⟩
    exact Or.inr ⟨field :: earlier, faulty, later, fault, congrArg (field :: ·) hfields, herror, hfails,
      hfirst earlier hstart hearlier⟩

theorem applyEach_unset (hgiven : field.given environment = none) (s : Settings) :
    applyEach environment ((field :: fields).map Field.override) s =
      applyEach environment (fields.map Field.override) s := by
  have hunset : environment (variablePrefix ++ field.override.variableName) = none := hgiven
  rw [List.map_cons, applyEach, hunset]

theorem applyEach_set {value : field.Value} (hgiven : field.given environment = some text)
    (hread : field.read text = .ok value) (s : Settings) :
    applyEach environment ((field :: fields).map Field.override) s =
      applyEach environment (fields.map Field.override) (field.set s value) := by
  have hset : environment (variablePrefix ++ field.override.variableName) = some text := hgiven
  have happly : field.override.apply s text = .ok (field.set s value) :=
    congrArg (Except.map (field.set s)) hread
  rw [List.map_cons, applyEach, hset]
  simp only [happly]

theorem applyEach_fails {fault : SettingsFault} (hgiven : field.given environment = some text)
    (hread : field.read text = .error fault) (s : Settings) :
    applyEach environment ((field :: fields).map Field.override) s = (.error fault, s) := by
  have hset : environment (variablePrefix ++ field.override.variableName) = some text := hgiven
  have happly : field.override.apply s text = .error fault :=
    congrArg (Except.map (field.set s)) hread
  rw [List.map_cons, applyEach, hset]
  simp only [happly]

theorem applyEach_walked (hnodup : fields.Nodup) (s : Settings) :
    Walked environment fields s (applyEach environment (fields.map Field.override) s).1
      (applyEach environment (fields.map Field.override) s).2 := by
  induction fields generalizing s with
  | nil => exact Or.inl ⟨rfl, .refl environment s⟩
  | cons field fields ih =>
      obtain ⟨hfield, hnodup⟩ := List.nodup_cons.1 hnodup
      have hnew : ∀ earlier, earlier <+: fields → field ∉ earlier :=
        fun earlier hstart hmem => hfield (hstart.subset hmem)
      cases hgiven : field.given environment with
      | none =>
          rw [applyEach_unset hgiven]
          exact (ih hnodup s).cons fun earlier hstart h => h.cons_unset (hnew earlier hstart) hgiven
      | some text =>
          cases hread : field.read text with
          | error fault =>
              rw [applyEach_fails hgiven hread]
              exact Or.inr ⟨[], field, fields, fault, rfl, rfl, ⟨text, hgiven, hread⟩, .refl environment s⟩
          | ok value =>
              rw [applyEach_set hgiven hread]
              exact (ih hnodup (field.set s value)).cons fun earlier hstart h =>
                h.cons_set (hnew earlier hstart) hgiven hread

end Walk

/-- **Overrides reach up to the first fault.** Either all can be read: then every field whose variable is set
takes what that says, and nothing else changes. Or the answer is the fault of the first variable that cannot
be read: then the fields before its own follow their variables, and its own, those behind it and everything
else are as they were. -/
theorem override_up_to_first_fault (s : Settings) (environment : String → Option String) :
    let (answer, t) := s.override environment
    (answer = .ok () ∧ Overridden environment Field.all s t) ∨
      ∃ earlier faulty later fault, Field.all = earlier ++ faulty :: later ∧ answer = .error fault ∧
        faulty.Fails environment fault ∧ Overridden environment earlier s t := by
  rw [override, overrides_eq]
  exact applyEach_walked Field.nodup_all s

/-- Variables of which the first is set well and a later one is not. -/
def halfMalformed (name : String) : Option String :=
  if name = "PREQUAL_LOG_LEVEL" then some "debug"
  else if name = "PREQUAL_MAX_PARTNERS" then some "five"
  else none

/-- An error leaves settings behind that are not those from before. -/
theorem override_halfMalformed :
    (standard.override halfMalformed).1 =
        .error (.invalid "prequal.max_partners" "'five': invalid digit found in string") ∧
      (standard.override halfMalformed).2.log.level = "debug" ∧
      (standard.override halfMalformed).2 ≠ standard :=
  ⟨rfl, rfl, by decide +kernel⟩

end Lending.Settings
