import Lending.Settings.Basic
import Lending.Text.Blank
import Lending.Text.Count

/-!
# Overrides

Environment variables stand above what a file says. They are applied one after the other; one that
cannot be read ends this, and what was applied before it stays.
-/

namespace Lending.Settings

/-- What all variables begin with. -/
def variablePrefix : String := "PREQUAL_"

def countFaultText : Text.CountFault → String
  | .empty => "cannot parse integer from empty string"
  | .foreignCharacter => "invalid digit found in string"
  | .aboveLimit => "number too large to fit in target type"

/-- Reads a count for a field, white space around it aside. -/
def readCount (field : String) (limit : Nat) (value : String) : Except SettingsFault Nat :=
  match Text.readCount limit (Text.trim value.toList) with
  | .ok n => .ok n
  | .error fault => .error (.invalid field ("'" ++ value ++ "': " ++ countFaultText fault))

/-- A variable that overrides one setting. -/
structure Override where
  variableName : String
  apply : Settings → String → Except SettingsFault Settings

def largestByte : Nat := 255

def largestWord : Nat := 18446744073709551615

/-- All overrides, in the order in which they are applied. -/
def overrides : List Override :=
  [⟨"LOG_LEVEL", fun s value => .ok { s with log.level := value }⟩,
   ⟨"LOG_FORMAT", fun s value => .ok { s with log.format := .ofText value }⟩,
   ⟨"MIN_APPROVAL_PROBABILITY", fun s value =>
      (readCount "prequal.min_approval_probability" largestByte value).map fun n =>
        { s with assessment.minProbability := n }⟩,
   ⟨"MAX_PARTNERS", fun s value =>
      (readCount "prequal.max_partners" largestWord value).map fun n =>
        { s with assessment.maxPartners := n }⟩,
   ⟨"PROBE_TIMEOUT_MS", fun s value =>
      (readCount "prequal.probe_timeout_ms" largestWord value).map fun n =>
        { s with assessment.probeLimit := n }⟩,
   ⟨"SCORER", fun s value =>
      (ScorerKind.ofText value).map fun kind => { s with assessment.scorer := kind }⟩,
   ⟨"CACHE_TTL_SECS", fun s value =>
      (readCount "cache.ttl_secs" largestWord value).map fun n =>
        { s with cache.timeToLiveSeconds := n }⟩,
   ⟨"CACHE_CAPACITY", fun s value =>
      (readCount "cache.capacity" largestWord value).map fun n =>
        { s with cache.capacity := n }⟩]

/-- Applies the overrides of a list whose variables are set, up to the first that cannot be read. -/
def applyEach (environment : String → Option String) :
    List Override → Settings → Except SettingsFault Unit × Settings
  | [], s => (.ok (), s)
  | o :: rest, s =>
    match environment (variablePrefix ++ o.variableName) with
    | none => applyEach environment rest s
    | some value =>
      match o.apply s value with
      | .ok s => applyEach environment rest s
      | .error fault => (.error fault, s)

def override (s : Settings) (environment : String → Option String) :
    Except SettingsFault Unit × Settings :=
  applyEach environment overrides s

end Lending.Settings
