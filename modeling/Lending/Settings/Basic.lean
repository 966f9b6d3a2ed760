import Lending.Engine.Basic
import Lending.Partner.Policy
import Lending.Text.Lowercase

/-!
# Settings

How the service is set up: what it logs, how it assesses, how long it keeps its answers, and which
partners it simulates. Validation reports the first value that is out of order.
-/

namespace Lending

/-- Why settings cannot be used. -/
inductive SettingsFault where
  | unreadable
  | malformed
  | invalid (field detail : String)
deriving DecidableEq

def SettingsFault.message : SettingsFault → String
  | unreadable => "failed to read config file"
  | malformed => "failed to parse config"
  | invalid field detail => "invalid config value for " ++ field ++ ": " ++ detail

inductive LogFormat where
  | json
  | pretty
deriving DecidableEq, Inhabited

instance : Vocabulary LogFormat where
  kind := "log format"
  terms := [.json, .pretty]
  tag
    | .json => "json"
    | .pretty => "pretty"

/-- The format that a text names in any case; a text that names none stands for the first one. -/
def LogFormat.ofText (text : String) : LogFormat :=
  (Vocabulary.ofTag? (Text.lowercase text)).getD .json

structure LogSettings where
  level : String
  format : LogFormat
  includeTarget : Bool
deriving DecidableEq

namespace LogSettings

def standard : LogSettings := ⟨"info", .json, true⟩

def levels : List String := ["trace", "debug", "info", "warn", "error"]

end LogSettings

/-- How a score comes about: by rules, or by a model that the rules stand behind. -/
inductive ScorerKind where
  | rules
  | model
deriving DecidableEq, Inhabited

instance : Vocabulary ScorerKind where
  kind := "scorer"
  terms := [.rules, .model]
  tag
    | .rules => "rule_based"
    | .model => "ml_model"

namespace ScorerKind

/-- The kind that a text names in any case. -/
def ofText (text : String) : Except SettingsFault ScorerKind :=
  let lowered := Text.lowercase text
  match Vocabulary.ofTag? lowered with
  | some kind => .ok kind
  | none =>
    .error (.invalid "prequal.scorer"
      ("unknown scorer '" ++ lowered ++ "', must be rule_based or ml_model"))

/-- The scorer of a kind. There is none by a model without the model. -/
def build (kind : ScorerKind) (model? : Option (Features → Except ModelFault Prediction)) :
    Except SettingsFault Scorer :=
  match kind, model? with
  | rules, _ => .ok .standard
  | model, some predict => .ok (.model predict .standard Adjustments.standard_total)
  | model, none =>
    .error (.invalid "prequal.scorer" "ml_model selected but no credit model is available")

end ScorerKind

structure AssessmentSettings where
  minProbability : Nat
  maxPartners : Nat
  /-- The limit for every question to a partner, in milliseconds. -/
  probeLimit : Nat
  scorer : ScorerKind
deriving DecidableEq

def AssessmentSettings.standard : AssessmentSettings := ⟨50, 5, 5000, .rules⟩

structure CacheSettings where
  timeToLiveSeconds : Nat
  capacity : Nat
deriving DecidableEq

namespace CacheSettings

def standard : CacheSettings := ⟨3600, 100⟩

def build (s : CacheSettings) : Cache CacheKey Assessment :=
  .empty s.capacity (s.timeToLiveSeconds * 1000)

end CacheSettings

structure Settings where
  log : LogSettings
  assessment : AssessmentSettings
  cache : CacheSettings
  partners : List Policy
deriving DecidableEq

namespace Settings

def standard : Settings := ⟨.standard, .standard, .standard, []⟩

instance : Inhabited Settings := ⟨standard⟩

/-- The options of a caller who brings none. -/
def options (s : Settings) : Options := ⟨s.assessment.minProbability, s.assessment.maxPartners⟩

def engineConfig (s : Settings) : EngineConfig := ⟨s.assessment.probeLimit, s.options⟩

/-! ### Validation -/

/-- Checks policies, the first of which stands at `index`, behind those of the partners `seen`. -/
def validatePartners (index : Nat) (seen : List PartnerId) : List Policy → Except SettingsFault Unit
  | [] => .ok ()
  | p :: rest =>
    let field := "partners[" ++ toString index ++ "]"
    match p.fault? with
    | some fault => .error (.invalid field fault.message)
    | none =>
      if seen.contains p.id then
        .error (.invalid field ("duplicate partner_id '" ++ p.id ++ "'"))
      else validatePartners (index + 1) (p.id :: seen) rest

/-- What every single value has to be, in the order in which it is checked. -/
def checks (s : Settings) : List (Bool × SettingsFault) :=
  [(LogSettings.levels.contains (Text.lowercase s.log.level),
      .invalid "log.level" ("invalid log level '" ++ s.log.level ++ "', must be one of: [" ++
        ", ".intercalate (LogSettings.levels.map Text.quoted) ++ "]")),
   (s.assessment.minProbability ≤ 100,
      .invalid "prequal.min_approval_probability"
        ("must be 0-100, got " ++ toString s.assessment.minProbability)),
   (s.assessment.maxPartners != 0, .invalid "prequal.max_partners" "must be at least 1"),
   (s.assessment.probeLimit != 0, .invalid "prequal.probe_timeout_ms" "must be positive"),
   (s.cache.timeToLiveSeconds != 0, .invalid "cache.ttl_secs" "must be positive"),
   (s.cache.capacity != 0, .invalid "cache.capacity" "must be at least 1")]

def validate (s : Settings) : Except SettingsFault Unit :=
  match s.checks.find? fun (ok, _) => !ok with
  | some (_, fault) => .error fault
  | none => validatePartners 0 [] s.partners

end Settings
end Lending
