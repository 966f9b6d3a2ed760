import Lending.Partner.Document
import Lending.Settings.Basic

/-!
# Settings in documents

Every section and every field may be missing, and then is as usual.
-/

namespace Lending

open Document

def LogSettings.document (s : LogSettings) : Document :=
  .table
    [("level", .text s.level), ("format", .term s.format), ("include_target", .bool s.includeTarget)]

def LogSettings.ofDocument? (dialect : Dialect) (document : Document) : Option LogSettings := do
  let fields ← recordIn? dialect ["level", "format", "include_target"] document
  return {
    level := ← fields.defaulted "level" standard.level text?
    format := ← fields.defaulted "format" standard.format (termIn? dialect)
    includeTarget := ← fields.defaulted "include_target" standard.includeTarget bool? }

def AssessmentSettings.fieldNames : List String :=
  ["min_approval_probability", "max_partners", "probe_timeout_ms", "scorer"]

def AssessmentSettings.document (s : AssessmentSettings) : Document :=
  .table
    [("min_approval_probability", .natural s.minProbability),
     ("max_partners", .natural s.maxPartners), ("probe_timeout_ms", .natural s.probeLimit),
     ("scorer", .term s.scorer)]

def AssessmentSettings.ofDocument? (dialect : Dialect) (document : Document) :
    Option AssessmentSettings := do
  let fields ← recordIn? dialect fieldNames document
  return {
    minProbability :=
      ← fields.defaulted "min_approval_probability" standard.minProbability byte?
    maxPartners := ← fields.defaulted "max_partners" standard.maxPartners word64?
    probeLimit := ← fields.defaulted "probe_timeout_ms" standard.probeLimit word64?
    scorer := ← fields.defaulted "scorer" standard.scorer (termIn? dialect) }

def CacheSettings.document (s : CacheSettings) : Document :=
  .table [("ttl_secs", .natural s.timeToLiveSeconds), ("capacity", .natural s.capacity)]

def CacheSettings.ofDocument? (dialect : Dialect) (document : Document) : Option CacheSettings := do
  let fields ← recordIn? dialect ["ttl_secs", "capacity"] document
  return {
    timeToLiveSeconds := ← fields.defaulted "ttl_secs" standard.timeToLiveSeconds word64?
    capacity := ← fields.defaulted "capacity" standard.capacity word64? }

def Settings.document (s : Settings) : Document :=
  .table
    [("log", s.log.document), ("prequal", s.assessment.document), ("cache", s.cache.document),
     ("partners", .list (s.partners.map Policy.document))]

def Settings.ofDocument? (dialect : Dialect) (document : Document) : Option Settings := do
  let fields ← recordIn? dialect ["log", "prequal", "cache", "partners"] document
  return {
    log := ← fields.defaulted "log" .standard (LogSettings.ofDocument? dialect)
    assessment := ← fields.defaulted "prequal" .standard (AssessmentSettings.ofDocument? dialect)
    cache := ← fields.defaulted "cache" .standard (CacheSettings.ofDocument? dialect)
    partners := ← fields.defaulted "partners" [] (list? (Policy.ofDocument? dialect)) }

end Lending
