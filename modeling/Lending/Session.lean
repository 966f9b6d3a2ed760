import Lending.Application.Document
import Lending.Document.Json
import Lending.Document.Toml
import Lending.Settings.Document
import Lending.Settings.Override

/-!
# Sessions

One run of the program: it loads its settings, registers its partners, reads one request and answers
it. All that a session knows of the world is its surroundings.
-/

namespace Lending

/-- What stands under the name of a file. -/
inductive FileContent where
  | missing
  /-- There is something, but no text. -/
  | unreadable
  | text (content : String)
deriving DecidableEq

/-- The world of a session: its arguments, its variables and its files. -/
structure Surroundings where
  arguments : List String
  environment : String → Option String
  file : String → FileContent

namespace Settings

def ofText (text : String) : Except SettingsFault Settings :=
  match (Toml.read? text).bind (ofDocument? .toml) with
  | some s => .ok s
  | none => .error .malformed

/-- Reads settings from a file that must be there. -/
def ofFile : FileContent → Except SettingsFault Settings
  | .text content => ofText content
  | _ => .error .unreadable

def fileName (world : Surroundings) : String :=
  (world.environment (variablePrefix ++ "CONFIG_FILE")).getD "prequal.toml"

/-- The settings of a session: those of the file, if there is one, under the variables. -/
def load (world : Surroundings) : Except SettingsFault Settings := do
  let s ← match world.file (fileName world) with
    | .missing => pure standard
    | content => ofFile content
  let (outcome, s) := s.override world.environment
  outcome
  return s

end Settings

namespace Session

/-- The partners of a session whose settings name none. -/
def builtinPartners : List Policy :=
  [{ Policy.named "steady-capital" "Steady Capital" with
      type := .conservativeNbfc
      products := [.termLoan, .workingCapital, .invoiceFinancing]
      minRate := .ofNat 12
      minHours := 72
      maxHours := 120
      minYears := .ofNat 2
      minCredit := 680 },
   { Policy.named "quickcash" "QuickCash" with
      products := [.invoiceFinancing, .workingCapital]
      minRate := .ofNat 15
      minHours := 24
      maxHours := 48 },
   { Policy.named "national-bank" "National Bank" with
      type := .bank
      products := [.termLoan, .creditLine, .equipmentFinancing, .invoiceFinancing]
      maxAmount := .ofNat 50000000
      minRate := .ofNat 10
      minHours := 120
      maxHours := 240
      minYears := .ofNat 3
      minCredit := 700 }]

/-- The request of a session that is given none. -/
def sampleRequest : Intake where
  tenant := "demo-tenant"
  user := "demo-user"
  profile :=
    { Profile.empty with
      years? := some (.ofNat 4)
      revenue? := some (.ofNat 12000000)
      credit? := some 730
      businessName := some "Demo Traders" }
  amount := .ofNat 1000000
  product := .invoiceFinancing
  purpose := none
  urgency := none
  options? := none

/-- Why a session ends without an answer. -/
inductive Fault where
  | loading (fault : SettingsFault)
  | validating (fault : SettingsFault)
  | registering (fault : PartnerFault)
  | scorer (fault : SettingsFault)
  | readingRequest (path : String)
  | parsingRequest (path : String)
  | service (fault : ServiceFault)
deriving DecidableEq

def Fault.message : Fault → String
  | loading _ => "loading configuration"
  | validating _ => "validating configuration"
  | registering _ => "registering partner"
  | scorer fault => fault.message
  | readingRequest path => "reading request file " ++ path
  | parsingRequest path => "parsing request file " ++ path
  | service fault => fault.message

/-- Registers simulated partners, up to the first that is refused. -/
def registerAll : List Policy → Engine → Except Fault Engine
  | [], e => .ok e
  | p :: rest, e =>
    match e.register p.partner with
    | (.ok _, e) => registerAll rest e
    | (.error fault, _) => .error (.registering fault)

/-- The request that the first argument names. -/
def request (world : Surroundings) : Except Fault Intake :=
  match world.arguments with
  | [] => .ok sampleRequest
  | path :: _ =>
    match world.file path with
    | .text content =>
      match (Json.read? content).bind Intake.ofDocument? with
      | some intake => .ok intake
      | none => .error (.parsingRequest path)
    | _ => .error (.readingRequest path)

def run (world : Surroundings) : Except Fault Assessment := do
  let settings ← (Settings.load world).mapError .loading
  settings.validate.mapError .validating
  let partners := if settings.partners.isEmpty then builtinPartners else settings.partners
  let idle := Engine.start .standard settings.engineConfig settings.cache.build
  let ready ← registerAll partners idle
  let scorer ← (settings.assessment.scorer.build none).mapError .scorer
  let engine := { ready with scorer := scorer }
  let intake ← request world
  let (application, options?) ← intake.application.mapError .service
  let (answer, _) := engine.preQualify application (options?.getD settings.options) 0
  answer.mapError .service

end Session
end Lending
