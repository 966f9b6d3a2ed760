import Lending.Cache.Basic
import Lending.Cache.Slot
import Lending.Engine.Assessment

/-!
# The engine

The engine answers applications. It computes each answer at most once while the cache holds it, and
counts its work: how often the scorer was asked, and how often each partner.
-/

namespace Lending

/-- What makes two applications the same: who asks for how much of what. -/
structure CacheKey where
  tenant : TenantId
  user : UserId
  amount : Amount
  product : Product
deriving DecidableEq

def Application.key (a : Application) : CacheKey :=
  ⟨a.tenant, a.user, a.request.amount, a.request.product⟩

structure EngineConfig where
  /-- The limit for every question to a partner, in milliseconds. -/
  probeLimit : Nat
  options : Options
deriving DecidableEq

def EngineConfig.standard : EngineConfig := ⟨5000, .standard⟩

structure Engine where
  directory : Directory
  scorer : Scorer
  config : EngineConfig
  cache : Cache CacheKey Assessment
  slots : SlotTable CacheKey
  /-- The questions to each partner, an entry for every registration. -/
  probes : List (PartnerId × Nat)
  scorerCalls : Nat
  /-- How many assessments were computed. -/
  computed : Nat

namespace Engine

def start (scorer : Scorer) (config : EngineConfig) (cache : Cache CacheKey Assessment) : Engine :=
  ⟨.empty, scorer, config, cache, .empty, [], 0, 0⟩

def setting (e : Engine) : Setting := ⟨e.directory, e.scorer, e.config.probeLimit⟩

/-- Counts a question to a partner in its latest registration. -/
def countProbe (id : PartnerId) : List (PartnerId × Nat) → List (PartnerId × Nat)
  | [] => []
  | (other, n) :: rest =>
    if other = id ∧ rest.all (fun entry => entry.1 != id) then (other, n + 1) :: rest
    else (other, n) :: countProbe id rest

/-- Has the scorer decide on an application. -/
def score (e : Engine) (a : Application) : Decision × Engine :=
  (e.setting.decision a, { e with scorerCalls := e.scorerCalls + 1 })

/-- Asks a partner, without waiting for the reply. -/
def ask (e : Engine) (a : Application) (entry : Partner × Nat) : Task × Engine :=
  (.start e.config.probeLimit a.profile entry.1 entry.2,
    { e with probes := countProbe entry.1.id e.probes })

def askAll (e : Engine) (a : Application) : List (Partner × Nat) → List Task × Engine
  | [] => ([], e)
  | entry :: rest =>
    let (task, e) := e.ask a entry
    let (tasks, e) := e.askAll a rest
    (task :: tasks, e)

/-- Asks the scorer, then all partners on the shortlist, and gathers what they come to. -/
def compute (e : Engine) (a : Application) (options : Options) : Assessment × Engine :=
  let (decision, e) := e.score a
  let (tasks, e) := e.askAll a (decision.shortlisted (e.directory.offering a.request.product) options)
  let candidates := Probing.gather (Probing.endingOrder tasks) tasks
  (⟨e.computed, .ofCandidates a options decision candidates⟩, { e with computed := e.computed + 1 })

def lookUp (e : Engine) (a : Application) (now : Nat) : Option Assessment × Engine :=
  let (found, cache) := e.cache.get a.key now
  (found, { e with cache := cache })

def store (e : Engine) (a : Application) (assessment : Assessment) (now : Nat) : Engine :=
  { e with cache := (e.cache.insert a.key assessment now).2 }

/-- What has to be in order before anything is done. -/
def check (a : Application) (options : Options) : Except ServiceFault Unit := do
  options.validate
  a.validate

/-- Answers an application from the cache, as it is at the time `arrival`, or by computing; what was
computed is stored at the time `finish`. -/
def answer (e : Engine) (a : Application) (options : Options) (arrival finish : Nat) :
    Except ServiceFault Assessment × Engine :=
  match check a options with
  | .error fault => (.error fault, e)
  | .ok () =>
    match e.lookUp a arrival with
    | (some found, e) => (.ok found, e)
    | (none, e) =>
      let (slot, slots) := e.slots.take a.key
      let (assessment, e) := { e with slots := slots }.compute a options
      let e := e.store a assessment finish
      (.ok assessment, { e with slots := e.slots.drop slot })

/-- Answers an application while the clock stands still. -/
def preQualify (e : Engine) (a : Application) (options : Options) (now : Nat) :
    Except ServiceFault Assessment × Engine :=
  e.answer a options now now

/-- Forgets the answer to an application, and tells whether there was one. -/
def invalidate (e : Engine) (a : Application) : Bool × Engine :=
  let (present, cache) := e.cache.invalidate a.key
  (present, { e with cache := cache })

def clear (e : Engine) : Engine := { e with cache := e.cache.clear }

def register (e : Engine) (p : Partner) : Except PartnerFault Bool × Engine :=
  match e.directory.register p with
  | (.ok true, directory) =>
    (.ok true, { e with directory := directory, probes := e.probes ++ [(p.id, 0)] })
  | (answer, directory) => (answer, { e with directory := directory })

def unregister (e : Engine) (id : PartnerId) : Bool × Engine :=
  let (present, directory) := e.directory.unregister id
  (present, { e with directory := directory })

end Engine
end Lending
