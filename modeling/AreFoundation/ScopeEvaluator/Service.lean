import Mathlib.Data.Finset.Card
import AreFoundation.Library.HashMap
import AreFoundation.ScopeEvaluator.GlobMatch

namespace ScopeEvaluator

structure ScopeEntry where
  scopeId            : String
  actionClass        : String
  resourcePattern    : String
  contextConstraints : HashMap String String
  expiresTs          : Int
  isEscalation       : Bool
  deriving DecidableEq

structure Passport where
  passportId   : String
  passportType : String
  expiresTs    : Int
  scopes       : List ScopeEntry
  deriving DecidableEq

structure EvaluateScopeRequest where
  evaluationId : String
  agentId      : String
  actionClass  : String
  resource     : String
  context      : HashMap String String := ∅

-- A field is missing.
abbrev EvaluateScopeRequest.Invalid (request : EvaluateScopeRequest) : Prop :=
  request.evaluationId = "" ∨ request.agentId = "" ∨ request.actionClass = "" ∨ request.resource = ""

structure ScopeMatch where
  scopeId         : String
  actionClass     : String
  resourcePattern : String
  isEscalation    : Bool
  scopeExpiresTs  : Int
  deriving DecidableEq

inductive MissReason
  | scopeExpired
  | actionClassMismatch
  | resourcePatternNoMatch
  | invalidPattern
  | contextConstraintFailed
  deriving DecidableEq

def MissReason.toRaw : MissReason → String
  | scopeExpired            => "SCOPE_EXPIRED"
  | actionClassMismatch     => "ACTION_CLASS_MISMATCH"
  | resourcePatternNoMatch  => "RESOURCE_PATTERN_NO_MATCH"
  | invalidPattern          => "INVALID_PATTERN"
  | contextConstraintFailed => "CONTEXT_CONSTRAINT_FAILED"

structure ScopeMiss where
  scopeId     : String
  actionClass : String
  missReason  : String
  deriving DecidableEq

structure EvaluateScopeResponse where
  evaluationId      : String
  agentId           : String
  inScope           : Bool
  scopeMatches      : List ScopeMatch
  misses            : List ScopeMiss
  passportId        : String
  passportType      : String
  passportExpiresTs : Int
  passportExpired   : Bool
  cacheHit          : Bool
  evaluatedTs       : Int
  deriving DecidableEq

inductive ScopeError
  | invalidArgument
  | notFound
  | unavailable
  deriving DecidableEq

structure CachedPassport where
  passport : Passport
  cachedAt : Int

-- Times are nanoseconds of the monotonic clock.
structure PassportCache where
  entries    : HashMap String CachedPassport := ∅
  lru        : List String := []
  maxEntries : Nat
  ttl        : Int

namespace PassportCache

variable (cache : PassportCache)

def new (maxEntries ttlSeconds : Nat) : PassportCache where
  maxEntries := maxEntries
  ttl        := ttlSeconds * 1000000000

def remove (agentId : String) : PassportCache :=
  if agentId ∈ cache.entries then
    { cache with entries := cache.entries.erase agentId, lru := cache.lru.filter (· ≠ agentId) }
  else
    cache

def touch (agentId : String) : PassportCache :=
  { cache with lru := cache.lru.filter (· ≠ agentId) ++ [agentId] }

def get (agentId : String) (now : Int) : Option Passport × PassportCache :=
  match cache.entries.lookup agentId with
  | none       => (none, cache)
  | some entry =>
    if now - entry.cachedAt > cache.ttl then
      (none, cache.remove agentId)
    else
      (some entry.passport, cache.touch agentId)

-- The loop of `insert` that removes the oldest entries until the rest fits.
def evict (maxEntries : Nat) (entries : HashMap String CachedPassport) :
    List String → HashMap String CachedPassport × List String
  | []            => (entries, [])
  | oldest :: lru =>
    if entries.keys.card > maxEntries then
      evict maxEntries (entries.erase oldest) lru
    else
      (entries, oldest :: lru)

def insert (agentId : String) (passport : Passport) (now : Int) : PassportCache :=
  let cache := cache.remove agentId
  let (entries, lru) := evict cache.maxEntries
    (cache.entries.insert agentId ⟨passport, now⟩) (cache.lru ++ [agentId])
  { cache with entries, lru }

end PassportCache

-- The counter wraps around, since overflow is not checked in release builds.
structure CircuitBreaker where
  consecutiveFailures : UInt32 := 0
  isOpen              : Bool := false

def CircuitBreaker.fail (circuit : CircuitBreaker) (threshold : UInt32) : CircuitBreaker where
  consecutiveFailures := circuit.consecutiveFailures + 1
  isOpen              := circuit.isOpen || circuit.consecutiveFailures + 1 ≥ threshold

structure ScopeEvaluatorService where
  cache     : PassportCache
  circuit   : CircuitBreaker := {}
  threshold : UInt32

namespace ScopeEvaluatorService

def new (cacheMaxEntries cacheTtlSeconds : Nat) (threshold : UInt32) : ScopeEvaluatorService where
  cache     := .new cacheMaxEntries cacheTtlSeconds
  threshold := threshold

variable (svc : ScopeEvaluatorService)

-- `fetched` is what the passport client answers if it is asked.
def getOrFetchPassport (agentId : String) (now : Int) (fetched : Except ScopeError Passport) :
    Except ScopeError (Passport × Bool) × ScopeEvaluatorService :=
  match svc.cache.get agentId now with
  | (some p, cache) => (.ok (p, true), { svc with cache })
  | (none, cache) =>
    if svc.circuit.isOpen then
      (.error .unavailable, { svc with cache })
    else match fetched with
      | .ok passport =>
        (.ok (passport, false),
          { svc with cache := cache.insert agentId passport now, circuit := {} })
      | .error err =>
        (.error <| if err = .notFound then .notFound else .unavailable,
          { svc with cache, circuit := svc.circuit.fail svc.threshold })

def contextMatches (constraints request : HashMap String String) : Bool :=
  if constraints.keys.card = 0 then
    true
  else if request.keys.card ≠ constraints.keys.card then
    false
  else
    ∀ k ∈ constraints.keys, request.lookup k = constraints.lookup k

def miss (scope : ScopeEntry) (reason : MissReason) : ScopeMiss where
  scopeId     := scope.scopeId
  actionClass := scope.actionClass
  missReason  := reason.toRaw

-- The body of the loop over the scopes of the passport.
def evaluateEntry (request : EvaluateScopeRequest) (now : Int) (scope : ScopeEntry) :
    Except ScopeMiss ScopeMatch :=
  if scope.expiresTs ≤ now then
    .error <| miss scope .scopeExpired
  else if scope.actionClass ≠ request.actionClass then
    .error <| miss scope .actionClassMismatch
  else match globMatch scope.resourcePattern request.resource with
    | .error _  => .error <| miss scope .invalidPattern
    | .ok false => .error <| miss scope .resourcePatternNoMatch
    | .ok true  =>
      if contextMatches scope.contextConstraints request.context then
        .ok { scopeId         := scope.scopeId
              actionClass     := scope.actionClass
              resourcePattern := scope.resourcePattern
              isEscalation    := scope.isEscalation
              scopeExpiresTs  := scope.expiresTs }
      else
        .error <| miss scope .contextConstraintFailed

end ScopeEvaluatorService

-- The rest of `evaluate_scope` once there is a passport.
def EvaluateScopeRequest.respond (request : EvaluateScopeRequest) (now : Int) (passport : Passport)
    (cacheHit : Bool) : EvaluateScopeResponse :=
  let passportExpired := decide (passport.expiresTs ≤ now)
  let results := passport.scopes.map (ScopeEvaluatorService.evaluateEntry request now)
  let scopeMatches := results.filterMap (·.toOption)
  { evaluationId      := request.evaluationId
    agentId           := request.agentId
    inScope           := !passportExpired && !scopeMatches.isEmpty
    scopeMatches      := scopeMatches
    misses            := results.filterMap fun | .error miss => some miss | .ok _ => none
    passportId        := passport.passportId
    passportType      := passport.passportType
    passportExpiresTs := passport.expiresTs
    passportExpired   := passportExpired
    cacheHit          := cacheHit
    evaluatedTs       := now }

namespace ScopeEvaluatorService

-- What the wall clock in milliseconds and the monotonic clock in nanoseconds return.
structure Clock where
  millis    : Int
  monotonic : Int

def evaluateScope (svc : ScopeEvaluatorService) (request : EvaluateScopeRequest) (clock : Clock)
    (fetched : Except ScopeError Passport) :
    Except ScopeError EvaluateScopeResponse × ScopeEvaluatorService :=
  if request.Invalid then
    (.error .invalidArgument, svc)
  else match svc.getOrFetchPassport request.agentId clock.monotonic fetched with
    | (.error err, svc)               => (.error err, svc)
    | (.ok (passport, cacheHit), svc) => (.ok <| request.respond clock.millis passport cacheHit, svc)

end ScopeEvaluatorService

end ScopeEvaluator
