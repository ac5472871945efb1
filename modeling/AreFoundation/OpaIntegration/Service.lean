import AreFoundation.Library.Encoding
import AreFoundation.Library.Transition
import AreFoundation.OpaIntegration.Evaluator

open EcmaScript

namespace OpaIntegration

structure EvaluateResponse where
  evaluationId         : String
  effect               : PolicyEffect
  decisionReason       : String
  matchedRules         : List RuleMatch
  firedRules           : List String
  activeBundleNames    : List String
  activeBundleVersions : List String
  evaluatedTs          : Int
  cacheHit             : Bool
  denyReason           : String

structure BundlePayload where
  bundleId               : String
  bundleName             : String
  version                : String
  regoSource             : String
  integritySha256        : Option String := none
  bundleSignatureEd25519 : Option String := none

-- What the registry answers at the time of a call.
structure PolicyRegistryClient where
  getActiveBundles : Except String (List BundlePayload)
  getActiveBundle  : String → Except String BundlePayload
  getBundle        : String → String → Except String BundlePayload

inductive EventType
  | bundleActivated
  | bundleDeprecated
  | other

structure PolicyLifecycleEvent where
  eventType     : EventType
  bundleName    : String
  bundleVersion : Option String := none

structure CacheEntry where
  value    : EvaluateResponse
  cachedTs : Int

structure EvaluationCache where
  ttlMs      : Int
  maxEntries : Nat
  map        : OrderedMap String CacheEntry := {}

namespace EvaluationCache

variable (cache : EvaluationCache)

def new (ttlSeconds : Int) (maxEntries : Nat) : EvaluationCache where
  ttlMs      := ttlSeconds * 1000
  maxEntries := maxEntries

def get (key : String) (nowMs : Int) : Option EvaluateResponse × EvaluationCache :=
  match cache.map.get? key with
  | none       => (none, cache)
  | some entry =>
    if nowMs - entry.cachedTs > cache.ttlMs then
      (none, { cache with map := cache.map.delete key })
    else
      (some { entry.value with cacheHit := true, evaluatedTs := nowMs },
        { cache with map := (cache.map.delete key).set key entry })

def set (key : String) (value : EvaluateResponse) (nowMs : Int) : EvaluationCache :=
  let map := (cache.map.delete key).set key ⟨{ value with cacheHit := false }, nowMs⟩
  { cache with
    map := if map.size > cache.maxEntries then map.keys.head?.elim map map.delete else map }

def invalidateForBundle (bundleName : String) : EvaluationCache :=
  { cache with map := cache.map.filter (bundleName ∉ ·.2.value.activeBundleNames) }

end EvaluationCache

-- What the cryptographic library of the runtime does with a public key and a signature.
class Ed25519 where
  createPublicKey : String → Except String Unit
  fromBase64      : String → List UInt8
  verify          : (msg : List UInt8) → (pem : String) → (sig : List UInt8) → Bool

-- The clock at the two times it is read, and the configured public key.
structure LoadEnv where
  loadedTs     : Int
  reloadTs     : Int
  publicKeyPem : Option String := none

abbrev Evaluator := EvaluateRequest → List LoadedBundle → Option DecisionResult

-- The evaluator that is used by default. It never throws.
def defaultEvaluator : Evaluator := fun request bundles => some <| evaluateWithBundles request bundles

structure OpaIntegrationService where
  cache                     : EvaluationCache
  loadedByName              : OrderedMap String LoadedBundle := {}
  consecutiveErrorsByBundle : OrderedMap String Nat := {}
  lastReloadTs              : Int := 0
  named                     : ∀ {name b}, (name, b) ∈ loadedByName → b.bundleName = name := by
                                exact (nomatch ·)

namespace EvaluateRequest

variable (request : EvaluateRequest)

-- The request with the admission envelope in force.
def effective (fetched : Except String (Option AdmissionEnvelope)) :
    Except String EvaluateRequest :=
  match request.context.admissionEnvelope with
  | some _ => .ok request
  | none   => do
    let env ← fetched
    return { request with context := { request.context with admissionEnvelope := env } }

end EvaluateRequest

namespace OpaIntegrationService

def new (cacheTtlSeconds : Int) (cacheMaxEntries : Nat) : OpaIntegrationService where
  cache := .new cacheTtlSeconds cacheMaxEntries

variable (svc : OpaIntegrationService)

def unload (bundleName : String) : OpaIntegrationService :=
  { svc with
    loadedByName := svc.loadedByName.delete bundleName
    named        := fun h => svc.named (OrderedMap.mem_delete.mp h).left }

def load (bundle : LoadedBundle) : OpaIntegrationService :=
  { svc with
    loadedByName := svc.loadedByName.set bundle.bundleName bundle
    named        := fun h => by
      rcases OrderedMap.mem_set.mp h with ⟨rfl, rfl⟩ | ⟨_, h⟩
      exacts [rfl, svc.named h] }

section Evaluate

def selectBundles (bundleNames : List String) : List LoadedBundle :=
  if bundleNames = [] then
    svc.loadedByName.values
  else
    svc.loadedByName.values.filter (·.bundleName ∈ bundleNames)

def flattenMetadata (metadata : OrderedMap String String) : String :=
  join "&" <| (sort metadata.keys).map fun k => k ++ "=" ++ (metadata.get? k).getD ""

def keyText (request : EvaluateRequest) (selected : List LoadedBundle) : String :=
  let versions := sort <| selected.map fun b => b.bundleName ++ ":" ++ b.version
  let envelopeId := request.context.admissionEnvelope.elim "none" (·.envelopeId)
  request.agentId ++ "|" ++ request.actionClass ++ "|" ++ request.resource ++ "|" ++
    request.context.passportId ++ "|" ++ join "," versions ++ "|" ++ envelopeId ++ "|" ++
    flattenMetadata request.context.actionMetadata

def buildCacheKey [Sha256] (request : EvaluateRequest) (selected : List LoadedBundle) : String :=
  sha256Hex <| asBytes <| keyText request selected

def denyResponse (request : EvaluateRequest) (now : Int) (selected : List LoadedBundle)
    (denyReason : String) : EvaluateResponse where
  evaluationId         := request.evaluationId
  effect               := .deny
  decisionReason       := "deny_by_default"
  matchedRules         := []
  firedRules           := []
  activeBundleNames    := selected.map (·.bundleName)
  activeBundleVersions := selected.map (·.version)
  evaluatedTs          := now
  cacheHit             := false
  denyReason           := denyReason

def toResponse (request : EvaluateRequest) (now : Int) (selected : List LoadedBundle)
    (decision : DecisionResult) : EvaluateResponse where
  evaluationId         := request.evaluationId
  effect               := decision.effect
  decisionReason       :=
    if decision.effect = .deny ∧ startsWith decision.denyReason "admission_" then
      "admission_envelope"
    else if decision.effect = .deny then
      "deny_by_default"
    else
      "policy_decision"
  matchedRules         := decision.matchedRules
  firedRules           := decision.firedRules
  activeBundleNames    := selected.map (·.bundleName)
  activeBundleVersions := selected.map (·.version)
  evaluatedTs          := now
  cacheHit             := false
  denyReason           := decision.denyReason

def errorsOf (bundleName : String) : Nat :=
  (svc.consecutiveErrorsByBundle.get? bundleName).getD 0

def resetErrors (bundle : LoadedBundle) : OpaIntegrationService :=
  { svc with
    consecutiveErrorsByBundle := svc.consecutiveErrorsByBundle.set bundle.bundleName 0 }

def recordError (bundle : LoadedBundle) : OpaIntegrationService :=
  let errors := svc.errorsOf bundle.bundleName + 1
  let svc := { svc with
    consecutiveErrorsByBundle := svc.consecutiveErrorsByBundle.set bundle.bundleName errors }
  if errors ≥ 10 then svc.unload bundle.bundleName else svc

-- The part of `evaluate` after the admission envelope has been resolved. It does not wait for
-- anything, so it is not interleaved with other calls.
def evaluateEffective [Sha256] (request : EvaluateRequest) (now : Int) (evaluator : Evaluator) :
    EvaluateResponse × OpaIntegrationService :=
  let selected := svc.selectBundles request.bundleNames
  let cacheKey := buildCacheKey request selected
  match svc.cache.get cacheKey now with
  | (some cached, cache) => (cached, { svc with cache })
  | (none, cache)        =>
    if selected = [] then
      let deny := denyResponse request now [] "no_policy_covers_action_class"
      (deny, { svc with cache := cache.set cacheKey deny now })
    else match evaluator request selected with
      | some decision =>
        let response := toResponse request now selected decision
        let svc := { svc with cache := cache.set cacheKey response now }
        (response, selected.foldl resetErrors svc)
      | none =>
        (denyResponse request now selected "evaluation_error",
          selected.foldl recordError { svc with cache })

-- `fetched` is what `resolveAdmissionEnvelope` returns if it is called, and no envelope without a
-- client.
def evaluate [Sha256] (request : EvaluateRequest) (now : Int)
    (fetched : Except String (Option AdmissionEnvelope)) (evaluator : Evaluator) :
    Except String EvaluateResponse × OpaIntegrationService :=
  if request.Invalid then
    (.error "INVALID_ARGUMENT", svc)
  else match request.effective fetched with
    | .error err => (.error err, svc)
    | .ok request =>
      let (response, svc) := svc.evaluateEffective request now evaluator
      (.ok response, svc)

end Evaluate

section Load

variable [Sha256] [Ed25519]

-- An absent text and an empty one are treated alike.
def verifyBundlePayload (payload : BundlePayload) (publicKeyPem : Option String) :
    Except String Unit :=
  let expected := (trim <| payload.integritySha256.getD "").toLower
  let sigB64 := trim <| payload.bundleSignatureEd25519.getD ""
  let pem := trim <| publicKeyPem.getD ""
  if expected ≠ "" ∧ sha256Hex (asBytes payload.regoSource) ≠ expected then
    .error "bundle_integrity_mismatch"
  else if sigB64 = "" then
    .ok ()
  else if expected = "" then
    .error "bundle_signature_requires_integritySha256"
  else if pem = "" then
    .error "bundle_signature_requires_ARE_OPA_BUNDLE_SIGNING_PUBLIC_KEY_PEM"
  else do
    Ed25519.createPublicKey pem
    let msg := asBytes <| payload.bundleId ++ "\n" ++ payload.version ++ "\n" ++ expected
    let sig := Ed25519.fromBase64 sigB64
    if sig.length ≠ 64 then
      .error "bundle_signature_invalid_length"
    else if !Ed25519.verify msg pem sig then
      .error "bundle_signature_verify_failed"
    else
      .ok ()

-- What `loadBundleFromPayload` loads if nothing is thrown.
def compileBundle (payload : BundlePayload) (env : LoadEnv) : Except String LoadedBundle := do
  verifyBundlePayload payload env.publicKeyPem
  let rules ← compileRegoLikeSource payload.regoSource
  return {
    bundleName   := payload.bundleName
    bundleId     := payload.bundleId
    version      := payload.version
    loadedTs     := env.loadedTs
    ruleCount    := rules.length
    compileValid := true
    rules        := rules }

def loadBundleFromPayload (payload : BundlePayload) (startupStrict : Bool) (env : LoadEnv) :
    Except String LoadedBundle × OpaIntegrationService :=
  match compileBundle payload env with
  | .ok loaded =>
    (.ok loaded, { svc.load loaded with
      cache        := svc.cache.invalidateForBundle payload.bundleName
      lastReloadTs := env.reloadTs })
  | .error err =>
    if startupStrict then
      (.error err, svc)
    else
      (.ok <| (svc.loadedByName.get? payload.bundleName).getD {
        bundleName   := payload.bundleName
        bundleId     := payload.bundleId
        version      := payload.version
        loadedTs     := env.loadedTs
        ruleCount    := 0
        compileValid := false
        rules        := [] }, svc)

-- The loop of `startupLoadBundles`. The first payload that cannot be loaded ends it.
def loadAll (env : BundlePayload → LoadEnv) :
    OpaIntegrationService → List BundlePayload → Except String Unit × OpaIntegrationService
  | svc, []                => (.ok (), svc)
  | svc, payload :: active =>
    match svc.loadBundleFromPayload payload true (env payload) with
    | (.error err, svc) => (.error err, svc)
    | (.ok _, svc)      => loadAll env svc active

def startupLoadBundles (registry : PolicyRegistryClient) (env : BundlePayload → LoadEnv) :
    Except String Unit × OpaIntegrationService :=
  match registry.getActiveBundles with
  | .error err => (.error err, svc)
  | .ok []     => (.error "no_active_bundles", svc)
  | .ok active => loadAll env svc active

def reloadBundle (bundleName : String) (registry : PolicyRegistryClient) (env : LoadEnv) :
    Except String (LoadedBundle × Bool × String) × OpaIntegrationService :=
  if bundleName = "" then
    (.error "INVALID_ARGUMENT", svc)
  else match registry.getActiveBundle bundleName with
    | .error err => (.error err, svc)
    | .ok active =>
      match (svc.loadedByName.get? bundleName).filter (·.version = active.version) with
      | some existing => (.ok (existing, false, "no-op, already current version"), svc)
      | none          =>
        let (loaded, svc) := svc.loadBundleFromPayload active false env
        (loaded.map (·, true, "bundle reloaded"), svc)

def handleLifecycleEvent (event : PolicyLifecycleEvent) (registry : PolicyRegistryClient)
    (env : LoadEnv) : Except String Unit × OpaIntegrationService :=
  match event.eventType with
  | .bundleActivated =>
    let fetched := match event.bundleVersion with
      | none | some "" => registry.getActiveBundle event.bundleName
      | some version   => registry.getBundle event.bundleName version
    match fetched with
    | .error err  => (.error err, svc)
    | .ok payload => (.ok (), (svc.loadBundleFromPayload payload false env).2)
  | .bundleDeprecated =>
    (.ok (), { svc.unload event.bundleName with
      cache        := svc.cache.invalidateForBundle event.bundleName
      lastReloadTs := env.reloadTs })
  | .other => (.ok (), svc)

end Load

end OpaIntegrationService

-- Between two steps every call waits or has returned.
inductive Op
  | startupLoadBundles (registry : PolicyRegistryClient) (env : BundlePayload → LoadEnv)
  | evaluate (request : EvaluateRequest) (now : Int)
      (fetched : Except String (Option AdmissionEnvelope)) (evaluator : Evaluator)
  | reloadBundle (bundleName : String) (registry : PolicyRegistryClient) (env : LoadEnv)
  | handleLifecycleEvent (event : PolicyLifecycleEvent) (registry : PolicyRegistryClient)
      (env : LoadEnv)

namespace OpaIntegrationService

variable [Sha256] [Ed25519]

def step (svc : OpaIntegrationService) : Op → OpaIntegrationService
  | .startupLoadBundles registry env           => (svc.startupLoadBundles registry env).2
  | .evaluate request now fetched evaluator    => (svc.evaluate request now fetched evaluator).2
  | .reloadBundle bundleName registry env      => (svc.reloadBundle bundleName registry env).2
  | .handleLifecycleEvent event registry env   => (svc.handleLifecycleEvent event registry env).2

def system : Transition.System OpaIntegrationService Op where
  allows _ _ := True
  step       := step

abbrev Run (g : Transition.Guard OpaIntegrationService Op) := Transition.Run system g

end OpaIntegrationService

end OpaIntegration
