import AreFoundation.Library.Interleaving
import AreFoundation.RestBff.Repo
import AreFoundation.RestBff.S0Delegate

namespace RestBff

open S0Delegate

structure Response where
  status : HttpStatus
  body   : Json

def jsonError (requestId code message : String) (retryable : Bool) (status : HttpStatus) :
    Response where
  status := status
  body   := .object
    [("error", .object
      [("code", .string code), ("message", .string message), ("request_id", .string requestId),
        ("retryable", .bool retryable)])]

def invalidArgument (requestId message : String) : Response :=
  jsonError requestId "INVALID_ARGUMENT" message false .badRequest

def storageError (requestId : String) : Response :=
  jsonError requestId "INTERNAL" "storage error" false .internalServerError

def missingIdempotencyKey (requestId : String) : Response :=
  jsonError requestId "MISSING_IDEMPOTENCY_KEY" "idempotency key required" false .badRequest

def unknownAgent (requestId : String) : Response :=
  jsonError requestId "NOT_FOUND" "unknown agent_id" false .notFound

def upstreamCode : HttpStatus → String
  | .badRequest                                       => "INVALID_ARGUMENT"
  | .notFound                                         => "NOT_FOUND"
  | .conflict                                         => "IDEMPOTENCY_CONFLICT"
  | .gatewayTimeout                                   => "DEPENDENCY_TIMEOUT"
  | .internalServerError | .badGateway                => "POLICY_ENGINE_UNAVAILABLE"
  | .unauthorized | .forbidden | .ok | .created       => "UPSTREAM_ERROR"

def s0DelegateError (requestId : String) (err : DelegateError) : Response :=
  let status := upstreamHttp err
  let message := match err with
    | .notFound  => "upstream error"
    | .status st => if Go.trimSpace st.message = "" then "upstream error" else Go.trimSpace st.message
  jsonError requestId (upstreamCode status) message (upstreamIsRetryable err) status

-- Which of the two services are called. Without them the handlers answer on their own. The storage
-- fails at most if it is not in the memory of the process.
structure Config where
  reg            : Bool
  pass           : Bool
  storageMayFail : Bool := false

structure World (ρ : Type) where
  repo     : ρ
  registry : AgentRegistry.Registry
  engine   : PassportIssuance.Service

-- What the outside decides in a step of a handler.
structure Env where
  storageFails : Bool := false
  registry     : RegistryEnv
  engine       : EngineEnv

section RegisterAgent

structure RegisterPayload where
  agentType : String
  ownerId   : String
  metadata  : OrderedMap String Json
  admission : OrderedMap String Json

-- The type and the owner in a body, unless it cannot be decoded.
def agentFields? (body : Json) : Option (String × String) := do
  let resp ← body.asStruct?
  let agent ← (resp.field "agent").asStruct?
  let agentType ← (agent.field "agent_type").asText?
  let ownerId ← (agent.field "owner_id").asText?
  return (agentType, ownerId)

def registerBodyConflict (cachedResp : Json) (newAgentType newOwnerId : String) : Bool :=
  match agentFields? cachedResp with
  | none                      => false
  | some (agentType, ownerId) =>
    Go.trimSpace agentType ≠ Go.trimSpace newAgentType ||
      Go.trimSpace ownerId ≠ Go.trimSpace newOwnerId

def registerPayload? (requestId idem : String) (body : Option Json) :
    Except Response RegisterPayload :=
  if idem = "" then
    .error <| missingIdempotencyKey requestId
  else match body.bind Json.asStruct? with
    | none         => .error <| invalidArgument requestId "invalid json body"
    | some payload =>
      let agentType := (payload.field "agent_type").asString
      let ownerId := (payload.field "owner_id").asString
      if Go.trimSpace agentType = "" ∨ Go.trimSpace ownerId = "" then
        .error <| invalidArgument requestId "agent_type and owner_id are required"
      else
        .ok { agentType, ownerId
              metadata  := (payload.field "metadata").toMap
              admission := (payload.field "admission_envelope").toMap }

def registerKey (idem : String) : String :=
  "RegisterAgent:" ++ idem

def localAgentId (idem : String) : String :=
  "agt-" ++ idem

def localAgentBody (agentId agentType ownerId status : String) : Json :=
  .object
    [("agent", .object
      [("agent_id", .string agentId), ("agent_type", .string agentType),
        ("owner_id", .string ownerId), ("status", .string status)])]

def RegisterPayload.localRec (payload : RegisterPayload) : AgentRec where
  agentType         := payload.agentType
  ownerId           := payload.ownerId
  metadata          := payload.metadata
  status            := "ACTIVE"
  admissionEnvelope := payload.admission

def agentRecFromRegisterResponseBody (body : Json) (fallbackType fallbackOwner : String) :
    Option AgentRec := do
  let w ← body.asStruct?
  let a ← (w.field "agent").asStruct?
  let agentType ← (a.field "agent_type").asText?
  let ownerId ← (a.field "owner_id").asText?
  let status ← (a.field "status").asText?
  let metadata ← (a.field "metadata").asStruct?
  return {
    agentType := if agentType = "" then fallbackType else agentType
    ownerId   := if ownerId = "" then fallbackOwner else ownerId
    metadata  := metadata.toMap
    status    := if Go.trimSpace status = "" then "ACTIVE" else Go.trimSpace status }

end RegisterAgent

section IssuePassport

structure IssuePayload where
  agentId      : String
  passportType : String
  issuedBy     : String
  reason       : String
  ttl          : Int
  scopeRows    : List Json
  forceReissue : Bool

def asInt64 : Json → Option Int
  | .number value => some <| Go.int64 value
  | .string value => Go.parseInt <| Go.trimSpace value
  | _             => none

def checkScopeRow (requestId : String) (row : Json) : Except Response Unit :=
  if !row.isObject then
    .error <| invalidArgument requestId "invalid requested_scopes entry"
  else if Go.trimSpace (row.field "action_class").asString = "" ∨
      Go.trimSpace (row.field "resource_pattern").asString = "" then
    .error <| invalidArgument requestId
      "requested_scopes require action_class and resource_pattern"
  else
    .ok ()

def issuePayload? (requestId : String) (body : Option Json) : Except Response IssuePayload :=
  match body.bind Json.asStruct? with
  | none         => .error <| invalidArgument requestId "invalid json body"
  | some payload =>
    let agentId := (payload.field "agent_id").asString
    let passportType := (payload.field "passport_type").asString
    let issuedBy := (payload.field "issued_by").asString
    let reason := (payload.field "reason").asString
    let scopeRows := (payload.field "requested_scopes").elements
    match asInt64 <| payload.field "ttl_seconds" with
    | none     => .error <| invalidArgument requestId required
    | some ttl =>
      if Go.trimSpace agentId = "" ∨ Go.trimSpace passportType = "" ∨ scopeRows = [] ∨
          Go.trimSpace issuedBy = "" ∨ Go.trimSpace reason = "" then
        .error <| invalidArgument requestId required
      else do
        scopeRows.forM <| checkScopeRow requestId
        return {
          agentId, passportType, issuedBy, reason, ttl, scopeRows
          forceReissue := match payload.field "force_reissue" with
            | .bool value => value
            | _           => false }
where
  required : String :=
    "agent_id, passport_type, requested_scopes, ttl_seconds, issued_by, and reason are required"

def passportKey (idem : String) : String :=
  "IssuePassport:" ++ idem

def localPassportId (idem : String) : String :=
  "ppt-" ++ idem

def localScope (idem : String) (row : Json) (i : Nat) : Json :=
  .object
    [("scope_id", .string <| "scp-" ++ idem ++ "-" ++ toString i),
      ("action_class", .string (row.field "action_class").asString),
      ("resource_pattern", .string (row.field "resource_pattern").asString)]

def IssuePayload.localBody (payload : IssuePayload) (idem : String) : Json :=
  .object
    [("passport", .object
      [("passport_id", .string <| localPassportId idem), ("agent_id", .string payload.agentId),
        ("passport_type", .string payload.passportType),
        ("scope_set", .array <| payload.scopeRows.zipIdx.map fun (row, i) => localScope idem row i),
        ("status", .string "ACTIVE"), ("issued_by", .string payload.issuedBy)])]

def IssuePayload.toRequest [Format] (payload : IssuePayload) :
    PassportIssuance.Grpc.IssuePassportRequest :=
  buildIssueRequest payload.agentId payload.passportType payload.issuedBy payload.reason payload.ttl
    payload.scopeRows payload.forceReissue

end IssuePassport

section Read

-- The passport in a body, `null` if there is none.
def publicPassportFromBody (body : Json) : Json :=
  match body with
  | .object fields => if ((Json.object fields).field "passport").isObject then
      (Json.object fields).field "passport" else .null
  | _              => .null

-- The condition that `verifyPassport` reports.
def passportVerified [Repository ρ] (rp : ρ) (passportId agentId : String) : Bool :=
  match Repository.getPassportBody rp passportId with
  | none      => false
  | some body =>
    let passport := publicPassportFromBody body
    passport.isObject && (passport.field "agent_id").isString agentId &&
      (passport.field "status").isString "ACTIVE"

def resourcePatternMatches (pattern resource : String) : Bool :=
  let pattern := Go.trimSpace pattern
  if pattern = "*" ∨ pattern = resource then
    true
  else if Go.hasSuffix pattern "*" then
    Go.hasPrefix resource (Go.trimSuffix pattern "*")
  else
    false

-- The function literal `matches` of `scopeAllows`.
def passportMatches (agentId actionClass resource : String) (passport : Json) : Bool :=
  (passport.field "agent_id").isString agentId && (passport.field "status").isString "ACTIVE" &&
    (passport.field "scope_set").elements.any fun row =>
      row.isObject && (row.field "action_class").asString = actionClass &&
        resourcePatternMatches (row.field "resource_pattern").asString resource

def scopeAllows [Repository ρ] (rp : ρ) (agentId passportId actionClass resource : String) :
    Bool × String :=
  let found body := passportMatches agentId actionClass resource <| publicPassportFromBody body
  if Go.trimSpace passportId ≠ "" then
    match Repository.getPassportBody rp passportId with
    | none      => (false, "passport not found")
    | some body =>
      if found body then
        (true, "scope matched requested passport")
      else
        (false, "scope missing or passport inactive")
  else if (Repository.listPassportBodiesByAgent rp agentId).any found then
    (true, "scope matched active passport")
  else
    (false, "no active passport scope matched")

end Read

inductive Request
  | registerAgent (requestId idem : String) (body : Option Json)
  | getAgent (requestId suffix : String)
  | issuePassport (requestId idem : String) (body : Option Json)
  | listPassportsByAgent (requestId suffix : String)
  | verifyPassport (requestId : String) (body : Option Json)
  | evaluateScope (requestId : String) (body : Option Json)

-- The points of a handler before each access to the repository or a service. All other work is done
-- together with the access that precedes it.
inductive Pc
  | start
  | registering (payload : RegisterPayload)
  | finishingRegister (agentId : String) (body : Json) (record : AgentRec)
  | findingAgent (payload : IssuePayload)
  | issuing (payload : IssuePayload)
  | finishingPassport (agentId : String) (body : Json)
  | returned (response : Response)

namespace World

variable [Repository ρ] (w : World ρ)

section Handlers

variable (cfg : Config) (requestId idem : String) (body : Option Json) (env : Env)

def registerAgent : Pc :=
  match registerPayload? requestId idem body with
  | .error response => .returned response
  | .ok payload     =>
    if env.storageFails then
      .returned <| storageError requestId
    else match Repository.getRegisterIdem w.repo (registerKey idem) with
      | some prev =>
        if registerBodyConflict prev payload.agentType payload.ownerId then
          .returned <| jsonError requestId "IDEMPOTENCY_CONFLICT"
            "idempotency key reused with different body" false .conflict
        else
          .returned ⟨.created, prev⟩
      | none =>
        if cfg.reg then
          .registering payload
        else
          .finishingRegister (localAgentId idem)
            (localAgentBody (localAgentId idem) payload.agentType payload.ownerId "ACTIVE")
            payload.localRec

def callRegister [Format] (payload : RegisterPayload) : World ρ × Pc :=
  match S0Delegate.register w.registry payload.agentType payload.ownerId payload.metadata
      payload.admission env.registry with
  | (.error err, registry)           =>
    ({ w with registry }, .returned <| s0DelegateError requestId err)
  | (.ok (body, agentId), registry) =>
    ({ w with registry },
      match agentRecFromRegisterResponseBody body payload.agentType payload.ownerId with
      | none        =>
        .returned <| jsonError requestId "INTERNAL" "marshal failed" false .internalServerError
      | some record =>
        .finishingRegister agentId body <|
          if payload.admission.size > 0 then
            { record with admissionEnvelope := payload.admission }
          else
            record)

def finishRegister (agentId : String) (body : Json) (record : AgentRec) : World ρ × Pc :=
  if env.storageFails then
    (w, .returned <| storageError requestId)
  else
    let (out, repo) := Repository.finishRegister w.repo (registerKey idem) agentId body record
    ({ w with repo }, .returned ⟨.created, out⟩)

def getAdmissionEnvelope (agentId : String) : Response :=
  let notFound := jsonError requestId "NOT_FOUND" "admission envelope not found" false .notFound
  if cfg.reg then
    match getAdmissionEnvelopeJson w.registry agentId env.registry with
    | .ok body   => ⟨.ok, body⟩
    | .error err => if err.isNotFound then notFound else s0DelegateError requestId err
  else if env.storageFails then
    storageError requestId
  else match Repository.getAdmissionEnvelope w.repo agentId with
    | none          => notFound
    | some envelope =>
      ⟨.ok, .object [("agent_id", .string agentId), ("admission_envelope", .ofMap envelope)]⟩

-- `suffix` is what follows in the path after `/v1/identity/agents/`.
def getAgent (suffix : String) : Response :=
  if suffix = "" then
    invalidArgument requestId "agent id required"
  else if Go.hasSuffix suffix "/admission-envelope" then
    let agentId := Go.trimSpace <| Go.trimSuffix suffix "/admission-envelope"
    if agentId = "" ∨ '/' ∈ agentId.toList then
      invalidArgument requestId "agent id required"
    else
      w.getAdmissionEnvelope cfg requestId env agentId
  else
    let agentId := Go.trimSpace <| Go.trimSuffix suffix ":check"
    if agentId = "" then
      invalidArgument requestId "agent id required"
    else if cfg.reg then
      match getAgentJson w.registry agentId env.registry with
      | .ok body   => ⟨.ok, body⟩
      | .error err => if err.isNotFound then unknownAgent requestId else s0DelegateError requestId err
    else if env.storageFails then
      storageError requestId
    else match Repository.getAgent w.repo agentId with
      | none        => unknownAgent requestId
      | some record => ⟨.ok, localAgentBody agentId record.agentType record.ownerId record.status⟩

def issuePassport : Pc :=
  if idem = "" then
    .returned <| missingIdempotencyKey requestId
  else if env.storageFails then
    .returned <| storageError requestId
  else match Repository.getPassportIdem w.repo (passportKey idem) with
    | some prev => .returned ⟨.created, prev⟩
    | none      =>
      match issuePayload? requestId body with
      | .error response => .returned response
      | .ok payload     => .findingAgent payload

-- An error of the registry and one of the repository are treated alike.
def existsAgentForPassport (agentId : String) : Option Bool :=
  if cfg.reg then
    (agentExists w.registry agentId env.registry).toOption
  else if env.storageFails then
    none
  else
    some (Repository.getAgent w.repo agentId).isSome

def findAgent (payload : IssuePayload) : Pc :=
  match w.existsAgentForPassport cfg env payload.agentId with
  | none       => .returned <| storageError requestId
  | some false => .returned <| unknownAgent requestId
  | some true  =>
    if cfg.pass then
      .issuing payload
    else
      .finishingPassport payload.agentId (payload.localBody idem)

def callIssue [Format] [Sha256] (payload : IssuePayload) : World ρ × Pc :=
  match issuePassportJson w.engine payload.toRequest env.engine with
  | (.error err, engine) => ({ w with engine }, .returned <| s0DelegateError requestId err)
  | (.ok body, engine)   => ({ w with engine }, .finishingPassport payload.agentId body)

def finishPassport (agentId : String) (body : Json) : World ρ × Pc :=
  if env.storageFails then
    (w, .returned <| storageError requestId)
  else match Repository.finishPassport w.repo (passportKey idem) agentId body with
    | (.ok out, repo)               => ({ w with repo }, .returned ⟨.created, out⟩)
    | (.error .agentNotFound, repo) => ({ w with repo }, .returned <| unknownAgent requestId)
    | (.error .storage, repo)       => ({ w with repo }, .returned <| storageError requestId)

-- `suffix` is what follows in the path after `/v1/passports/by-agent/`.
def listPassportsByAgent (suffix : String) : Response :=
  let agentId := Go.trimSpace suffix
  if agentId = "" ∨ '/' ∈ agentId.toList then
    invalidArgument requestId "agent id required"
  else if env.storageFails then
    storageError requestId
  else
    let bodies := Repository.listPassportBodiesByAgent w.repo agentId
    ⟨.ok, .object
      [("agent_id", .string agentId),
        ("passports", .array <| (bodies.map publicPassportFromBody).filter (·.isObject)),
        ("request_id", .string requestId)]⟩

def verifyPassport : Response :=
  match body.bind Json.asStruct? with
  | none         => invalidArgument requestId "invalid json body"
  | some payload =>
    let passportId := (payload.field "passport_id").asString
    let agentId := (payload.field "agent_id").asString
    if Go.trimSpace passportId = "" ∨ Go.trimSpace agentId = "" then
      invalidArgument requestId "passport_id and agent_id are required"
    else if env.storageFails then
      storageError requestId
    else
      let verified := passportVerified w.repo passportId agentId
      ⟨.ok, .object
        [("verified", .bool verified),
          ("reason", .string <|
            bif verified then "passport verified"
            else "passport missing, revoked, expired, or not bound to agent"),
          ("passport_id", .string passportId), ("agent_id", .string agentId),
          ("request_id", .string requestId), ("executed", .bool false),
          ("proof_status", .string "reference_only")]⟩

def evaluateScope : Response :=
  match body.bind Json.asStruct? with
  | none         => invalidArgument requestId "invalid json body"
  | some payload =>
    let agentId := (payload.field "agent_id").asString
    let passportId := (payload.field "passport_id").asString
    let actionClass := (payload.field "action_class").asString
    let resource := (payload.field "resource").asString
    if Go.trimSpace agentId = "" ∨ Go.trimSpace actionClass = "" ∨ Go.trimSpace resource = "" then
      invalidArgument requestId "agent_id, action_class, and resource are required"
    else if env.storageFails then
      storageError requestId
    else
      let (allowed, reason) := scopeAllows w.repo agentId passportId actionClass resource
      ⟨.ok, .object
        [("decision", .object
          [("effect", .string <| if allowed then "ALLOW" else "DENY"), ("reason", .string reason),
            ("agent_id", .string agentId), ("action_class", .string actionClass),
            ("resource", .string resource)]),
          ("request_id", .string requestId), ("executed", .bool false)]⟩

end Handlers

variable [Format] [Sha256]

def step (cfg : Config) (env : Env) : Request → Pc → World ρ × Pc
  | .registerAgent requestId idem body, .start        =>
    (w, w.registerAgent cfg requestId idem body env)
  | .registerAgent requestId _ _, .registering payload =>
    w.callRegister requestId env payload
  | .registerAgent requestId idem _, .finishingRegister agentId body record =>
    w.finishRegister requestId idem env agentId body record
  | .getAgent requestId suffix, .start =>
    (w, .returned <| w.getAgent cfg requestId env suffix)
  | .issuePassport requestId idem body, .start =>
    (w, w.issuePassport requestId idem body env)
  | .issuePassport requestId idem _, .findingAgent payload =>
    (w, w.findAgent cfg requestId idem env payload)
  | .issuePassport requestId _ _, .issuing payload =>
    w.callIssue requestId env payload
  | .issuePassport requestId idem _, .finishingPassport agentId body =>
    w.finishPassport requestId idem env agentId body
  | .listPassportsByAgent requestId suffix, .start =>
    (w, .returned <| w.listPassportsByAgent requestId env suffix)
  | .verifyPassport requestId body, .start =>
    (w, .returned <| w.verifyPassport requestId body env)
  | .evaluateScope requestId body, .start =>
    (w, .returned <| w.evaluateScope requestId body env)
  | _, pc => (w, pc)

-- A request that is handled alone, with what the outside decides in each step.
def serve (cfg : Config) (request : Request) (envs : List Env) : World ρ × Pc :=
  envs.foldl (fun s env => s.1.step cfg env request s.2) (w, .start)

end World

inductive Routed
  | movedPermanently (location : String)
  | answered (response : Response)

-- `http.ServeMux` compares the path as it has been sent, where `rawSuffix` stands for `suffix`, and
-- redirects a path that is not clean.
def World.routeGetAgent [Repository ρ] (w : World ρ) (cfg : Config) (requestId : String) (env : Env)
    (rawSuffix suffix : String) : Routed :=
  let rawPath := "/v1/identity/agents/" ++ rawSuffix
  if Go.cleanPath rawPath ≠ rawPath then
    .movedPermanently <| Go.cleanPath rawPath
  else
    .answered <| w.getAgent cfg requestId env suffix

-- Identifiers that `uuid.NewString` returns.
structure PlainId (id : String) : Prop where
  trimmed : Go.trimSpace id = id
  ne      : id ≠ ""
  segment : '/' ∉ id.toList

-- Generated identifiers are not in use, and the storage fails only where it can.
structure Allowed (cfg : Config) (w : World ρ) (env : Env) : Prop where
  agentId    : env.registry.register.agentId ∉ w.registry.agents
  plainAgent : PlainId env.registry.register.agentId
  passportId : env.engine.server.issue.passportId ∉ w.engine.passports
  plainId    : PlainId env.engine.server.issue.passportId
  storage    : env.storageFails → cfg.storageMayFail

instance (id : String) : Decidable (PlainId id) :=
  decidable_of_iff (Go.trimSpace id = id ∧ id ≠ "" ∧ '/' ∉ id.toList)
    ⟨fun ⟨trimmed, ne, segment⟩ => ⟨trimmed, ne, segment⟩, fun h => ⟨h.trimmed, h.ne, h.segment⟩⟩

instance (cfg : Config) (w : World ρ) (env : Env) : Decidable (Allowed cfg w env) :=
  decidable_of_iff
    (env.registry.register.agentId ∉ w.registry.agents ∧ PlainId env.registry.register.agentId ∧
      env.engine.server.issue.passportId ∉ w.engine.passports ∧
      PlainId env.engine.server.issue.passportId ∧ (env.storageFails → cfg.storageMayFail))
    ⟨fun ⟨a, p, i, p', s⟩ => ⟨a, p, i, p', s⟩,
      fun h => ⟨h.agentId, h.plainAgent, h.passportId, h.plainId, h.storage⟩⟩

-- Any number of requests, each at its own point.
def server [Repository ρ] [Format] [Sha256] (cfg : Config) (requests : ι → Request) :
    Interleaving.System ι (World ρ) Pc Env where
  allows _ env w _ := Allowed cfg w env
  step i env w pc  := w.step cfg env (requests i) pc

instance [Repository ρ] [Format] [Sha256] (cfg : Config) (requests : ι → Request) (i : ι) (env : Env)
    (w : World ρ) (pc : Pc) : Decidable ((server cfg requests).allows i env w pc) :=
  inferInstanceAs <| Decidable (Allowed cfg w env)

-- No request has been handled.
def World.awaiting (w : World ρ) (ι : Type*) : Interleaving.State ι (World ρ) Pc where
  shared   := w
  locals _ := .start

-- In addition, the server has been started with an empty repository.
def idle (ι : Type*) (registry : AgentRegistry.Registry) (engine : PassportIssuance.Service) :
    Interleaving.State ι (World Memory) Pc :=
  World.awaiting ⟨{}, registry, engine⟩ ι

end RestBff
