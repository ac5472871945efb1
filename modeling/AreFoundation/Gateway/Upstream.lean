import AreFoundation.Library.Calendar
import AreFoundation.Library.Interleaving
import AreFoundation.Library.Json
import AreFoundation.Gateway.Handler

open Go (Bytes)

namespace Gateway

-- Bodies are documents. A body is `none` if it cannot be decoded.
abbrev Call := UpstreamRequest (Option Json)

abbrev Reply := UpstreamResponse Json

structure AgentRecord where
  agentType : String
  ownerId   : String

structure ScopeRecord where
  scopeId         : Bytes
  actionClass     : String
  resourcePattern : String

structure PassportRecord where
  passportId   : Bytes
  agentId      : String
  passportType : String
  scopeSet     : List ScopeRecord
  status       : String
  issuedBy     : String
  expiresAt    : Calendar.Instant

-- What reading a map yields for a key that it does not contain. The zero time is the first of January
-- of the year 1.
def PassportRecord.zero : PassportRecord where
  passportId   := []
  agentId      := ""
  passportType := ""
  scopeSet     := []
  status       := ""
  issuedBy     := ""
  expiresAt    := -62135596800000000000

-- Texts of documents are taken as bytes where they are used as keys.
structure StaticUpstreamClient where
  idempotentResp     : HashMap Bytes Reply := ∅
  idempotentBodyHash : HashMap Bytes String := ∅
  registeredAgents   : HashMap Bytes AgentRecord := ∅
  passports          : HashMap Bytes PassportRecord := ∅
  passportsByAgent   : HashMap Bytes (List Bytes) := ∅
  opaBaseUrl         : String := ""

-- The clock, the variables of the process, and what the policy engine answers if it is asked.
structure UpstreamEnv where
  now    : Calendar.Instant
  getenv : String → String
  opa    : Except String (String × String)

def jsonError (requestId : Bytes) (code message : String) (retryable : Bool) (status : Nat) :
    Reply where
  statusCode := status
  body       := .object
    [("error", .object
      [("code", .string code), ("message", .string message),
        ("request_id", .string <| Go.jsonText requestId), ("retryable", .bool retryable)])]

def invalidArgument (requestId : Bytes) (message : String) : Reply :=
  jsonError requestId "INVALID_ARGUMENT" message false 400

def missingIdempotencyKey (requestId : Bytes) : Reply :=
  jsonError requestId "MISSING_IDEMPOTENCY_KEY" "idempotency key required" false 400

def unknownAgent (requestId : Bytes) : Reply :=
  jsonError requestId "NOT_FOUND" "unknown agent_id" false 404

@[simp]
theorem jsonError_statusCode :
    (jsonError requestId code message retryable status).statusCode = status :=
  rfl

@[simp]
theorem invalidArgument_statusCode : (invalidArgument requestId message).statusCode = 400 :=
  rfl

@[simp]
theorem missingIdempotencyKey_statusCode : (missingIdempotencyKey requestId).statusCode = 400 :=
  rfl

@[simp]
theorem unknownAgent_statusCode : (unknownAgent requestId).statusCode = 404 :=
  rfl

-- The body as a map from names to values.
def UpstreamRequest.payload? (req : Call) : Option Json :=
  req.body.bind Json.asStruct?

section RegisterAgent

def registerKey (idempotencyKey : Bytes) : Bytes :=
  asBytes "RegisterAgent:" ++ idempotencyKey

def registerAgentBodyFingerprint (req : Call) : Option String :=
  req.payload?.map fun payload =>
    Go.trimSpace (payload.field "agent_type").asString ++ "\x00" ++
      Go.trimSpace (payload.field "owner_id").asString

def agentBody (agentId : Bytes) (record : AgentRecord) : Json :=
  .object
    [("agent", .object
      [("agent_id", .string <| Go.jsonText agentId), ("agent_type", .string record.agentType),
        ("owner_id", .string record.ownerId), ("status", .string "ACTIVE")])]

end RegisterAgent

section IssuePassport

def issueKey (idempotencyKey : Bytes) : Bytes :=
  asBytes "IssuePassport:" ++ idempotencyKey

structure IssuePayload where
  agentId      : String
  passportType : String
  issuedBy     : String
  scopesRaw    : List Json
  ttl          : Int

def asInt64 : Json → Option Int
  | .number value => some <| Go.int64 value
  | _             => none

def issuePayload? (req : Call) : Except Reply IssuePayload :=
  match req.payload? with
  | none         => .error <| invalidArgument req.requestId "invalid json body"
  | some payload =>
    let agentId := (payload.field "agent_id").asString
    let passportType := (payload.field "passport_type").asString
    let issuedBy := (payload.field "issued_by").asString
    let reason := (payload.field "reason").asString
    let scopesRaw := (payload.field "requested_scopes").elements
    let ttl := (asInt64 <| payload.field "ttl_seconds").getD 0
    if Go.trimSpace agentId = "" ∨ Go.trimSpace passportType = "" ∨ scopesRaw = [] ∨ ttl ≤ 0 ∨
        Go.trimSpace issuedBy = "" ∨ Go.trimSpace reason = "" then
      .error <| invalidArgument req.requestId
        "agent_id, passport_type, requested_scopes, ttl_seconds, issued_by, and reason are required"
    else
      .ok { agentId, passportType, issuedBy, scopesRaw, ttl }

-- The body of the loop over the requested scopes.
def scopeRecord? (req : Call) (row : Json) (i : Nat) : Except Reply ScopeRecord :=
  let actionClass := (row.field "action_class").asString
  let resourcePattern := (row.field "resource_pattern").asString
  if !row.isObject then
    .error <| invalidArgument req.requestId "invalid requested_scopes entry"
  else if Go.trimSpace actionClass = "" ∨ Go.trimSpace resourcePattern = "" then
    .error <| invalidArgument req.requestId
      "requested_scopes require action_class and resource_pattern"
  else
    .ok { scopeId := asBytes "scp-" ++ req.idempotencyKey ++ asBytes ("-" ++ toString i)
          actionClass, resourcePattern }

-- `time.Duration` is a signed integer of 64 bits.
def passportRecord? (req : Call) (payload : IssuePayload) (now : Calendar.Instant) :
    Except Reply PassportRecord := do
  let scopeSet ← payload.scopesRaw.zipIdx.mapM fun (row, i) => scopeRecord? req row i
  return {
    passportId   := asBytes "ppt-" ++ req.idempotencyKey
    agentId      := payload.agentId
    passportType := payload.passportType
    scopeSet     := scopeSet
    status       := "ACTIVE"
    issuedBy     := payload.issuedBy
    expiresAt    := now + (payload.ttl * 1000000000).bmod (2 ^ 64) }

def ScopeRecord.toJson (scope : ScopeRecord) : Json :=
  .object
    [("scope_id", .string <| Go.jsonText scope.scopeId), ("action_class", .string scope.actionClass),
      ("resource_pattern", .string scope.resourcePattern)]

def publicPassport (record : PassportRecord) : Json :=
  .object
    [("passport_id", .string <| Go.jsonText record.passportId),
      ("agent_id", .string record.agentId), ("passport_type", .string record.passportType),
      ("scope_set", .array <| record.scopeSet.map ScopeRecord.toJson),
      ("status", .string record.status), ("issued_by", .string record.issuedBy),
      ("expires_at", .string record.expiresAt.formatRfc3339)]

def passportBody (record : PassportRecord) : Json :=
  .object [("passport", publicPassport record)]

end IssuePassport

-- The points of a handler before each of its critical sections. All other work is done together with
-- the section that precedes it.
inductive Pc
  | start
  | storingAgent (record : AgentRecord)
  | findingAgent (payload : IssuePayload)
  | storingPassport (record : PassportRecord)
  | returned (reply : Reply)

namespace StaticUpstreamClient

variable (client : StaticUpstreamClient) (req : Call)

-- Only ASCII letters of the stage are lowered here.
def handleGetDeploymentMeta (getenv : String → String) : Reply :=
  let stage := Go.trimSpace <| Go.toLower <| getenv "ARE_DEPLOYMENT_STAGE"
  ⟨200, .object
    [("deployment_stage", .string <| if stage = "" then "stage-s0s1" else stage),
      ("request_id", .string <| Go.jsonText req.requestId), ("foundation", .string "stage-s0s1")]⟩

def handleRegisterAgent : Pc :=
  if req.idempotencyKey = [] then
    .returned <| missingIdempotencyKey req.requestId
  else match client.idempotentResp.lookup (registerKey req.idempotencyKey) with
    | some existing =>
      match registerAgentBodyFingerprint req with
      | none    => .returned <| invalidArgument req.requestId "invalid json body"
      | some fp =>
        let prevFp :=
          (client.idempotentBodyHash.lookup <| registerKey req.idempotencyKey).getD ""
        if prevFp ≠ "" ∧ prevFp ≠ fp then
          .returned <| jsonError req.requestId "IDEMPOTENCY_CONFLICT"
            "idempotency key replay with conflicting body" false 409
        else
          .returned existing
    | none =>
      match req.payload? with
      | none         => .returned <| invalidArgument req.requestId "invalid json body"
      | some payload =>
        let agentType := (payload.field "agent_type").asString
        let ownerId := (payload.field "owner_id").asString
        if Go.trimSpace agentType = "" ∨ Go.trimSpace ownerId = "" then
          .returned <| invalidArgument req.requestId "agent_type and owner_id are required"
        else
          .storingAgent { agentType, ownerId }

def storeAgent (record : AgentRecord) : StaticUpstreamClient × Pc :=
  let key := registerKey req.idempotencyKey
  let agentId := asBytes "agt-" ++ req.idempotencyKey
  let reply : Reply := ⟨201, agentBody agentId record⟩
  ({ client with
      idempotentResp     := client.idempotentResp.insert key reply
      idempotentBodyHash := match registerAgentBodyFingerprint req with
        | none    => client.idempotentBodyHash
        | some fp => client.idempotentBodyHash.insert key fp
      registeredAgents   := client.registeredAgents.insert agentId record },
    .returned reply)

def handleGetAgent : Reply :=
  let agentId := Bytes.trimSpace <| Bytes.trimPrefix req.path "/v1/identity/agents/"
  if agentId = [] ∨ '/'.toUInt8 ∈ agentId then
    invalidArgument req.requestId "agent id required"
  else match client.registeredAgents.lookup agentId with
    | none        => unknownAgent req.requestId
    | some record => ⟨200, agentBody agentId record⟩

def handleIssuePassport : Pc :=
  if req.idempotencyKey = [] then
    .returned <| missingIdempotencyKey req.requestId
  else match client.idempotentResp.lookup (issueKey req.idempotencyKey) with
    | some existing => .returned existing
    | none          =>
      match issuePayload? req with
      | .error reply => .returned reply
      | .ok payload  => .findingAgent payload

def findAgent (payload : IssuePayload) (now : Calendar.Instant) : Pc :=
  if asBytes payload.agentId ∉ client.registeredAgents then
    .returned <| unknownAgent req.requestId
  else match passportRecord? req payload now with
    | .error reply => .returned reply
    | .ok record   => .storingPassport record

def passportIdsOf (agentId : Bytes) : List Bytes :=
  (client.passportsByAgent.lookup agentId).getD []

def passportOf (passportId : Bytes) : PassportRecord :=
  (client.passports.lookup passportId).getD .zero

def storePassport (record : PassportRecord) : StaticUpstreamClient × Pc :=
  let reply : Reply := ⟨201, passportBody record⟩
  ({ client with
      idempotentResp   := client.idempotentResp.insert (issueKey req.idempotencyKey) reply
      passports        := client.passports.insert record.passportId record
      passportsByAgent := client.passportsByAgent.insert (asBytes record.agentId) <|
        client.passportIdsOf (asBytes record.agentId) ++ [record.passportId] },
    .returned reply)

def handleListPassportsByAgent : Reply :=
  let agentId := Bytes.trimSpace <| Bytes.trimPrefix req.path "/v1/passports/by-agent/"
  if agentId = [] ∨ '/'.toUInt8 ∈ agentId then
    invalidArgument req.requestId "agent id required"
  else
    let rows := (client.passportIdsOf agentId).map (publicPassport <| client.passportOf ·)
    ⟨200, .object
      [("agent_id", .string <| Go.jsonText agentId), ("passports", .array rows),
        ("request_id", .string <| Go.jsonText req.requestId)]⟩

def handleVerifyPassport (now : Calendar.Instant) : Reply :=
  match req.payload? with
  | none         => invalidArgument req.requestId "invalid json body"
  | some payload =>
    let passportId := (payload.field "passport_id").asString
    let agentId := (payload.field "agent_id").asString
    if Go.trimSpace passportId = "" ∨ Go.trimSpace agentId = "" then
      invalidArgument req.requestId "passport_id and agent_id are required"
    else
      let verified := (client.passports.lookup <| asBytes passportId).any fun record =>
        record.agentId = agentId && record.status = "ACTIVE" && now < record.expiresAt
      ⟨200, .object
        [("verified", .bool verified),
          ("reason", .string <|
            bif verified then "passport verified"
            else "passport missing, expired, revoked, or not bound to agent"),
          ("passport_id", .string passportId), ("agent_id", .string agentId),
          ("request_id", .string <| Go.jsonText req.requestId), ("executed", .bool false),
          ("proof_status", .string "reference_only")]⟩

def resourceMatches (pattern resource : String) : Bool :=
  let pattern := Go.trimSpace pattern
  if pattern = "*" ∨ pattern = resource then
    true
  else if Go.hasSuffix pattern "*" then
    Go.hasPrefix resource (Go.trimSuffix pattern "*")
  else
    false

-- The function literal `check` of `scopeAllows`.
def scopeCheck (agentId actionClass resource : String) (now : Calendar.Instant)
    (record : PassportRecord) : Bool :=
  record.agentId = agentId && record.status = "ACTIVE" && now < record.expiresAt &&
    record.scopeSet.any fun scope =>
      scope.actionClass = actionClass && resourceMatches scope.resourcePattern resource

def scopeAllows (agentId passportId actionClass resource : String) (now : Calendar.Instant) :
    Bool × String :=
  let check := scopeCheck agentId actionClass resource now
  if passportId ≠ "" then
    match client.passports.lookup (asBytes passportId) with
    | none        => (false, "passport not found")
    | some record =>
      if check record then
        (true, "scope matched requested passport")
      else
        (false, "scope missing, expired, or revoked")
  else if (client.passportIdsOf <| asBytes agentId).any (check <| client.passportOf ·) then
    (true, "scope matched active passport")
  else
    (false, "no active passport scope matched")

def handleEvaluateScope (now : Calendar.Instant) : Reply :=
  match req.payload? with
  | none         => invalidArgument req.requestId "invalid json body"
  | some payload =>
    let agentId := (payload.field "agent_id").asString
    let actionClass := (payload.field "action_class").asString
    let resource := (payload.field "resource").asString
    let passportId := (payload.field "passport_id").asString
    if Go.trimSpace agentId = "" ∨ Go.trimSpace actionClass = "" ∨ Go.trimSpace resource = "" then
      invalidArgument req.requestId "agent_id, action_class, and resource are required"
    else
      let (allowed, reason) := client.scopeAllows agentId passportId actionClass resource now
      ⟨200, .object
        [("decision", .object
          [("effect", .string <| bif allowed then "ALLOW" else "DENY"), ("reason", .string reason),
            ("agent_id", .string agentId), ("action_class", .string actionClass),
            ("resource", .string resource)]),
          ("executed", .bool false)]⟩

def policyDecision (requestId : Bytes) (decisionId effect reason : String) : Reply :=
  ⟨200, .object
    [("decision", .object
      [("decision_id", .string decisionId), ("effect", .string <| Go.toUpper effect),
        ("reason", .string reason)]),
      ("request_id", .string <| Go.jsonText requestId), ("executed", .bool false)]⟩

def handleEvaluatePolicy (opa : Except String (String × String)) : Reply :=
  match req.payload? with
  | none         => invalidArgument req.requestId "invalid json body"
  | some payload =>
    let decisionId := (payload.field "decision_id").asString
    let agentId := (payload.field "agent_id").asString
    let actionClass := (payload.field "action_class").asString
    let resource := (payload.field "resource").asString
    if Go.trimSpace decisionId = "" ∨ Go.trimSpace agentId = "" ∨ Go.trimSpace actionClass = "" then
      invalidArgument req.requestId "decision_id, agent_id, and action_class are required"
    else if Go.contains (Go.toLower resource) "timeout" then
      jsonError req.requestId "DEPENDENCY_TIMEOUT" "policy engine timeout" true 504
    else if client.opaBaseUrl ≠ "" then
      match opa with
      | .error err           => jsonError req.requestId "POLICY_ENGINE_UNAVAILABLE" err true 502
      | .ok (effect, reason) => policyDecision req.requestId decisionId effect reason
    else if Go.contains (Go.toUpper actionClass) "DENY" ∨ actionClass = "demo.forbidden_action" then
      policyDecision req.requestId decisionId "DENY" "action class denied by foundation demo policy"
    else
      policyDecision req.requestId decisionId "ALLOW" "policy-evaluated"

-- The beginning of `Call`, up to the end of the first critical section.
def startCall (env : UpstreamEnv) : Pc :=
  match (matchPhase1Route req.method req.path).map (·.method) with
  | some "RegisterAgent"        => client.handleRegisterAgent req
  | some "GetAgent"             => .returned <| client.handleGetAgent req
  | some "IssuePassport"        => client.handleIssuePassport req
  | some "ListPassportsByAgent" => .returned <| client.handleListPassportsByAgent req
  | some "VerifyPassport"       => .returned <| client.handleVerifyPassport req env.now
  | some "EvaluateScope"        => .returned <| client.handleEvaluateScope req env.now
  | some "EvaluatePolicy"       => .returned <| client.handleEvaluatePolicy req env.opa
  | some "GetDeploymentMeta"    => .returned <| handleGetDeploymentMeta req env.getenv
  | some _                      =>
    .returned <| jsonError req.requestId "NOT_FOUND" "foundation route has no handler" false 404
  | none                        =>
    .returned <| jsonError req.requestId "NOT_FOUND"
      "route is not part of the ARE Foundation S0/S1 surface" false 404

def step (env : UpstreamEnv) : Pc → StaticUpstreamClient × Pc
  | .start                  => (client, client.startCall req env)
  | .storingAgent record    => client.storeAgent req record
  | .findingAgent payload   => (client, client.findAgent req payload env.now)
  | .storingPassport record => client.storePassport req record
  | .returned reply         => (client, .returned reply)

end StaticUpstreamClient

-- Any number of calls, each at its own point.
def upstream (calls : ι → Call) :
    Interleaving.System ι StaticUpstreamClient Pc UpstreamEnv where
  allows _ _ _ _       := True
  step i env client pc := client.step (calls i) env pc

instance (calls : ι → Call) (i : ι) (env : UpstreamEnv) (client : StaticUpstreamClient) (pc : Pc) :
    Decidable ((upstream calls).allows i env client pc) :=
  .isTrue trivial

-- No call has been made.
def idle (ι : Type*) (opaBaseUrl : String) : Interleaving.State ι StaticUpstreamClient Pc where
  shared   := { opaBaseUrl }
  locals _ := .start

end Gateway
