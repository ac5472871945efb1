import AreFoundation.Library.Dialogue
import AreFoundation.Library.GoStrings
import AreFoundation.Library.HashMap

open Go (Bytes)

namespace Gateway

section Routes

structure RouteSpec where
  service       : String
  method        : String
  successStatus : Nat
  deriving DecidableEq

def matchPhase1Route (httpMethod path : Bytes) : Option RouteSpec :=
  if httpMethod = asBytes "POST" ∧ path = asBytes "/v1/identity/agents" then
    some ⟨"ARE-A-S0-001", "RegisterAgent", 201⟩
  else if httpMethod = asBytes "GET" ∧ Bytes.hasPrefix path "/v1/identity/agents/" then
    some ⟨"ARE-A-S0-001", "GetAgent", 200⟩
  else if httpMethod = asBytes "POST" ∧ path = asBytes "/v1/passports" then
    some ⟨"ARE-A-S0-005", "IssuePassport", 201⟩
  else if httpMethod = asBytes "GET" ∧ Bytes.hasPrefix path "/v1/passports/by-agent/" then
    some ⟨"ARE-A-S0-005", "ListPassportsByAgent", 200⟩
  else if httpMethod = asBytes "POST" ∧ path = asBytes "/v1/passports:verify" then
    some ⟨"ARE-A-S0-005", "VerifyPassport", 200⟩
  else if httpMethod = asBytes "POST" ∧ path = asBytes "/v1/enforcement/scope:evaluate" then
    some ⟨"ARE-A-S1-002", "EvaluateScope", 200⟩
  else if httpMethod = asBytes "POST" ∧ path = asBytes "/v1/policy/evaluations" then
    some ⟨"ARE-A-S1-001", "EvaluatePolicy", 200⟩
  else if httpMethod = asBytes "GET" ∧ path = asBytes "/v1/meta/deployment" then
    some ⟨"ARE-A-S0-META", "GetDeploymentMeta", 200⟩
  else
    none

def isFoundationApiRoute (httpMethod path : Bytes) : Bool :=
  (matchPhase1Route httpMethod path).isSome

def requiresIdempotencyKey (httpMethod path : Bytes) : Bool :=
  httpMethod = asBytes "POST" &&
    ["/v1/identity/agents", "/v1/passports", "/v1/policy/evaluations",
      "/v1/enforcement/scope:evaluate", "/v1/passports:verify"].any (path = asBytes ·)

end Routes

section Header

-- The values of each name in canonical form.
abbrev Header := HashMap String (List Bytes)

-- Letters are capital at the start and after a hyphen. Only used for valid names.
def canonicalChars : (upper : Bool) → List Char → List Char
  | _,     []      => []
  | upper, c :: cs => (bif upper then c.toUpper else c.toLower) :: canonicalChars (c = '-') cs

def canonicalHeaderKey (key : String) : String :=
  String.ofList <| canonicalChars true key.toList

example : canonicalHeaderKey "X-ARE-Agent-ID" = "X-Are-Agent-Id" := by
  decide +kernel

namespace Header

def get (header : Header) (key : String) : Bytes :=
  ((header.lookup <| canonicalHeaderKey key).bind List.head?).getD []

def del (header : Header) (key : String) : Header :=
  header.erase <| canonicalHeaderKey key

end Header

end Header

-- The type `α` of bodies is left open, since they are only passed on.
structure Request (α : Type) where
  method   : Bytes
  path     : Bytes
  rawQuery : Bytes
  header   : Header
  body     : Option α -- `none` if it cannot be read.

structure UpstreamRequest (α : Type) where
  method         : Bytes
  path           : Bytes
  rawQuery       : Bytes
  body           : α
  agentId        : Bytes
  requestId      : Bytes
  identity       : Bytes
  idempotencyKey : Bytes
  authorization  : Bytes
  contentType    : Bytes
  traceparent    : String

structure UpstreamResponse (β : Type) where
  statusCode : Nat
  body       : β
  deriving DecidableEq

inductive ResponseBody (β : Type)
  | text (value : String)
  | metrics
  | upstream (value : β)

structure Response (β : Type) where
  status : Nat
  body   : ResponseBody β

-- A line with the message.
def httpError (message : String) (status : Nat) : Response β :=
  ⟨status, .text <| message ++ "\n"⟩

-- Variables of the process, and what is generated for a trace.
structure Env where
  getenv       : String → String
  otlpEndpoint : String
  newTraceId   : String
  newSpanId    : String
  sampled      : Bool

section Tracing

structure TraceparentParts where
  traceId      : String
  parentSpanId : String
  sampled      : Bool
  deriving DecidableEq

def hexValue? (c : Char) : Option Nat :=
  if '0' ≤ c ∧ c ≤ '9' then some <| c.toNat - '0'.toNat
  else if 'a' ≤ c ∧ c ≤ 'f' then some <| c.toNat - 'a'.toNat + 10
  else if 'A' ≤ c ∧ c ≤ 'F' then some <| c.toNat - 'A'.toNat + 10
  else none

-- `strconv.ParseUint` for base 16 and 8 bits.
def parseFlags (digits : List Char) : Option Nat := do
  let values ← digits.mapM hexValue?
  let n := values.foldl (16 * · + ·) 0
  if digits ≠ [] ∧ n < 256 then some n else none

-- The header is decoded first. That replaces bytes which are no text, but none of the parts can
-- contain such a byte.
def parseTraceparent (value : Bytes) : Option TraceparentParts :=
  match (Go.trimSpace <| Go.jsonText value).toList.splitOn '-' with
  | [version, traceId, parentSpanId, flags] =>
    if version ≠ ['0', '0'] ∨ traceId.length ≠ 32 ∨ parentSpanId.length ≠ 16 ∨
        (traceId ++ parentSpanId).any (hexValue? · = none) then
      none
    else
      (parseFlags flags).map fun flags =>
        { traceId      := String.ofList traceId
          parentSpanId := String.ofList parentSpanId
          sampled      := flags % 2 = 1 }
  | _ => none

example :
    parseTraceparent (asBytes " 00-0123456789abcdef0123456789abcdef-0123456789ABCDEF-01") =
      some ⟨"0123456789abcdef0123456789abcdef", "0123456789ABCDEF", true⟩ := by
  decide +kernel

structure ServerTrace where
  traceId      : String
  spanId       : String
  parentSpanId : String
  sampled      : Bool

def startServerTrace (env : Env) (r : Request α) : Option ServerTrace :=
  if r.path = asBytes "/metrics" then
    none
  else match parseTraceparent <| r.header.get "traceparent" with
    | some incoming =>
      some ⟨incoming.traceId, env.newSpanId, incoming.parentSpanId, incoming.sampled⟩
    | none          =>
      if env.otlpEndpoint ≠ "" ∧ env.newTraceId ≠ "" then
        some ⟨env.newTraceId, env.newSpanId, "", env.sampled⟩
      else
        none

def ServerTrace.traceparent : Option ServerTrace → String
  | none   => ""
  | some t =>
    let spanId := if t.sampled ∨ t.parentSpanId = "" then t.spanId else t.parentSpanId
    if spanId = "" then "" else
      "00-" ++ t.traceId ++ "-" ++ spanId ++ (if t.sampled then "-01" else "-00")

end Tracing

-- What the gateway asks the validator of tokens and the upstream.
inductive Question (α : Type)
  | validate (token : Bytes)
  | call (req : UpstreamRequest α)

-- The context may have reached its deadline although the validator has accepted the token.
structure Validation where
  result           : Except String Bytes
  deadlineExceeded : Bool

def Validation.identity? (v : Validation) : Option Bytes :=
  match v.result with
  | .error _ => none
  | .ok id   => bif v.deadlineExceeded then none else some id

abbrev Answer (α β : Type) : Question α → Type
  | .validate _ => Validation
  | .call _     => Except String (UpstreamResponse β)

abbrev Handling (α β : Type) := Dialogue (Question α) (Answer α β)

section Handle

variable {α β : Type}

def validate (token : Bytes) : Handling α β Validation :=
  Dialogue.question <| Question.validate token

def call (req : UpstreamRequest α) : Handling α β (Except String (UpstreamResponse β)) :=
  Dialogue.question <| Question.call req

def metricsScrapeRequiresAuth (getenv : String → String) : Bool :=
  let allowAnonymous := Go.trimSpace <| getenv "ARE_GATEWAY_METRICS_ALLOW_ANONYMOUS"
  let requireAuth := Go.trimSpace <| Go.toLower <| getenv "ARE_GATEWAY_METRICS_REQUIRE_AUTH"
  !(Go.equalFold allowAnonymous "true" || allowAnonymous = "1" ||
    Go.equalFold (Go.trimSpace <| getenv "ARE_GW_DEV_UNSAFE_MODE") "true" ||
    requireAuth ∈ ["0", "false", "no"])

def authorizeMetricsScrape (env : Env) (r : Request α) : Handling α β (Except String Unit) := do
  let authz := r.header.get "Authorization"
  if !metricsScrapeRequiresAuth env.getenv then
    return .ok ()
  else if authz = [] ∨ !Bytes.hasPrefix authz "Bearer " then
    return .error "missing bearer token"
  else
    let validation ← validate <| Bytes.trimPrefix authz "Bearer "
    match validation.identity? with
    | none   => return .error "unauthorized"
    | some _ => return .ok ()

def stripUntrustedStageSpoofHeaders (header : Header) : Header :=
  ["X-Are-Ui-Stage", "X-Are-Session-Stage", "X-Are-Client-Stage", "X-Are-Deployment-Stage"].foldl
    Header.del header

-- Logs and metrics of the request are left out.
def handle (env : Env) (r : Request α) : Handling α β (Response β) := do
  let trace := startServerTrace env r
  let requestId := r.header.get "X-Request-ID"
  let authz := r.header.get "Authorization"
  let agentId := r.header.get "X-ARE-Agent-ID"
  let idempotencyKey := r.header.get "Idempotency-Key"
  if r.path = asBytes "/v1/platform/health" then
    return ⟨200, .text "\x7b\"status\":\"ok\"\x7d"⟩
  else if r.path = asBytes "/metrics" then
    match ← authorizeMetricsScrape env r with
    | .error err => return httpError err 401
    | .ok ()     => return ⟨200, .metrics⟩
  else if requestId = [] then
    return httpError "missing request id" 400
  else if requiresIdempotencyKey r.method r.path ∧ idempotencyKey = [] then
    return httpError "missing idempotency key" 400
  else if authz = [] ∨ !Bytes.hasPrefix authz "Bearer " then
    return httpError "missing bearer token" 401
  else if agentId = [] then
    return httpError "missing agent id" 400
  else
    let validation ← validate <| Bytes.trimPrefix authz "Bearer "
    match validation.identity? with
    | none          => return httpError "unauthorized" 401
    | some identity =>
      let header := stripUntrustedStageSpoofHeaders r.header
      if !isFoundationApiRoute r.method r.path then
        return httpError "route is not part of the ARE Foundation S0/S1 surface" 404
      else match r.body with
        | none      => return httpError "bad body" 400
        | some body =>
          let answer ← call {
            method        := r.method
            path          := r.path
            rawQuery      := r.rawQuery
            authorization := authz
            contentType   := header.get "Content-Type"
            traceparent   := ServerTrace.traceparent trace
            body, agentId, requestId, identity, idempotencyKey }
          match answer with
          | .error _ => return httpError "upstream unavailable" 503
          | .ok resp => return ⟨resp.statusCode, .upstream resp.body⟩

end Handle

end Gateway
