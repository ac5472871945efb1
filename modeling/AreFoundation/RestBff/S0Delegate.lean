import Mathlib.Data.Finset.Sort
import Mathlib.Data.String.Basic
import AreFoundation.AgentRegistry.Grpc
import AreFoundation.PassportIssuance.Grpc

-- The calls to the registry and the passport engine and the documents that their answers become.
namespace RestBff.S0Delegate

open AgentRegistry (Registry RegisterEnv)
open AgentRegistry.Grpc (AgentMessage AdmissionEnvelopeMessage RegisterAgentRequest)
open PassportIssuance.Grpc (IssuePassportRequest PassportMessage PassportScope ScopeRequest)

-- How values are printed by `fmt.Sprint` and `json.Marshal`.
class Format where
  sprint  : Json → String
  marshal : Json → String

inductive DelegateError
  | status (status : Rpc.Status)
  | notFound
  deriving DecidableEq

def DelegateError.isNotFound : DelegateError → Bool
  | status st => st.code = .notFound
  | notFound  => true

inductive HttpStatus
  | ok
  | created
  | badRequest
  | unauthorized
  | forbidden
  | notFound
  | conflict
  | internalServerError
  | badGateway
  | gatewayTimeout
  deriving DecidableEq

def upstreamHttp : DelegateError → HttpStatus
  | .notFound  => .badGateway
  | .status st =>
    match st.code with
    | .invalidArgument | .failedPrecondition | .outOfRange => .badRequest
    | .notFound                                            => .notFound
    | .alreadyExists | .aborted                            => .conflict
    | .deadlineExceeded                                    => .gatewayTimeout
    | .unauthenticated                                     => .unauthorized
    | .permissionDenied                                    => .forbidden
    | _                                                    => .badGateway

def upstreamIsRetryable : DelegateError → Bool
  | .notFound  => true
  | .status st => st.code ∈ [.deadlineExceeded, .unavailable, .resourceExhausted]

section Registry

-- What happens to a call of the registry. It does not get through if there is a status in `failed`.
-- That a call takes effect and its reply is lost, as can be the case with a deadline that is exceeded,
-- is left out.
structure RegistryEnv where
  failed   : Option Rpc.Status := none
  register : RegisterEnv
  read     : Bool := true

def mapStringString [Format] (metadata : OrderedMap String Json) : OrderedMap String String :=
  metadata.filterMap fun
    | .string value => some value
    | .number value => some <| Format.sprint <| .number value
    | .bool value   => some <| Format.sprint <| .bool value
    | json          => some <| Format.marshal json

def agentToMap (a : AgentMessage) : Json :=
  .object <|
    [("agent_id", .string a.agentId), ("agent_type", .string a.agentType),
      ("owner_id", .string a.ownerId), ("status", .string a.status)] ++
    (if a.metadata.size > 0 then
      [("metadata", .object <| a.metadata.entries.map fun e => (e.1, .string e.2))] else []) ++
    (if a.externalId ≠ "" then [("external_id", .string a.externalId)] else []) ++
    (if a.passportId ≠ "" then [("passport_id", .string a.passportId)] else [])

def agentBody (a : AgentMessage) : Json :=
  .object [("agent", agentToMap a)]

def registerRequest [Format] (agentType ownerId : String)
    (metadata admission : OrderedMap String Json) : RegisterAgentRequest where
  agentType                := agentType
  ownerId                  := ownerId
  metadata                 := mapStringString metadata
  admissionConstraintsJson := if admission.size > 0 then some <| .ofMap admission else none

def register [Format] (c : Registry) (agentType ownerId : String)
    (metadata admission : OrderedMap String Json) (env : RegistryEnv) :
    Except DelegateError (Json × String) × Registry :=
  match env.failed with
  | some status => (.error <| .status status, c)
  | none        =>
    match AgentRegistry.Grpc.registerAgent c
        (registerRequest agentType ownerId metadata admission) env.register with
    | (.error status, c) => (.error <| .status status, c)
    | (.ok a, c)         => (.ok (agentBody a, Go.trimSpace a.agentId), c)

def getAgent (c : Registry) (agentId : String) (env : RegistryEnv) :
    Except Rpc.Status AgentMessage :=
  match env.failed with
  | some status => .error status
  | none        => AgentRegistry.Grpc.getAgent c agentId env.read

def getAgentJson (c : Registry) (agentId : String) (env : RegistryEnv) :
    Except DelegateError Json :=
  match getAgent c agentId env with
  | .error status => .error <| if status.code = .notFound then .notFound else .status status
  | .ok a         => .ok <| agentBody a

def agentExists (c : Registry) (agentId : String) (env : RegistryEnv) : Except Rpc.Status Bool :=
  match getAgent c agentId env with
  | .error status => if status.code = .notFound then .ok false else .error status
  | .ok _         => .ok true

def admissionEnvelopeToMap (e : AdmissionEnvelopeMessage) : Json :=
  .object <|
    [("envelope_id", .string e.envelopeId), ("agent_id", .string e.agentId),
      ("policy_id", .string e.policyId), ("policy_ver", .string e.policyVer),
      -- The list is nil if it is empty.
      ("admitted_scopes",
        if e.admittedScopes = [] then .null else .array <| e.admittedScopes.map .string),
      ("admitted_ts_ms", .number e.admittedTsMs),
      ("issuing_authority", .string e.issuingAuthority)] ++
    (if e.admittedBehavioralCaps.size > 0 then
      [("admitted_behavioral_caps",
        .object <| e.admittedBehavioralCaps.entries.map fun e => (e.1, .number e.2))] else []) ++
    (if e.signature ≠ [] then [("signature", .string <| Go.jsonText e.signature)] else [])

def getAdmissionEnvelope (c : Registry) (agentId : String) (env : RegistryEnv) :
    Except Rpc.Status AdmissionEnvelopeMessage :=
  match env.failed with
  | some status => .error status
  | none        => AgentRegistry.Grpc.getAdmissionEnvelope c agentId env.read

def getAdmissionEnvelopeJson (c : Registry) (agentId : String) (env : RegistryEnv) :
    Except DelegateError Json :=
  match getAdmissionEnvelope c agentId env with
  | .error status => .error <| if status.code = .notFound then .notFound else .status status
  | .ok e         =>
    .ok <| .object
      [("agent_id", .string agentId), ("admission_envelope", admissionEnvelopeToMap e)]

end Registry

section Passport

-- What happens to a call of the passport engine, with the same failures as above.
structure EngineEnv where
  failed : Option Rpc.Status := none
  server : PassportIssuance.Grpc.ServerEnv

def rpcStatus (st : PassportIssuance.Grpc.Status) : Rpc.Status where
  code := match st.code with
    | .invalidArgument    => .invalidArgument
    | .notFound           => .notFound
    | .alreadyExists      => .alreadyExists
    | .failedPrecondition => .failedPrecondition
    | .unavailable        => .unavailable
  message := st.message

def constraintsToJson (cc : HashMap String String) : Json :=
  .object <| (cc.keys.sort (· ≤ ·)).map fun k => (k, .string <| (cc.lookup k).getD "")

def scopeToMap (s : PassportScope) : Json :=
  .object <|
    [("scope_id", .string s.scopeId), ("action_class", .string s.actionClass),
      ("resource_pattern", .string s.resourcePattern)] ++
    (if s.contextConstraints.keys.card > 0 then
      [("context_constraints", constraintsToJson s.contextConstraints)] else []) ++
    (if s.grantedTs ≠ 0 then [("granted_ts", .number s.grantedTs)] else []) ++
    (if s.expiresTs ≠ 0 then [("expires_ts", .number s.expiresTs)] else []) ++
    (if s.isEscalation then [("is_escalation", .bool true)] else [])

def passportToMap (p : PassportMessage) : Json :=
  .object <|
    [("passport_id", .string p.passportId), ("agent_id", .string p.agentId),
      ("passport_type", .string p.passportType), ("status", .string p.status),
      ("issued_by", .string p.issuedBy), ("issued_ts", .number p.issuedTs),
      ("expires_ts", .number p.expiresTs), ("credential_id", .string p.credentialId),
      ("public_key_pem", .string p.publicKeyPem),
      ("policy_id_at_issuance", .string p.policyIdAtIssuance),
      ("policy_ver_at_issuance", .string p.policyVerAtIssuance),
      ("scope_set", .array <| p.scopeSet.map scopeToMap)] ++
    (if p.signature ≠ [] then [("signature", .string <| Go.jsonText p.signature)] else []) ++
    (if p.revocationReason ≠ "" then
      [("revocation_reason", .string p.revocationReason)] else []) ++
    (if p.supersededBy ≠ "" then [("superseded_by", .string p.supersededBy)] else []) ++
    (if p.revokedTs ≠ 0 then [("revoked_ts", .number p.revokedTs)] else [])

def passportBody (p : PassportMessage) : Json :=
  .object [("passport", passportToMap p)]

def issuePassportJson [Sha256] (c : PassportIssuance.Service) (req : IssuePassportRequest)
    (env : EngineEnv) : Except DelegateError Json × PassportIssuance.Service :=
  match env.failed with
  | some status => (.error <| .status status, c)
  | none        =>
    match PassportIssuance.Grpc.issuePassport c req env.server with
    | (.error status, c) => (.error <| .status <| rpcStatus status, c)
    | (.ok p, c)         => (.ok <| passportBody p, c)

def asInt64Any : Json → Option Int
  | .number value => some <| Go.int64 value
  | _             => none

def scopeRequest [Format] (row : Json) : ScopeRequest where
  actionClass        := (row.field "action_class").asString
  resourcePattern    := (row.field "resource_pattern").asString
  scopeTtlSeconds    := (asInt64Any <| row.field "scope_ttl_seconds").getD 0
  contextConstraints := (row.field "context_constraints").toMap.entries.foldl
    (fun cc e => cc.insert e.1 <| Format.sprint e.2) ∅

def buildIssueRequest [Format] (agentId passportType issuedBy reason : String) (ttl : Int)
    (scopes : List Json) (forceReissue : Bool) : IssuePassportRequest where
  agentId         := agentId
  passportType    := passportType
  requestedScopes := scopes.map scopeRequest
  ttlSeconds      := ttl
  issuedBy        := issuedBy
  reason          := reason
  forceReissue    := forceReissue

end Passport

end RestBff.S0Delegate
