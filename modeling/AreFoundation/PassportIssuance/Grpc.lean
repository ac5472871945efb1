import AreFoundation.Library.GoStrings
import AreFoundation.PassportIssuance.Service

-- The messages of `are.passport.v1` and the server that answers with them.
namespace PassportIssuance.Grpc

open Calendar

structure PassportScope where
  scopeId            : String
  actionClass        : String
  resourcePattern    : String
  contextConstraints : HashMap String String
  grantedTs          : Int
  expiresTs          : Int
  isEscalation       : Bool
  deriving DecidableEq

structure PassportMessage where
  passportId          : String
  agentId             : String
  passportType        : String
  scopeSet            : List PassportScope
  status              : String
  issuedBy            : String
  credentialId        : String
  publicKeyPem        : String
  signature           : List UInt8
  issuedTs            : Int
  expiresTs           : Int
  revokedTs           : Int
  revocationReason    : String
  supersededBy        : String
  policyIdAtIssuance  : String
  policyVerAtIssuance : String
  deriving DecidableEq

inductive Code
  | invalidArgument
  | notFound
  | alreadyExists
  | failedPrecondition
  | unavailable
  deriving DecidableEq

structure Status where
  code    : Code
  message : String
  deriving DecidableEq

def mapErr (err : ServiceError) : Status where
  code := match err with
    | .invalidArgument _  => .invalidArgument
    | .notFound           => .notFound
    | .alreadyExists _    => .alreadyExists
    | .failedPrecondition => .failedPrecondition
    | .unavailable        => .unavailable
  message := err.text

def scopesToProto (scopes : List Scope) : List PassportScope :=
  scopes.map fun s =>
    { scopeId            := s.scopeId
      actionClass        := s.actionClass
      resourcePattern    := s.resourcePattern
      contextConstraints := s.contextConstraints
      grantedTs          := s.grantedTs.unixMilli
      expiresTs          := s.expiresTs.unixMilli
      isEscalation       := s.isEscalation }

def passportToProto (p : Passport) : PassportMessage where
  passportId          := p.passportId
  agentId             := p.agentId
  passportType        := p.passportType.toRaw
  scopeSet            := scopesToProto p.scopeSet
  status              := p.status.toRaw
  issuedBy            := p.issuedBy
  credentialId        := p.credentialId
  publicKeyPem        := p.publicKeyPem
  signature           := p.signature
  issuedTs            := p.issuedTs.unixMilli
  expiresTs           := p.expiresTs.unixMilli
  revokedTs           := (p.revokedTs.map (·.unixMilli)).getD 0
  revocationReason    := p.revocationReason
  supersededBy        := p.supersededBy
  policyIdAtIssuance  := p.policyIdAtIssuance
  policyVerAtIssuance := p.policyVerAtIssuance

structure ScopeRequest where
  actionClass        : String
  resourcePattern    : String
  scopeTtlSeconds    : Int := 0
  contextConstraints : HashMap String String := ∅

structure IssuePassportRequest where
  agentId         : String
  passportType    : String
  requestedScopes : List ScopeRequest
  ttlSeconds      : Int
  issuedBy        : String
  reason          : String
  forceReissue    : Bool := false

-- The clock and the identifiers that the server generates before it calls the service.
structure ServerEnv where
  now      : Instant
  scopeIds : Nat → String
  issue    : IssueEnv

def parsePassportType (raw : String) : Except String PassportType :=
  match Go.toUpper <| Go.trimSpace raw with
  | "" | "STANDARD" => .ok .standard
  | "PROVISIONAL"   => .ok .provisional
  | _               => .error "invalid passport_type"

def scopeFromProto (sr : ScopeRequest) (passportTtl : Int) (now : Instant) (scopeId : String) :
    Scope :=
  let ttl := if sr.scopeTtlSeconds ≤ 0 then passportTtl else sr.scopeTtlSeconds
  let ttl := if ttl ≤ 0 then 3600 else ttl
  { scopeId            := scopeId
    actionClass        := sr.actionClass
    resourcePattern    := sr.resourcePattern
    contextConstraints := sr.contextConstraints
    grantedTs          := now
    expiresTs          := now + (ttl * 1000000000).bmod (2 ^ 64) }

def IssuePassportRequest.toInput (req : IssuePassportRequest) (pType : PassportType)
    (env : ServerEnv) : IssueInput where
  agentId      := req.agentId
  passportType := pType
  scopes       := req.requestedScopes.zipIdx.map fun (sr, i) =>
    scopeFromProto sr req.ttlSeconds env.now (env.scopeIds i)
  ttlSeconds   := req.ttlSeconds
  issuedBy     := req.issuedBy
  forceReissue := req.forceReissue
  reason       := req.reason

def issuePassport [Sha256] (svc : Service) (req : IssuePassportRequest) (env : ServerEnv) :
    Except Status PassportMessage × Service :=
  match parsePassportType req.passportType with
  | .error err => (.error ⟨.invalidArgument, err⟩, svc)
  | .ok pType  =>
    if req.requestedScopes = [] then
      (.error ⟨.invalidArgument, "requested_scopes required"⟩, svc)
    else match svc.issuePassport (req.toInput pType env) env.issue with
      | (.error err, svc) => (.error <| mapErr err, svc)
      | (.ok p, svc)      => (.ok <| passportToProto p, svc)

structure GetAgentPassportResponse where
  passport : Option PassportMessage

def getAgentPassport (svc : Service) (agentId : String) : Except Status GetAgentPassportResponse :=
  if agentId = "" then
    .error ⟨.invalidArgument, "agent_id required"⟩
  else match svc.getAgentPassport agentId with
    | .error err => .error <| mapErr err
    | .ok p      => .ok ⟨passportToProto p⟩

end PassportIssuance.Grpc
