import AreFoundation.AgentRegistry.Service
import AreFoundation.Library.Rpc

-- The messages of `are.registry.v1` and the server that answers with them.
namespace AgentRegistry.Grpc

-- Constraints that cannot be decoded are represented by a document that is not an object.
structure RegisterAgentRequest where
  agentType                : String
  ownerId                  : String
  externalId               : String := ""
  metadata                 : OrderedMap String String := {}
  admissionConstraintsJson : Option Json := none
  admittedPolicyId         : String := ""
  admittedPolicyVer        : String := ""
  admittedScopePatterns    : List String := []
  admittedBehavioralCaps   : OrderedMap String ℚ := {}
  issuingAuthority         : String := ""
  admissionSignature       : List UInt8 := []
  envelopeId               : String := ""

structure AgentMessage where
  agentId                  : String
  agentType                : String
  ownerId                  : String
  externalId               : String
  status                   : String
  passportId               : String
  registrationTs           : Int
  updatedTs                : Int
  metadata                 : OrderedMap String String
  admissionConstraintsJson : Option Json
  admittedPolicyId         : String
  admittedPolicyVer        : String
  admissionTs              : Int

structure AdmissionEnvelopeMessage where
  envelopeId             : String
  agentId                : String
  policyId               : String
  policyVer              : String
  admittedScopes         : List String
  admittedBehavioralCaps : OrderedMap String ℚ
  admittedTsMs           : Int
  issuingAuthority       : String
  signature              : List UInt8

def mapError (err : RegistryError) : Rpc.Status where
  code := match err with
    | .alreadyExists _      => .alreadyExists
    | .invalidArgument _    => .invalidArgument
    | .notFound _           => .notFound
    | .failedPrecondition _ => .failedPrecondition
    | .other                => .internal
  message := err.text

def toProtoAgent (a : Agent) : AgentMessage where
  agentId                  := a.agentId
  agentType                := a.agentType.toRaw
  ownerId                  := a.ownerId
  externalId               := a.externalId
  status                   := a.status.toRaw
  passportId               := a.passportId
  registrationTs           := a.registrationTs.unixMilli
  updatedTs                := a.updatedTs.unixMilli
  metadata                 := a.metadata
  admissionConstraintsJson :=
    if a.admissionConstraints.size > 0 then some <| .ofMap a.admissionConstraints else none
  admittedPolicyId         := a.admittedPolicyId
  admittedPolicyVer        := a.admittedPolicyVer
  admissionTs              := a.admissionTs.unixMilli

def toProtoAdmissionEnvelope (e : AdmissionEnvelope) : AdmissionEnvelopeMessage where
  envelopeId             := e.envelopeId
  agentId                := e.agentId
  policyId               := e.policyId
  policyVer              := e.policyVer
  admittedScopes         := e.admittedScopes
  admittedBehavioralCaps := e.admittedBehavioralCaps
  admittedTsMs           := e.admittedTs.unixMilli
  issuingAuthority       := e.issuingAuthority
  signature              := e.signature

namespace RegisterAgentRequest

variable (req : RegisterAgentRequest)

def hasAdmission : Bool :=
  req.admissionConstraintsJson.isSome || req.admittedPolicyId ≠ "" ||
    req.admittedPolicyVer ≠ "" || req.admittedScopePatterns ≠ [] ||
    req.admittedBehavioralCaps.size > 0 || req.admissionSignature ≠ [] ||
    req.issuingAuthority ≠ "" || req.envelopeId ≠ ""

def snapshot (constraints : OrderedMap String Json) : AdmissionSnapshot where
  constraints      := constraints
  policyId         := req.admittedPolicyId
  policyVer        := req.admittedPolicyVer
  scopePatterns    := req.admittedScopePatterns
  behavioralCaps   := req.admittedBehavioralCaps
  envelopeId       := req.envelopeId
  issuingAuthority := req.issuingAuthority
  signature        := req.admissionSignature

def admission : Except Rpc.Status (Option AdmissionSnapshot) :=
  if !req.hasAdmission then
    .ok none
  else match req.admissionConstraintsJson with
    | none      => .ok <| some <| req.snapshot {}
    | some json =>
      match json.asStruct? with
      | some constraints => .ok <| some <| req.snapshot constraints.toMap
      | none             =>
        .error ⟨.invalidArgument, "admission_constraints_json must be a JSON object"⟩

end RegisterAgentRequest

def registerAgent (registry : Registry) (req : RegisterAgentRequest) (env : RegisterEnv) :
    Except Rpc.Status AgentMessage × Registry :=
  match req.admission with
  | .error status => (.error status, registry)
  | .ok admission =>
    match registry.registerWithAdmission req.agentType req.ownerId req.externalId req.metadata
        admission env with
    | (.error err, registry) => (.error <| mapError err, registry)
    | (.ok agent, registry)  => (.ok <| toProtoAgent agent, registry)

theorem registerAgent_ok {registry : Registry}
    (h : registerAgent registry req env = (.ok message, registry')) :
    ∃ a admission, req.admission = .ok admission ∧ message = toProtoAgent a ∧
      registry.Registered req.agentType req.ownerId admission env a registry' := by
  unfold registerAgent at h
  split at h
  case h_1 => cases h
  case h_2 admission hd =>
    split at h
    case h_1 => cases h
    case h_2 a _ hr =>
      cases h
      exact ⟨a, admission, hd, rfl, Registry.registerWithAdmission_ok hr⟩

def getAgent (registry : Registry) (agentId : String) (read : Bool) :
    Except Rpc.Status AgentMessage :=
  match registry.get agentId read with
  | .error err => .error <| mapError err
  | .ok agent  => .ok <| toProtoAgent agent

def getAdmissionEnvelope (registry : Registry) (agentId : String) (read : Bool) :
    Except Rpc.Status AdmissionEnvelopeMessage :=
  match registry.getAdmissionEnvelope agentId read with
  | .error err => .error <| mapError err
  | .ok env    => .ok <| toProtoAdmissionEnvelope env

end AgentRegistry.Grpc
