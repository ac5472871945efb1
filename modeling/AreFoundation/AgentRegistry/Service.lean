import AreFoundation.AgentRegistry.Domain
import AreFoundation.Library.HashMap

namespace AgentRegistry

open Calendar

-- Errors that wrap one of the sentinels, with their text, and all others.
inductive RegistryError
  | alreadyExists (detail : String)
  | invalidArgument (detail : String)
  | notFound (detail : String)
  | failedPrecondition (detail : String)
  | other
  deriving DecidableEq

def RegistryError.text : RegistryError → String
  | alreadyExists detail      => "ALREADY_EXISTS: " ++ detail
  | invalidArgument detail    => "INVALID_ARGUMENT: " ++ detail
  | notFound detail           => "NOT_FOUND: " ++ detail
  | failedPrecondition detail => "FAILED_PRECONDITION: " ++ detail
  | other                     => "internal error"

structure StatusChange where
  agentId        : String
  previousStatus : Option AgentStatus
  newStatus      : AgentStatus
  reason         : String
  changedBy      : String
  deriving DecidableEq

inductive EventType
  | agentRegistered
  | agentStatusChanged
  | agentDeregistered
  deriving DecidableEq

structure OutboxEvent where
  agentId   : String
  eventType : EventType
  deriving DecidableEq

-- The tables of the database. Envelopes are unique for an agent.
structure Registry where
  agents             : HashMap String Agent := ∅
  admissionEnvelopes : HashMap String AdmissionEnvelope := ∅
  statusHistory      : List StatusChange := []
  outbox             : List OutboxEvent := []

-- What the clock, `uuid.NewString` and the database return during a registration. The database may
-- refuse or fail to commit the rows.
structure RegisterEnv where
  now        : Instant
  agentId    : String
  envelopeId : String
  committed  : Bool := true

def RegisterEnv.envelope (env : RegisterEnv) (snap : AdmissionSnapshot) : AdmissionEnvelope :=
  newAdmissionEnvelope (if snap.envelopeId = "" then env.envelopeId else snap.envelopeId)
    env.agentId env.now snap snap.signature snap.issuingAuthority

namespace Registry

variable (r : Registry)

def registerAgentWithOutbox (a : Agent) (envelope : Option AdmissionEnvelope) (committed : Bool) :
    Except RegistryError Agent × Registry :=
  if !committed then
    (.error .other, r)
  else if a.agentId ∈ r.agents ∨ (a.externalId ≠ "" ∧
      r.agents.any fun _ b => b.externalId = a.externalId && b.ownerId = a.ownerId) then
    (.error <| .alreadyExists "external_id + owner_id already registered", r)
  else if envelope.any fun env =>
      r.admissionEnvelopes.any fun _ env' => env'.envelopeId = env.envelopeId then
    (.error .other, r)
  else
    (.ok a,
      { agents             := r.agents.insert a.agentId a
        admissionEnvelopes :=
          envelope.elim r.admissionEnvelopes (r.admissionEnvelopes.insert a.agentId)
        statusHistory      := r.statusHistory ++
          [⟨a.agentId, none, a.status, "initial registration", "system"⟩]
        outbox             := r.outbox ++ [⟨a.agentId, .agentRegistered⟩] })

def registerWithAdmission (agentType ownerId externalId : String)
    (metadata : OrderedMap String String) (admission : Option AdmissionSnapshot)
    (env : RegisterEnv) : Except RegistryError Agent × Registry :=
  match validateAgentType agentType with
  | .error err    => (.error <| .invalidArgument err, r)
  | .ok validType =>
    if ownerId = "" then
      (.error <| .invalidArgument "owner_id is required", r)
    else match validateAgentMetadata metadata with
      | .error err => (.error <| .invalidArgument err, r)
      | .ok ()     =>
        r.registerAgentWithOutbox
          { agentId              := env.agentId
            agentType            := validType
            ownerId              := ownerId
            externalId           := externalId
            status               := .pending
            metadata             := metadata
            registrationTs       := env.now
            updatedTs            := env.now
            admissionConstraints := admission.elim {} (·.constraints)
            admittedPolicyId     := admission.elim "" (·.policyId)
            admittedPolicyVer    := admission.elim "" (·.policyVer)
            admissionTs          := env.now }
          (admission.map env.envelope) env.committed

-- `read` is false if the query fails.
def get (agentId : String) (read : Bool) : Except RegistryError Agent :=
  if !read then
    .error .other
  else match r.agents.lookup agentId with
    | some agent => .ok agent
    | none       => .error <| .notFound ("agent_id " ++ agentId)

def getAdmissionEnvelope (agentId : String) (read : Bool) :
    Except RegistryError AdmissionEnvelope :=
  if agentId = "" then
    .error <| .invalidArgument "agent_id is required"
  else if !read then
    .error .other
  else match r.admissionEnvelopes.lookup agentId with
    | some env => .ok env
    | none     => .error <| .notFound ("admission envelope for agent_id " ++ agentId)

variable {r}

theorem registerAgentWithOutbox_ok
    (h : r.registerAgentWithOutbox a envelope committed = (.ok a', r')) :
    a' = a ∧ a.agentId ∉ r.agents ∧ r'.agents = r.agents.insert a.agentId a ∧
      r'.admissionEnvelopes =
        envelope.elim r.admissionEnvelopes (r.admissionEnvelopes.insert a.agentId) := by
  unfold registerAgentWithOutbox at h
  split at h
  case isTrue  => cases h
  case isFalse =>
    split at h
    case isTrue     => cases h
    case isFalse hn =>
      split at h
      case isTrue  => cases h
      case isFalse => cases h; exact ⟨rfl, fun hm => hn <| .inl hm, rfl, rfl⟩

-- What a registration that succeeds has done.
structure Registered (r : Registry) (agentType ownerId : String)
    (admission : Option AdmissionSnapshot) (env : RegisterEnv) (a : Agent) (r' : Registry) :
    Prop where
  agentType : a.agentType.toRaw = Go.toUpper (Go.trimSpace agentType)
  ownerId   : a.ownerId = ownerId
  agentId   : a.agentId = env.agentId
  fresh     : env.agentId ∉ r.agents
  agents    : r'.agents = r.agents.insert env.agentId a
  envelopes : r'.admissionEnvelopes = (admission.map env.envelope).elim r.admissionEnvelopes
                (r.admissionEnvelopes.insert env.agentId)

theorem registerWithAdmission_ok
    (h : r.registerWithAdmission agentType ownerId externalId metadata admission env = (.ok a, r')) :
    r.Registered agentType ownerId admission env a r' := by
  unfold registerWithAdmission at h
  split at h
  case h_1 => cases h
  case h_2 validType ht =>
    split at h
    case isTrue  => cases h
    case isFalse =>
      split at h
      case h_1 => cases h
      case h_2 =>
        obtain ⟨rfl, hf, ha, he⟩ := registerAgentWithOutbox_ok h
        exact ⟨toRaw_of_validateAgentType ht, rfl, rfl, hf, ha, he⟩

end Registry

end AgentRegistry
