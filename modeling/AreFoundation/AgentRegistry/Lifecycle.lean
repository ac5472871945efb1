import AreFoundation.AgentRegistry.Service
import AreFoundation.Library.Interleaving

namespace AgentRegistry

open Calendar

-- What the clock and the database return during a status update. `read` is false if the row cannot be
-- locked, `committed` if one of the following statements fails.
structure UpdateEnv where
  now       : Instant
  read      : Bool := true
  committed : Bool := true

namespace Registry

variable (r : Registry)

def recordStatus (agentId : String) (a : Agent) (status : AgentStatus) (reason changedBy : String)
    (now : Instant) : Registry :=
  { r with
    agents        := r.agents.insert agentId { a with status := status, updatedTs := now }
    statusHistory := r.statusHistory ++ [⟨agentId, some a.status, status, reason, changedBy⟩]
    outbox        := r.outbox ++
      [⟨agentId, if status = .deregistered then .agentDeregistered else .agentStatusChanged⟩] }

-- The transaction of `UpdateAgentStatus`. The row of the agent stays locked until its end, and yields
-- the status before the update.
def updateAgentStatus (agentId newStatus reason changedBy : String) (env : UpdateEnv) :
    Except RegistryError AgentStatus × Registry :=
  if !env.read then
    (.error .other, r)
  else match r.agents.lookup agentId with
    | none   => (.error <| .notFound ("agent_id " ++ agentId), r)
    | some a =>
      if !canTransition a.status newStatus then
        (.error <| .failedPrecondition
          ("invalid transition from " ++ a.status.toRaw ++ " to " ++ newStatus), r)
      else if !env.committed then
        (.error .other, r)
      else if a.status.toRaw = newStatus then
        (.ok a.status, r)
      else match AgentStatus.ofRaw? newStatus with
        -- `agents_status_check`
        | none        => (.error .other, r)
        | some status => (.ok a.status, r.recordStatus agentId a status reason changedBy env.now)

end Registry

-- The columns of `admission_envelopes`. A column of type `jsonb` may hold the value `null`.
structure EnvelopeRow where
  envelopeId             : String
  agentId                : String
  policyId               : Option String
  policyVer              : Option String
  admittedScopes         : Option (List String)
  admittedBehavioralCaps : Option (OrderedMap String ℚ)
  admittedTs             : Instant
  issuingAuthority       : String
  signature              : List UInt8

def nullable (s : String) : Option String :=
  if s = "" then none else some s

-- Slices without elements are `nil`, since the scopes are copied by `append`.
def AdmissionEnvelope.toRow (env : AdmissionEnvelope) : EnvelopeRow where
  envelopeId             := env.envelopeId
  agentId                := env.agentId
  policyId               := nullable env.policyId
  policyVer              := nullable env.policyVer
  admittedScopes         := if env.admittedScopes = [] then none else some env.admittedScopes
  admittedBehavioralCaps := some env.admittedBehavioralCaps
  admittedTs             := env.admittedTs
  issuingAuthority       := env.issuingAuthority
  signature              := env.signature

def EnvelopeRow.scan (row : EnvelopeRow) : AdmissionEnvelope where
  envelopeId             := row.envelopeId
  agentId                := row.agentId
  policyId               := row.policyId.getD ""
  policyVer              := row.policyVer.getD ""
  admittedScopes         := row.admittedScopes.getD []
  admittedBehavioralCaps := row.admittedBehavioralCaps.getD {}
  admittedTs             := row.admittedTs
  issuingAuthority       := row.issuingAuthority
  signature              := row.signature

-- The transactions that change the tables, as the service executes them.
inductive Tx
  | register (agentType ownerId externalId : String) (metadata : OrderedMap String String)
      (admission : Option AdmissionSnapshot) (env : RegisterEnv)
  | updateAgentStatus (agentId newStatus reason changedBy : String) (env : UpdateEnv)

def Tx.commit (r : Registry) : Tx → Registry
  | register agentType ownerId externalId metadata admission env =>
    (r.registerWithAdmission agentType ownerId externalId metadata admission env).2
  | updateAgentStatus agentId newStatus reason changedBy env =>
    (r.updateAgentStatus agentId newStatus reason changedBy env).2

def transactions : Transition.System Registry Tx where
  allows _ _ := True
  step       := Tx.commit

structure UpdateStatusCall where
  agentId   : String
  newStatus : String
  reason    : String
  changedBy : String

namespace UpdateStatus

inductive Pc
  | start
  -- The transaction has committed, the agent is read next.
  | reading (prev : AgentStatus)
  | returned (result : Except RegistryError Agent)

def newStatus (call : UpdateStatusCall) : String :=
  Go.toUpper <| Go.trimSpace call.newStatus

-- The atomic steps of `UpdateStatus`: the transaction of the repository, and the query that follows.
def step (call : UpdateStatusCall) (env : UpdateEnv) (r : Registry) : Pc → Registry × Pc
  | .start =>
    if call.agentId = "" ∨ newStatus call = "" ∨ call.reason = "" ∨ call.changedBy = "" then
      (r, .returned <| .error <|
        .invalidArgument "agent_id, new_status, reason, updated_by are required")
    else match r.updateAgentStatus call.agentId (newStatus call) call.reason call.changedBy env with
      | (.error err, r') => (r', .returned <| .error err)
      | (.ok prev, r')   => (r', .reading prev)
  | .reading prev =>
    match r.get call.agentId env.read with
    | .error err => (r, .returned <| .error err)
    | .ok a      =>
      if a.status.toRaw ≠ newStatus call then
        (r, .returned <| .error <| .failedPrecondition
          ("agent status after update is " ++ Go.quote a.status.toRaw ++ ", expected " ++
            Go.quote (newStatus call) ++ " (previous_status=" ++ Go.quote prev.toRaw ++ ")"))
      else
        (r, .returned <| .ok a)
  | .returned result => (r, .returned result)

-- Concurrent calls while the database does not fail.
def updates (calls : ι → UpdateStatusCall) : Interleaving.System ι Registry Pc Instant where
  allows _ _ _ _   := True
  step i now r pc  := step (calls i) { now := now } r pc

end UpdateStatus

namespace Registry

variable {r r' : Registry}

-- An update does nothing, or it follows an edge of the lifecycle.
theorem updateAgentStatus_cases
    (h : r.updateAgentStatus agentId newStatus reason changedBy env = (result, r')) :
    r' = r ∧ (∀ prev, result = .ok prev → prev.toRaw = newStatus) ∨
      ∃ a status, r.agents.lookup agentId = some a ∧ status ∈ validTransitions a.status ∧
        status.toRaw = newStatus ∧ result = .ok a.status ∧
        r' = r.recordStatus agentId a status reason changedBy env.now := by
  unfold updateAgentStatus at h
  split at h
  case isTrue  => cases h; exact .inl ⟨rfl, nofun⟩
  case isFalse =>
    split at h
    case h_1      => cases h; exact .inl ⟨rfl, nofun⟩
    case h_2 a ha =>
      split at h
      case isTrue     => cases h; exact .inl ⟨rfl, nofun⟩
      case isFalse hc =>
        split at h
        case isTrue  => cases h; exact .inl ⟨rfl, nofun⟩
        case isFalse =>
          split at h
          case isTrue hs =>
            cases h
            exact .inl ⟨rfl, fun _ hp => Except.ok.inj hp ▸ hs⟩
          case isFalse hs =>
            obtain ⟨status, hm, he⟩ : ∃ status ∈ validTransitions a.status,
                status.toRaw = newStatus := by
              simpa [canTransition, hs] using hc
            rw [← he, AgentStatus.ofRaw?_toRaw] at h
            cases h
            exact .inr ⟨a, status, ha, hm, he, rfl, rfl⟩

end Registry

theorem EnvelopeRow.scan_toRow (env : AdmissionEnvelope) : env.toRow.scan = env := by
  have hn : ∀ s, (nullable s).getD "" = s := by
    intro s
    unfold nullable
    split
    case isTrue h  => exact h.symm
    case isFalse   => rfl
  have hs : (if env.admittedScopes = [] then none else some env.admittedScopes).getD [] =
      env.admittedScopes := by
    split
    case isTrue h  => exact h.symm
    case isFalse   => rfl
  simp only [scan, AdmissionEnvelope.toRow, hn, hs, Option.getD_some]

end AgentRegistry
