import AreFoundation.Library.Calendar
import AreFoundation.Library.GoStrings
import AreFoundation.Library.Json

namespace AgentRegistry

open Calendar

inductive AgentStatus
  | pending
  | active
  | suspended
  | deregistered
  deriving DecidableEq

namespace AgentStatus

def toRaw : AgentStatus → String
  | pending      => "PENDING"
  | active       => "ACTIVE"
  | suspended    => "SUSPENDED"
  | deregistered => "DEREGISTERED"

def ofRaw? : String → Option AgentStatus
  | "PENDING"      => some pending
  | "ACTIVE"       => some active
  | "SUSPENDED"    => some suspended
  | "DEREGISTERED" => some deregistered
  | _              => none

theorem ofRaw?_toRaw (status : AgentStatus) : ofRaw? status.toRaw = some status := by
  cases status
  all_goals rfl

theorem toRaw_injective : Function.Injective toRaw := by
  intro s s' h
  simpa [ofRaw?_toRaw] using congrArg ofRaw? h

end AgentStatus

def validTransitions : AgentStatus → List AgentStatus
  | .pending      => [.active]
  | .active       => [.suspended, .deregistered]
  | .suspended    => [.active, .deregistered]
  | .deregistered => []

def canTransition (current : AgentStatus) (newStatus : String) : Bool :=
  current.toRaw = newStatus || (validTransitions current).any (·.toRaw = newStatus)

theorem ne_of_mem_validTransitions (h : status' ∈ validTransitions status) : status' ≠ status := by
  rintro rfl
  revert h
  cases status'
  all_goals decide

inductive AgentType
  | autonomous
  | assisted
  | system
  | ephemeral
  deriving DecidableEq

namespace AgentType

def toRaw : AgentType → String
  | autonomous => "AUTONOMOUS"
  | assisted   => "ASSISTED"
  | system     => "SYSTEM"
  | ephemeral  => "EPHEMERAL"

def ofRaw? : String → Option AgentType
  | "AUTONOMOUS" => some autonomous
  | "ASSISTED"   => some assisted
  | "SYSTEM"     => some system
  | "EPHEMERAL"  => some ephemeral
  | _            => none

theorem toRaw_of_ofRaw? {s : String} {t : AgentType} (h : ofRaw? s = some t) : t.toRaw = s := by
  unfold ofRaw? at h
  split at h
  all_goals cases h
  all_goals rfl

end AgentType

-- Identifiers in columns of type `UUID` are compared as texts, that is, they are written in the form in
-- which the database returns them.
structure Agent where
  agentId              : String
  agentType            : AgentType
  ownerId              : String
  externalId           : String
  status               : AgentStatus
  passportId           : String := ""
  metadata             : OrderedMap String String
  registrationTs       : Instant
  updatedTs            : Instant
  admissionConstraints : OrderedMap String Json := {}
  admittedPolicyId     : String := ""
  admittedPolicyVer    : String := ""
  admissionTs          : Instant

structure AdmissionSnapshot where
  constraints      : OrderedMap String Json
  policyId         : String
  policyVer        : String
  scopePatterns    : List String
  behavioralCaps   : OrderedMap String ℚ
  envelopeId       : String
  issuingAuthority : String
  signature        : List UInt8

structure AdmissionEnvelope where
  envelopeId             : String
  agentId                : String
  policyId               : String
  policyVer              : String
  admittedScopes         : List String
  admittedBehavioralCaps : OrderedMap String ℚ
  admittedTs             : Instant
  issuingAuthority       : String
  signature              : List UInt8

-- Constraints that are not numeric are no caps. The explicit caps override the others.
def mergeBehavioralCaps (snap : AdmissionSnapshot) : OrderedMap String ℚ :=
  snap.behavioralCaps.entries.foldl (fun out e => out.set e.1 e.2)
    (snap.constraints.filterMap Json.asNumber?)

theorem get?_mergeBehavioralCaps {snap : AdmissionSnapshot} {k : String} :
    (mergeBehavioralCaps snap).get? k =
      (snap.behavioralCaps.get? k).or ((snap.constraints.get? k).bind Json.asNumber?) := by
  rw [mergeBehavioralCaps, OrderedMap.get?_foldl_set, OrderedMap.get?_filterMap]

def newAdmissionEnvelope (envelopeId agentId : String) (admittedTs : Instant)
    (snap : AdmissionSnapshot) (signature : List UInt8) (issuingAuthority : String) :
    AdmissionEnvelope where
  envelopeId             := envelopeId
  agentId                := agentId
  policyId               := snap.policyId
  policyVer              := snap.policyVer
  admittedScopes         := snap.scopePatterns
  admittedBehavioralCaps := mergeBehavioralCaps snap
  admittedTs             := admittedTs
  issuingAuthority       := if issuingAuthority = "" then "agent-registry" else issuingAuthority
  signature              := signature

def maxAgentMetadataKeys : Nat := 50

def maxAgentMetadataKeyLen : Nat := 64

def maxAgentMetadataValLen : Nat := 512

-- The entries are checked in the order in which they are iterated. Lengths are in bytes.
def validateAgentMetadata (metadata : OrderedMap String String) : Except String Unit :=
  if metadata.size > maxAgentMetadataKeys then
    .error <| "metadata: at most " ++ toString maxAgentMetadataKeys ++ " keys allowed, got " ++
      toString metadata.size
  else
    metadata.entries.forM fun (k, v) =>
      if k.utf8ByteSize > maxAgentMetadataKeyLen then
        .error <| "metadata key length " ++ toString k.utf8ByteSize ++ " exceeds max " ++
          toString maxAgentMetadataKeyLen
      else if v.utf8ByteSize > maxAgentMetadataValLen then
        .error <| "metadata value length for key " ++ Go.quote k ++ " exceeds max " ++
          toString maxAgentMetadataValLen
      else
        .ok ()

def validateAgentType (v : String) : Except String AgentType :=
  match AgentType.ofRaw? <| Go.toUpper <| Go.trimSpace v with
  | some t => .ok t
  | none   =>
    .error <| "invalid agent_type " ++ Go.quote v ++
      "; valid: AUTONOMOUS|ASSISTED|SYSTEM|EPHEMERAL"

theorem toRaw_of_validateAgentType {v : String} (h : validateAgentType v = .ok t) :
    t.toRaw = Go.toUpper (Go.trimSpace v) := by
  unfold validateAgentType at h
  split at h
  case h_1 ht => exact Except.ok.inj h ▸ AgentType.toRaw_of_ofRaw? ht
  case h_2    => cases h

end AgentRegistry
