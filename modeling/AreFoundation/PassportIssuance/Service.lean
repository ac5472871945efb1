import AreFoundation.Library.Transition
import AreFoundation.PassportIssuance.Domain

namespace PassportIssuance

open Calendar

inductive ServiceError
  | notFound
  | alreadyExists (activeId : String)
  | invalidArgument (detail : String)
  | failedPrecondition
  | unavailable
  deriving DecidableEq

def ServiceError.text : ServiceError → String
  | notFound           => "not found"
  | alreadyExists id   => "already exists: active passport " ++ id
  | invalidArgument "" => "invalid argument"
  | invalidArgument d  => "invalid argument: " ++ d
  | failedPrecondition => "failed precondition"
  | unavailable        => "unavailable"

inductive AgentStatus
  | pending
  | active
  | suspended
  | deregistered
  | unrecognized
  deriving DecidableEq

structure IssueInput where
  agentId             : String
  passportType        : PassportType
  scopes              : List Scope
  ttlSeconds          : Int
  issuedBy            : String
  forceReissue        : Bool := false
  reason              : String
  policyIdAtIssuance  : String := ""
  policyVerAtIssuance : String := ""

inductive EventType
  | passportIssued
  | passportRevoked
  deriving DecidableEq

structure LifecycleEvent where
  eventType  : EventType
  agentId    : String
  passportId : String
  reason     : String
  deriving DecidableEq

-- A result of `Sign`, together with the key and the payload that it is for.
structure SignatureRecord where
  publicKey : String
  payload   : List UInt8
  signature : List UInt8
  deriving DecidableEq

-- The clients of the service are represented by what the service has caused in them: the signatures
-- the credential store has produced and the events that were sent to the outbox and the ledger.
-- Policy bundles and the ledger are optional.
structure Service where
  passports     : HashMap String Passport := ∅
  activeByAgent : HashMap String String := ∅
  policyBundles : Bool
  credentials   : List SignatureRecord := []
  ledger        : Option (List LifecycleEvent)
  outbox        : List LifecycleEvent := []

def Service.new (policyBundles ledger : Bool) : Service where
  policyBundles := policyBundles
  ledger        := if ledger then some [] else none

structure Signed where
  credentialId : String
  publicKey    : String
  signature    : List UInt8

-- What the dependencies, the clock and `uuid.NewString` return during a call of `IssuePassport`.
-- Failing calls of a dependency return `none`.
structure IssueEnv where
  agentStatus        : Option AgentStatus
  supersededTs       : Instant
  passportId         : String
  now                : Instant
  sign               : Option Signed
  activePolicyBundle : Option (String × String)

def provisionalAllowedActionType : List String :=
  ["READ", "NOTIFY", "QUERY"]

namespace IssueInput

variable (input : IssueInput)

def validate : Except ServiceError Unit :=
  if input.agentId = "" ∨ input.issuedBy = "" ∨ input.reason = "" ∨ input.scopes = [] then
    .error <| .invalidArgument ""
  else if input.ttlSeconds < 300 then
    .error <| .invalidArgument "ttl too low"
  else if input.passportType = .provisional ∧ input.ttlSeconds > 86400 then
    .error <| .invalidArgument "ttl too high for provisional"
  else if input.passportType = .standard ∧ input.ttlSeconds > 2592000 then
    .error <| .invalidArgument "ttl too high for standard"
  else
    .ok ()

def checkAgentStatus : Option AgentStatus → Except ServiceError Unit
  | none                                      => .error .unavailable
  | some .deregistered | some .suspended      => .error .failedPrecondition
  | some .unrecognized                        => .error .failedPrecondition
  | some .active | some .pending              => .ok ()

def checkProvisional : Except ServiceError Unit :=
  if input.passportType = .provisional ∧
      ∃ s ∈ input.scopes, s.actionClass ∉ provisionalAllowedActionType then
    .error <| .invalidArgument "action not allowed for provisional"
  else
    .ok ()

-- The checks that precede the lock of the service.
def check (agentStatus : Option AgentStatus) : Except ServiceError Unit := do
  input.validate
  checkAgentStatus agentStatus
  input.checkProvisional

-- `time.Duration` is a signed integer of 64 bits.
def expires (now : Instant) : Instant :=
  now + (input.ttlSeconds * 1000000000).bmod (2 ^ 64)

def payload [Sha256] (now : Instant) : List UInt8 :=
  canonicalPayload input.agentId input.passportType input.scopes now (input.expires now)

def toPassport (env : IssueEnv) (signed : Signed) (policy : String × String) : Passport where
  passportId          := env.passportId
  agentId             := input.agentId
  passportType        := input.passportType
  scopeSet            := input.scopes
  status              := .active
  issuedBy            := input.issuedBy
  credentialId        := signed.credentialId
  publicKeyPem        := signed.publicKey
  signature           := signed.signature
  reason              := input.reason
  issuedTs            := env.now
  expiresTs           := input.expires env.now
  policyIdAtIssuance  := policy.1
  policyVerAtIssuance := policy.2

end IssueInput

namespace Service

variable [Sha256] (s : Service)

def enqueue (event : LifecycleEvent) : Service :=
  { s with outbox := s.outbox ++ [event] }

def writePassportLifecycle (event : LifecycleEvent) : Service :=
  { s with ledger := s.ledger.map (· ++ [event]) }

-- The part of `IssuePassport` that revokes the current passport of the agent.
def supersede (currentId : String) (now : Instant) : Service :=
  let p := (s.passports.lookup currentId).getD .zero |>.revoke "superseded_by_force_reissue" now
  { s with passports := s.passports.insert currentId p }.enqueue
    ⟨.passportRevoked, p.agentId, p.passportId, p.revocationReason⟩

def policyAtIssuance (input : IssueInput) (env : IssueEnv) : Option (String × String) :=
  if input.policyIdAtIssuance = "" ∧ input.policyVerAtIssuance = "" ∧ s.policyBundles then
    env.activePolicyBundle
  else
    some (input.policyIdAtIssuance, input.policyVerAtIssuance)

def recordSignature (record : SignatureRecord) : Service :=
  { s with credentials := s.credentials ++ [record] }

def recordPassport (p : Passport) : Service :=
  let event : LifecycleEvent := ⟨.passportIssued, p.agentId, p.passportId, p.reason⟩
  { s with
    passports     := s.passports.insert p.passportId p
    activeByAgent := s.activeByAgent.insert p.agentId p.passportId }
    |>.enqueue event |>.writePassportLifecycle event

-- The part of `IssuePassport` that follows once there is no active passport in the way.
def issueNew (input : IssueInput) (env : IssueEnv) : Except ServiceError Passport × Service :=
  match env.sign with
  | none => (.error .unavailable, s)
  | some signed =>
    let s := s.recordSignature ⟨signed.publicKey, input.payload env.now, signed.signature⟩
    match s.policyAtIssuance input env with
    | none        => (.error .unavailable, s)
    | some policy =>
      let passport := input.toPassport env signed policy
      (.ok passport, s.recordPassport passport)

def issuePassport (input : IssueInput) (env : IssueEnv) : Except ServiceError Passport × Service :=
  match input.check env.agentStatus with
  | .error err => (.error err, s)
  | .ok _ =>
    match s.activeByAgent.lookup input.agentId with
    | none => s.issueNew input env
    | some currentId =>
      if input.forceReissue then
        (s.supersede currentId env.supersededTs).issueNew input env
      else
        (.error <| .alreadyExists currentId, s)

def getPassport (passportId : String) : Except ServiceError Passport :=
  match s.passports.lookup passportId with
  | none   => .error .notFound
  | some p => .ok p

def getAgentPassport (agentId : String) : Except ServiceError Passport :=
  match s.activeByAgent.lookup agentId with
  | none    => .error .notFound
  | some id => .ok <| (s.passports.lookup id).getD .zero

structure VerifyResult where
  valid  : Bool
  status : PassportStatus
  reason : String
  err    : Option ServiceError
  deriving DecidableEq

-- `verify` is the `Verify` of the credential store, which returns `none` if the call fails.
def verifyPassportBy (verify : String → List UInt8 → List UInt8 → Option Bool) (passportId : String)
    (payload signature : List UInt8) (now : Instant) : VerifyResult :=
  match s.getPassport passportId with
  | .error err => ⟨false, .unset, "", some err⟩
  | .ok p =>
    if p.status = .revoked then
      ⟨false, p.status, "revoked", none⟩
    else if p.status = .expired ∨ p.expiresTs < now then
      ⟨false, .expired, "expired", none⟩
    else match verify p.publicKeyPem payload signature with
      | none       => ⟨false, p.status, "verify_error", some .unavailable⟩
      | some false => ⟨false, p.status, "signature_invalid", none⟩
      | some true  => ⟨true, p.status, "", none⟩

structure VerifyEnv where
  now          : Instant
  verifyFailed : Bool := false

-- A credential store that accepts exactly what it has signed, unless the call fails.
def verify (env : VerifyEnv) (publicKey : String) (payload signature : List UInt8) : Option Bool :=
  if env.verifyFailed then none else some (⟨publicKey, payload, signature⟩ ∈ s.credentials)

def verifyPassport (passportId : String) (payload signature : List UInt8) (env : VerifyEnv) :
    VerifyResult :=
  s.verifyPassportBy (s.verify env) passportId payload signature env.now

def revokePassport (passportId reason revokedBy : String) (now : Instant) :
    Except ServiceError Passport × Service :=
  if passportId = "" ∨ reason = "" ∨ revokedBy = "" then
    (.error <| .invalidArgument "", s)
  else match s.passports.lookup passportId with
    | none   => (.error .notFound, s)
    | some p =>
      if p.status = .revoked then
        (.ok p, s)
      else
        let p := p.revoke reason now
        let event : LifecycleEvent := ⟨.passportRevoked, p.agentId, passportId, reason⟩
        let activeByAgent :=
          if s.activeByAgent.lookup p.agentId = some passportId then
            s.activeByAgent.erase p.agentId
          else
            s.activeByAgent
        (.ok p,
          { s with passports := s.passports.insert passportId p, activeByAgent }
            |>.enqueue event |>.writePassportLifecycle event)

end Service

-- The calls that change the state of the service.
inductive Op
  | issuePassport (input : IssueInput) (env : IssueEnv)
  | revokePassport (passportId reason revokedBy : String) (now : Instant)

-- `uuid.NewString` returns an identifier that is not in use.
def Op.Fresh (s : Service) : Op → Prop
  | issuePassport _ env    => env.passportId ∉ s.passports
  | revokePassport _ _ _ _ => True

instance (s : Service) : (op : Op) → Decidable (op.Fresh s)
  | .issuePassport _ env    => inferInstanceAs <| Decidable (env.passportId ∉ s.passports)
  | .revokePassport _ _ _ _ => .isTrue trivial

def engine [Sha256] : Transition.System Service Op where
  allows := Op.Fresh
  step s
    | .issuePassport input env              => (s.issuePassport input env).2
    | .revokePassport id reason revokedBy t => (s.revokePassport id reason revokedBy t).2

instance [Sha256] (s : Service) (op : Op) : Decidable (engine.allows s op) :=
  inferInstanceAs <| Decidable (op.Fresh s)

end PassportIssuance
