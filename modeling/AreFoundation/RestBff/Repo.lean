import AreFoundation.Library.HashMap
import AreFoundation.Library.Json

namespace RestBff

-- An envelope that is not given is represented by the empty one, as both are treated alike.
structure AgentRec where
  agentType         : String
  ownerId           : String
  metadata          : OrderedMap String Json
  status            : String
  admissionEnvelope : OrderedMap String Json := {}

inductive RepoError
  | agentNotFound
  | storage
  deriving DecidableEq

-- Response bodies are stored as documents. Every operation is atomic.
class Repository (ρ : Type) where
  getRegisterIdem           : ρ → (idemKey : String) → Option Json
  finishRegister            : ρ → (idemKey agentId : String) → (responseBody : Json) → AgentRec →
                                Json × ρ
  getAgent                  : ρ → (agentId : String) → Option AgentRec
  getAdmissionEnvelope      : ρ → (agentId : String) → Option (OrderedMap String Json)
  getPassportIdem           : ρ → (idemKey : String) → Option Json
  finishPassport            : ρ → (idemKey agentId : String) → (responseBody : Json) →
                                Except RepoError Json × ρ
  listPassportBodiesByAgent : ρ → (agentId : String) → List Json
  getPassportBody           : ρ → (passportId : String) → Option Json

-- Empty if the body cannot be decoded.
def passportIdFromBody (body : Json) : String :=
  let passportId := do
    let envelope ← body.asStruct?
    let passport ← (envelope.field "passport").asStruct?
    (passport.field "passport_id").asText?
  passportId.getD ""

structure Memory where
  agents       : HashMap String AgentRec := ∅
  registerIdem : HashMap String Json := ∅
  passportIdem : HashMap String Json := ∅
  passports    : HashMap String Json := ∅
  byAgent      : HashMap String (List String) := ∅

namespace Memory

variable (m : Memory)

def getRegisterIdem (idemKey : String) : Option Json :=
  m.registerIdem.lookup idemKey

def recordRegister (idemKey agentId : String) (responseBody : Json) (record : AgentRec) : Memory :=
  { m with
    agents       := m.agents.insert agentId record
    registerIdem := m.registerIdem.insert idemKey responseBody }

def finishRegister (idemKey agentId : String) (responseBody : Json) (record : AgentRec) :
    Json × Memory :=
  match m.registerIdem.lookup idemKey with
  | some prev => (prev, m)
  | none      => (responseBody, m.recordRegister idemKey agentId responseBody record)

def getAgent (agentId : String) : Option AgentRec :=
  m.agents.lookup agentId

def getAdmissionEnvelope (agentId : String) : Option (OrderedMap String Json) :=
  match m.agents.lookup agentId with
  | none        => none
  | some record => if record.admissionEnvelope.size = 0 then none else some record.admissionEnvelope

def getPassportIdem (idemKey : String) : Option Json :=
  m.passportIdem.lookup idemKey

def passportIdsOf (agentId : String) : List String :=
  (m.byAgent.lookup agentId).getD []

-- The index of passports is not changed for a body without an identifier.
def recordPassport (idemKey agentId : String) (responseBody : Json) : Memory :=
  let m := { m with passportIdem := m.passportIdem.insert idemKey responseBody }
  let passportId := passportIdFromBody responseBody
  if passportId = "" then
    m
  else
    { m with
      passports := m.passports.insert passportId responseBody
      byAgent   := m.byAgent.insert agentId <| m.passportIdsOf agentId ++ [passportId] }

def finishPassport (idemKey agentId : String) (responseBody : Json) :
    Except RepoError Json × Memory :=
  match m.passportIdem.lookup idemKey with
  | some prev => (.ok prev, m)
  | none      =>
    if agentId ∉ m.agents then
      (.error .agentNotFound, m)
    else
      (.ok responseBody, m.recordPassport idemKey agentId responseBody)

def listPassportBodiesByAgent (agentId : String) : List Json :=
  (m.passportIdsOf agentId).filterMap m.passports.lookup

def getPassportBody (passportId : String) : Option Json :=
  m.passports.lookup passportId

instance : Repository Memory where
  getRegisterIdem           := getRegisterIdem
  finishRegister            := finishRegister
  getAgent                  := getAgent
  getAdmissionEnvelope      := getAdmissionEnvelope
  getPassportIdem           := getPassportIdem
  finishPassport            := finishPassport
  listPassportBodiesByAgent := listPassportBodiesByAgent
  getPassportBody           := getPassportBody

variable {m} {idemKey agentId : String} {responseBody : Json} {record : AgentRec}

theorem finishRegister_of_some (h : m.registerIdem.lookup idemKey = some prev) :
    m.finishRegister idemKey agentId responseBody record = (prev, m) := by
  simp [finishRegister, h]

theorem finishRegister_of_none (h : m.registerIdem.lookup idemKey = none) :
    m.finishRegister idemKey agentId responseBody record =
      (responseBody, m.recordRegister idemKey agentId responseBody record) := by
  simp [finishRegister, h]

theorem finishPassport_of_some (h : m.passportIdem.lookup idemKey = some prev) :
    m.finishPassport idemKey agentId responseBody = (.ok prev, m) := by
  simp [finishPassport, h]

theorem finishPassport_of_not_mem (h : m.passportIdem.lookup idemKey = none)
    (ha : agentId ∉ m.agents) :
    m.finishPassport idemKey agentId responseBody = (.error .agentNotFound, m) := by
  simp [finishPassport, h, ha]

theorem finishPassport_of_mem (h : m.passportIdem.lookup idemKey = none) (ha : agentId ∈ m.agents) :
    m.finishPassport idemKey agentId responseBody =
      (.ok responseBody, m.recordPassport idemKey agentId responseBody) := by
  simp [finishPassport, h, ha]

@[simp]
theorem recordPassport_registerIdem :
    (m.recordPassport idemKey agentId responseBody).registerIdem = m.registerIdem := by
  simp only [recordPassport]
  split <;> rfl

@[simp]
theorem recordPassport_agents :
    (m.recordPassport idemKey agentId responseBody).agents = m.agents := by
  simp only [recordPassport]
  split <;> rfl

@[simp]
theorem recordPassport_passportIdem :
    (m.recordPassport idemKey agentId responseBody).passportIdem =
      m.passportIdem.insert idemKey responseBody := by
  simp only [recordPassport]
  split <;> rfl

section Identified

variable {id : String} (hi : passportIdFromBody responseBody = id) (hn : id ≠ "")

include hi hn

theorem passports_recordPassport :
    (m.recordPassport idemKey agentId responseBody).passports =
      m.passports.insert id responseBody := by
  simp only [recordPassport, hi, hn, if_false]

theorem byAgent_recordPassport :
    (m.recordPassport idemKey agentId responseBody).byAgent =
      m.byAgent.insert agentId (m.passportIdsOf agentId ++ [id]) := by
  simp only [recordPassport, hi, hn, if_false]
  rfl

theorem passportIdsOf_recordPassport (a : String) :
    (m.recordPassport idemKey agentId responseBody).passportIdsOf a =
      if a = agentId then m.passportIdsOf agentId ++ [id] else m.passportIdsOf a := by
  rw [passportIdsOf, byAgent_recordPassport hi hn, HashMap.lookup_insert]
  split <;> rfl

end Identified

section Instance

variable (m)

theorem repository_finishRegister :
    Repository.finishRegister m idemKey agentId responseBody record =
      m.finishRegister idemKey agentId responseBody record :=
  rfl

theorem repository_finishPassport :
    Repository.finishPassport m idemKey agentId responseBody =
      m.finishPassport idemKey agentId responseBody :=
  rfl

end Instance

end Memory

end RestBff
