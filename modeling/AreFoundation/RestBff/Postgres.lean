import Mathlib.Data.List.Sort
import AreFoundation.Library.Table
import AreFoundation.RestBff.Repo

namespace RestBff

-- Columns return what has been stored in them. An envelope that is not given or empty is stored as
-- `null` or as an empty object, and neither of them is found.
structure AgentRow where
  agentId               : String
  agentType             : String
  ownerId               : String
  metadataJson          : OrderedMap String Json
  status                : String
  admissionEnvelopeJson : Option (OrderedMap String Json)

structure IdemRow where
  idemKey      : String
  responseBody : Json

structure PassportRow where
  passportId   : String
  agentId      : String
  responseBody : Json

def AgentRec.toRow (record : AgentRec) (agentId : String) : AgentRow where
  agentId               := agentId
  agentType             := record.agentType
  ownerId               := record.ownerId
  metadataJson          := record.metadata
  status                := record.status
  admissionEnvelopeJson :=
    if record.admissionEnvelope.size = 0 then none else some record.admissionEnvelope

structure Postgres where
  agents       : Table.Keyed AgentRow.agentId := {}
  registerIdem : Table.Keyed IdemRow.idemKey := {}
  passportIdem : Table.Keyed IdemRow.idemKey := {}
  passports    : Table.Keyed PassportRow.passportId := {}

namespace Postgres

variable (p : Postgres)

def getRegisterIdem (idemKey : String) : Option Json :=
  (p.registerIdem.select idemKey).map (·.responseBody)

-- The transaction runs alone, so that it can insert a key that it has not found. The first iteration
-- of the loop is therefore the last one.
def finishRegister (idemKey agentId : String) (responseBody : Json) (record : AgentRec) :
    Json × Postgres :=
  match h : p.registerIdem.select idemKey with
  | some cached => (cached.responseBody, p)
  | none        =>
    (responseBody,
      { p with
        agents       := p.agents.insertOrIgnore (record.toRow agentId)
        registerIdem := p.registerIdem.insert ⟨idemKey, responseBody⟩ h })

-- The envelope is not selected.
def getAgent (agentId : String) : Option AgentRec :=
  (p.agents.select agentId).map fun row =>
    { agentType := row.agentType
      ownerId   := row.ownerId
      metadata  := row.metadataJson
      status    := row.status }

def getAdmissionEnvelope (agentId : String) : Option (OrderedMap String Json) := do
  let row ← p.agents.select agentId
  let out ← row.admissionEnvelopeJson
  if out.size = 0 then none else some out

def getPassportIdem (idemKey : String) : Option Json :=
  (p.passportIdem.select idemKey).map (·.responseBody)

-- A conflict changes the body of a passport, but not its agent.
def recordPassport (agentId : String) (responseBody : Json) : Table.Keyed PassportRow.passportId :=
  let passportId := passportIdFromBody responseBody
  if passportId = "" then
    p.passports
  else
    p.passports.insertOrUpdate ⟨passportId, agentId, responseBody⟩ ({ · with responseBody })
      fun _ => rfl

def finishPassport (idemKey agentId : String) (responseBody : Json) :
    Except RepoError Json × Postgres :=
  match h : p.passportIdem.select idemKey with
  | some cached => (.ok cached.responseBody, p)
  | none        =>
    match p.agents.select agentId with
    | none   => (.error .agentNotFound, p)
    | some _ =>
      (.ok responseBody,
        { p with
          passportIdem := p.passportIdem.insert ⟨idemKey, responseBody⟩ h
          passports    := p.recordPassport agentId responseBody })

-- `WHERE agent_id = $1 ORDER BY passport_id`
def listPassportBodiesByAgent (agentId : String) : List Json :=
  p.passports.rows.filter (·.agentId = agentId)
    |>.insertionSort (·.passportId ≤ ·.passportId)
    |>.map (·.responseBody)

def getPassportBody (passportId : String) : Option Json :=
  (p.passports.select passportId).map (·.responseBody)

instance : Repository Postgres where
  getRegisterIdem           := getRegisterIdem
  finishRegister            := finishRegister
  getAgent                  := getAgent
  getAdmissionEnvelope      := getAdmissionEnvelope
  getPassportIdem           := getPassportIdem
  finishPassport            := finishPassport
  listPassportBodiesByAgent := listPassportBodiesByAgent
  getPassportBody           := getPassportBody

section Finish

variable {p} {key a : String} {doc : Json} {record : AgentRec}

theorem finishRegister_of_some (h : p.getRegisterIdem key = some prev) :
    p.finishRegister key a doc record = (prev, p) := by
  obtain ⟨row, hr, rfl⟩ := Option.map_eq_some_iff.mp h
  unfold finishRegister
  split
  case h_1 _ hs => rw [hr] at hs; cases hs; rfl
  case h_2 hs   => rw [hr] at hs; cases hs

theorem finishRegister_of_none (h : p.registerIdem.select key = none) :
    p.finishRegister key a doc record =
      (doc,
        { p with
          agents       := p.agents.insertOrIgnore (record.toRow a)
          registerIdem := p.registerIdem.insert ⟨key, doc⟩ h }) := by
  unfold finishRegister
  split
  case h_1 _ hs => rw [h] at hs; cases hs
  case h_2      => rfl

theorem repository_finishRegister (p : Postgres) :
    Repository.finishRegister p key a doc record = p.finishRegister key a doc record :=
  rfl

theorem repository_finishPassport (p : Postgres) :
    Repository.finishPassport p key a doc = p.finishPassport key a doc :=
  rfl

theorem finishPassport_of_some (h : p.getPassportIdem key = some prev) :
    p.finishPassport key a doc = (.ok prev, p) := by
  obtain ⟨row, hr, rfl⟩ := Option.map_eq_some_iff.mp h
  unfold finishPassport
  split
  case h_1 _ hs => rw [hr] at hs; cases hs; rfl
  case h_2 hs   => rw [hr] at hs; cases hs

theorem finishPassport_of_unknown (h : p.passportIdem.select key = none)
    (ha : p.agents.select a = none) : p.finishPassport key a doc = (.error .agentNotFound, p) := by
  unfold finishPassport
  split
  case h_1 _ hs => rw [h] at hs; cases hs
  case h_2      => rw [ha]

theorem finishPassport_of_known (h : p.passportIdem.select key = none)
    (ha : p.agents.select a = some row) :
    p.finishPassport key a doc =
      (.ok doc,
        { p with
          passportIdem := p.passportIdem.insert ⟨key, doc⟩ h
          passports    := p.recordPassport a doc }) := by
  unfold finishPassport
  split
  case h_1 _ hs => rw [h] at hs; cases hs
  case h_2      => rw [ha]

end Finish

end Postgres

end RestBff
