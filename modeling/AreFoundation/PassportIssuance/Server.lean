import Mathlib.Data.List.ReduceOption
import AreFoundation.PassportIssuance.Grpc

-- The calls of the server, whose requests are pointers. So are the messages of a repeated field.
namespace PassportIssuance.Grpc.Server

open Calendar

structure IssuePassportRequest where
  agentId         : String
  passportType    : String
  requestedScopes : List (Option ScopeRequest)
  ttlSeconds      : Int
  issuedBy        : String
  reason          : String
  forceReissue    : Bool := false

-- The request without the scopes that are missing.
def IssuePassportRequest.present (req : IssuePassportRequest) : Grpc.IssuePassportRequest where
  agentId         := req.agentId
  passportType    := req.passportType
  requestedScopes := req.requestedScopes.reduceOption
  ttlSeconds      := req.ttlSeconds
  issuedBy        := req.issuedBy
  reason          := req.reason
  forceReissue    := req.forceReissue

structure VerifyPassportRequest where
  passportId : String
  payload    : List UInt8
  signature  : List UInt8

structure VerifyPassportResponse where
  valid         : Bool
  passportId    : String
  status        : String := ""
  failureReason : String
  expiresTs     : Int := 0
  activeScopes  : List PassportScope := []
  deriving DecidableEq

structure RevokePassportRequest where
  passportId : String
  reason     : String
  revokedBy  : String

structure RevokePassportResponse where
  passportId : String
  status     : String
  revokedTs  : Int
  deriving DecidableEq

section Calls

variable [Sha256] (svc : Service)

-- The scopes are checked for missing ones after the type and the number of scopes.
def issuePassport (req : Option IssuePassportRequest) (env : ServerEnv) :
    Except Status PassportMessage × Service :=
  match req with
  | none     => (.error ⟨.invalidArgument, "nil request"⟩, svc)
  | some req =>
    match parsePassportType req.passportType, req.requestedScopes, req.present.requestedScopes with
    | .ok _, _ :: _, [] => (.error ⟨.invalidArgument, "no valid scopes"⟩, svc)
    | _,     _,      _  => Grpc.issuePassport svc req.present env

def getPassport (passportId : Option String) : Except Status PassportMessage :=
  match passportId with
  | none | some "" => .error ⟨.invalidArgument, "passport_id required"⟩
  | some id        =>
    match svc.getPassport id with
    | .error err => .error <| mapErr err
    | .ok p      => .ok <| passportToProto p

def getAgentPassport (agentId : Option String) : Except Status GetAgentPassportResponse :=
  match agentId with
  | none    => .error ⟨.invalidArgument, "agent_id required"⟩
  | some id => Grpc.getAgentPassport svc id

-- The passport is read a second time for its expiry and its scopes, which no call changes.
def verifyPassport (req : Option VerifyPassportRequest)
    (verify : String → List UInt8 → List UInt8 → Option Bool) (now : Instant) :
    Except Status VerifyPassportResponse :=
  match req with
  | none     => .error ⟨.invalidArgument, "passport_id required"⟩
  | some req =>
    if req.passportId = "" then
      .error ⟨.invalidArgument, "passport_id required"⟩
    else
      let result := svc.verifyPassportBy verify req.passportId req.payload req.signature now
      match result.err with
      | some .notFound =>
        .ok { valid := false, passportId := req.passportId, failureReason := "not_found" }
      | some err => .error <| mapErr err
      | none     =>
        let resp : VerifyPassportResponse :=
          { valid         := result.valid
            passportId    := req.passportId
            status        := result.status.toRaw
            failureReason := result.reason }
        match svc.getPassport req.passportId, result.valid with
        | .ok p, true => .ok { resp with
            expiresTs    := p.expiresTs.unixMilli
            activeScopes := scopesToProto p.scopeSet }
        | _, _        => .ok resp

def revokePassport (req : Option RevokePassportRequest) (now : Instant) :
    Except Status RevokePassportResponse × Service :=
  match req with
  | none     => (.error ⟨.invalidArgument, "passport_id, reason, revoked_by required"⟩, svc)
  | some req =>
    if req.passportId = "" ∨ req.reason = "" ∨ req.revokedBy = "" then
      (.error ⟨.invalidArgument, "passport_id, reason, revoked_by required"⟩, svc)
    else match svc.revokePassport req.passportId req.reason req.revokedBy now with
      | (.error err, svc) => (.error <| mapErr err, svc)
      | (.ok p, svc)      =>
        (.ok ⟨p.passportId, p.status.toRaw, (p.revokedTs.map (·.unixMilli)).getD 0⟩, svc)

end Calls

-- A call with what the clock, the generated identifiers and the dependencies contribute to it.
inductive Call
  | issuePassport (req : Option IssuePassportRequest) (env : ServerEnv)
  | getPassport (passportId : Option String)
  | getAgentPassport (agentId : Option String)
  | verifyPassport (req : Option VerifyPassportRequest)
      (verify : String → List UInt8 → List UInt8 → Option Bool) (now : Instant)
  | revokePassport (req : Option RevokePassportRequest) (now : Instant)

inductive Reply
  | issuePassport (result : Except Status PassportMessage)
  | getPassport (result : Except Status PassportMessage)
  | getAgentPassport (result : Except Status GetAgentPassportResponse)
  | verifyPassport (result : Except Status VerifyPassportResponse)
  | revokePassport (result : Except Status RevokePassportResponse)

def handle [Sha256] (svc : Service) : Call → Reply × Service
  | .issuePassport req env         =>
    (.issuePassport (issuePassport svc req env).1, (issuePassport svc req env).2)
  | .getPassport passportId        => (.getPassport <| getPassport svc passportId, svc)
  | .getAgentPassport agentId      => (.getAgentPassport <| getAgentPassport svc agentId, svc)
  | .verifyPassport req verify now => (.verifyPassport <| verifyPassport svc req verify now, svc)
  | .revokePassport req now        =>
    (.revokePassport (revokePassport svc req now).1, (revokePassport svc req now).2)

def system [Sha256] : Transition.System Service Call where
  allows _ _    := True
  step svc call := (handle svc call).2

end PassportIssuance.Grpc.Server
