import AreFoundation.PassportIssuance.Grpc
import AreFoundation.ScopeEvaluator.Service

-- The passport client of the scope evaluator, connected to the passport engine.
namespace ScopeEvaluator.GrpcPassportClient

open PassportIssuance Grpc

-- The status of the passport is not part of the result.
def passportFromProto (p : PassportMessage) : ScopeEvaluator.Passport where
  passportId   := p.passportId
  passportType := p.passportType
  expiresTs    := p.expiresTs
  scopes       := p.scopeSet.map fun s =>
    { scopeId            := s.scopeId
      actionClass        := s.actionClass
      resourcePattern    := s.resourcePattern
      contextConstraints := s.contextConstraints
      expiresTs          := s.expiresTs
      isEscalation       := s.isEscalation }

-- `connected` is false if the call does not get through to the engine.
def getAgentPassport (engine : Service) (connected : Bool) (agentId : String) :
    Except ScopeError ScopeEvaluator.Passport :=
  if connected then
    match Grpc.getAgentPassport engine agentId with
    | .error status      => .error <| if status.code = .notFound then .notFound else .unavailable
    | .ok ⟨none⟩         => .error .notFound
    | .ok ⟨some message⟩ => .ok <| passportFromProto message
  else
    .error .unavailable

end ScopeEvaluator.GrpcPassportClient
