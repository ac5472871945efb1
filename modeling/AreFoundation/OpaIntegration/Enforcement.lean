import AreFoundation.AgentRegistry.Grpc
import AreFoundation.AgentRegistry.Lifecycle
import AreFoundation.OpaIntegration.Admission

open EcmaScript

namespace OpaIntegration

namespace GrpcAdmissionEnvelopeClient

open AgentRegistry.Grpc (AdmissionEnvelopeMessage)

-- The entries of a map are sent in any order. One of the name `__proto__` does not become an entry of
-- the object.
structure Represents (message : AdmissionEnvelopeMessage) (env : AdmissionEnvelope) : Prop where
  envelopeId : env.envelopeId = message.envelopeId
  scopes     : env.admittedScopes = message.admittedScopes
  caps       : ∀ k, k ≠ "__proto__" →
                 env.admittedBehavioralCaps.get? k =
                   (message.admittedBehavioralCaps.get? k).map Number.finite

-- How the promise of `getAdmissionEnvelope` settles once there is a response. An agent without an
-- envelope is no error.
inductive Settles : Except Rpc.Status AdmissionEnvelopeMessage →
    Except String (Option AdmissionEnvelope) → Prop
  | resolved (h : Represents message env) : Settles (.ok message) (.ok <| some env)
  | missing (h : status.code = .notFound) : Settles (.error status) (.ok none)
  | rejected (h : status.code ≠ .notFound) : Settles (.error status) (.error err)

end GrpcAdmissionEnvelopeClient

-- The service while its client is connected to the agent registry.
namespace Enforcement

open GrpcAdmissionEnvelopeClient

-- `replies` are on their way to the calls that have made the requests. `clock` is the time that
-- `Date.now` has returned last.
structure State (ι : Type*) where
  registry : AgentRegistry.Registry
  opa      : Admission.State ι
  replies  : ι → Option (Except String (Option AdmissionEnvelope)) := fun _ => none
  clock    : Int

inductive Event (ι : Type*)
  | registry (tx : AgentRegistry.Tx)
  | reply (i : ι) (result : Except String (Option AdmissionEnvelope))
  | opa (e : Admission.Event ι)

def time? : Admission.Event ι → Option Int
  | .evaluate _ now | .answer _ _ now => some now
  | _                                 => none

-- The registry may fail to read the row, and the call may fail to get through to it.
def Replies (registry : AgentRegistry.Registry) (agentId : String)
    (result : Except String (Option AdmissionEnvelope)) : Prop :=
  (∃ read, Settles (AgentRegistry.Grpc.getAdmissionEnvelope registry agentId read) result) ∨
  (∃ err, result = .error err)

section System

variable [Sha256] [Ed25519] [DecidableEq ι] (requests : ι → EvaluateRequest)
variable (options : OpaIntegrationServiceOptions) (evaluator : Evaluator)

def Allows (s : State ι) : Event ι → Prop
  | .registry _     => True
  | .reply i result =>
    s.opa.admission.promises i = some .pending ∧ s.replies i = none ∧
      Replies s.registry (requests i).agentId result
  | .opa e          =>
    Admission.Allows s.opa e ∧ (∀ i result now, e = .answer i result now → s.replies i = some result) ∧
      ∀ now ∈ time? e, s.clock ≤ now

def system : Transition.System (State ι) (Event ι) where
  allows := Allows requests
  step s
    | .registry tx    => { s with registry := tx.commit s.registry }
    | .reply i result => { s with replies := Function.update s.replies i (some result) }
    | .opa e          =>
      { s with opa   := Admission.step requests options evaluator s.opa e
               clock := (time? e).getD s.clock }

end System

end Enforcement

end OpaIntegration
