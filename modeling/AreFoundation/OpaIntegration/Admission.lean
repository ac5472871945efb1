import AreFoundation.Library.SingleFlight
import AreFoundation.OpaIntegration.Service

namespace OpaIntegration

-- Whether there is a client that fetches admission envelopes, and how long they are kept.
structure OpaIntegrationServiceOptions where
  admissionEnvelopeClient          : Bool
  admissionEnvelopeCacheTtlSeconds : Option Int := none

def OpaIntegrationServiceOptions.ttlMs (options : OpaIntegrationServiceOptions) : Int :=
  options.admissionEnvelopeCacheTtlSeconds.getD 30 * 1000

-- A request that passes the checks without an envelope of its own waits for one.
def EvaluateRequest.Awaits (request : EvaluateRequest) (options : OpaIntegrationServiceOptions) : Prop :=
  ¬request.Invalid ∧ request.context.admissionEnvelope = none ∧ options.admissionEnvelopeClient

instance (request : EvaluateRequest) (options : OpaIntegrationServiceOptions) :
    Decidable (request.Awaits options) :=
  inferInstanceAs <| Decidable (_ ∧ _ ∧ _)

-- Calls of `evaluate` that wait for their admission envelopes at the same time.
namespace Admission

-- `admissionCache` and `admissionInflight`, where a promise is known by the call that has made it.
abbrev Envelopes (ι : Type*) := SingleFlight.State String ι (Option AdmissionEnvelope) String

structure State (ι : Type*) where
  service   : OpaIntegrationService
  admission : Envelopes ι := {}
  returned  : ι → Option (Except String EvaluateResponse) := fun _ => none

-- Nothing else happens between the points at which a call waits.
inductive Event (ι : Type*)
  | evaluate (i : ι) (now : Int)
  | answer (i : ι) (result : Except String (Option AdmissionEnvelope)) (now : Int)
  | resume (i : ι)
  | other (op : Op)

def IsEvaluate : Op → Prop
  | .evaluate .. => True
  | _            => False

section Step

variable [Sha256] [Ed25519] [DecidableEq ι] (requests : ι → EvaluateRequest)
variable (options : OpaIntegrationServiceOptions) (evaluator : Evaluator)

def resolveAdmissionEnvelope (admission : Envelopes ι) (agentId : String) (i : ι) (nowMs : Int) :
    Envelopes ι :=
  admission.ask options.ttlMs agentId i nowMs

-- The rest of a call, from the checks on if it does not wait.
def finish (s : State ι) (i : ι) (now : Int) (fetched : Except String (Option AdmissionEnvelope)) :
    State ι :=
  let (result, service) := s.service.evaluate (requests i) now fetched evaluator
  { s with service, returned := Function.update s.returned i (some result) }

def step (s : State ι) : Event ι → State ι
  | .evaluate i now =>
    if (requests i).Awaits options then
      { s with
        admission := resolveAdmissionEnvelope options s.admission (requests i).agentId i now }
    else
      finish requests evaluator s i now (.ok none)
  | .answer i result now =>
    { s with admission := s.admission.settle (requests i).agentId i result now }
  | .resume i =>
    match s.admission.waiting i, s.admission.result? i with
    | some w, some fetched =>
      finish requests evaluator { s with admission := s.admission.resume i } i w.since fetched
    | _, _ => s
  | .other op => { s with service := s.service.step op }

def Allows (s : State ι) : Event ι → Prop
  | .evaluate i _ => s.returned i = none ∧ s.admission.waiting i = none
  | .answer i _ _ => s.admission.promises i = some .pending
  | .resume i     => (s.admission.result? i).isSome
  | .other op     => ¬IsEvaluate op

def system : Transition.System (State ι) (Event ι) where
  allows := Allows
  step   := step requests options evaluator

end Step

end Admission

end OpaIntegration
