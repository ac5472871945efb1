import AreFoundation.AgentRegistry.Theorems.Envelopes
import AreFoundation.OpaIntegration.Enforcement
import AreFoundation.OpaIntegration.Theorems.Admission
import AreFoundation.OpaIntegration.Theorems.Provenance

open EcmaScript SingleFlight

namespace OpaIntegration

namespace Admission

variable {s : State ι} {e : Event ι} {i j : ι}

variable [Sha256] [Ed25519] [DecidableEq ι] {requests : ι → EvaluateRequest}
variable {options : OpaIntegrationServiceOptions} {evaluator : Evaluator}

theorem pending_of_step
    (h : (step requests options evaluator s e).admission.promises j = some .pending) :
    s.admission.promises j = some .pending ∨ ∃ now, e = .evaluate j now := by
  cases e
  case evaluate i now =>
    by_cases hj : j = i
    case pos => exact .inr ⟨now, hj ▸ rfl⟩
    case neg =>
      refine .inl ?_
      simp only [step] at h
      split at h
      case isTrue  => rwa [resolveAdmissionEnvelope, SingleFlight.State.ask_promises_of_ne hj] at h
      case isFalse => exact h
  case answer i result now =>
    refine .inl ?_
    by_cases hj : j = i
    case pos =>
      subst hj
      cases (Function.update_self ..).symm.trans h
    case neg => exact (SingleFlight.State.settle_promises_of_ne hj).symm.trans h
  case resume i =>
    simp only [step] at h
    split at h <;> exact .inl h
  case other => exact .inl h

theorem promises_ne_none_of_step (h : Begun s) (ha : Allows s e)
    (hp : s.admission.promises j ≠ none) :
    (step requests options evaluator s e).admission.promises j ≠ none := by
  cases e
  case evaluate i now =>
    have hj : j ≠ i := by
      rintro rfl
      exact hp (h.promises_eq_none ha.left ha.right)
    simp only [step]
    split
    case isTrue  => rwa [resolveAdmissionEnvelope, SingleFlight.State.ask_promises_of_ne hj]
    case isFalse => exact hp
  case answer i result now =>
    by_cases hj : j = i
    case pos =>
      subst hj
      simp [step, SingleFlight.State.settle]
    case neg => rwa [step, SingleFlight.State.settle_promises_of_ne hj]
  case resume i =>
    simp only [step]
    split <;> exact hp
  case other => exact hp

theorem waiting_of_step
    (h : (step requests options evaluator s e).admission.waiting i = some w) :
    s.admission.waiting i = some w ∨ ∃ now, e = .evaluate i now ∧ w.since = now := by
  cases e
  case evaluate j now =>
    simp only [step] at h
    split at h
    case isFalse => exact .inl h
    case isTrue  =>
      by_cases hj : i = j
      case pos => subst hj; exact .inr ⟨now, rfl, SingleFlight.State.ask_since h⟩
      case neg =>
        rw [resolveAdmissionEnvelope, SingleFlight.State.ask_waiting_of_ne hj] at h
        exact .inl h
  case resume j =>
    simp only [step] at h
    split at h
    case h_2 => exact .inl h
    case h_1 =>
      by_cases hj : i = j
      case pos => subst hj; cases (Function.update_self ..).symm.trans h
      case neg => exact .inl <| (SingleFlight.State.resume_waiting_of_ne hj).symm.trans h
  all_goals exact .inl h

theorem returned_of_step (ha : (requests i).Awaits options)
    (h : (step requests options evaluator s e).returned i = some result) :
    s.returned i = some result ∨
    ∃ w fetched, s.admission.waiting i = some w ∧ s.admission.result? i = some fetched ∧
      result = (s.service.evaluate (requests i) w.since fetched evaluator).1 := by
  cases e
  case evaluate j now =>
    simp only [step] at h
    split at h
    case isTrue     => exact .inl h
    case isFalse hn =>
      have hj : i ≠ j := fun hj => hn (hj ▸ ha)
      exact .inl <| (finish_returned_of_ne hj).symm.trans h
  case resume j =>
    simp only [step] at h
    split at h
    case h_2               => exact .inl h
    case h_1 w fetched hw hf =>
      by_cases hj : i = j
      case neg => exact .inl <| (finish_returned_of_ne hj).symm.trans h
      case pos =>
        subst hj
        cases finish_returned_self.symm.trans h
        exact .inr ⟨w, fetched, hw, hf, rfl⟩
  all_goals exact .inl h

end Admission

namespace Enforcement

open AgentRegistry (Registry)
open GrpcAdmissionEnvelopeClient

section Faithful

variable {e : AgentRegistry.AdmissionEnvelope} {a : String}

-- The call fails, or the envelope is the registered one.
def Faithful (e : AgentRegistry.AdmissionEnvelope) (result : Except String (Option AdmissionEnvelope)) :
    Prop :=
  (∃ err, result = .error err) ∨
  (∃ env, result = .ok (some env) ∧ Represents (AgentRegistry.Grpc.toProtoAdmissionEnvelope e) env)

theorem getAdmissionEnvelope_cases {registry : Registry} (h : registry.Admitted a e) (read : Bool) :
    AgentRegistry.Grpc.getAdmissionEnvelope registry a read =
      .ok (AgentRegistry.Grpc.toProtoAdmissionEnvelope e) ∨
    ∃ status, AgentRegistry.Grpc.getAdmissionEnvelope registry a read = .error status ∧
      status.code ≠ .notFound := by
  simp only [AgentRegistry.Grpc.getAdmissionEnvelope, Registry.getAdmissionEnvelope, h.right]
  by_cases ha : a = ""
  case pos => exact .inr ⟨_, by rw [if_pos ha], by rintro ⟨⟩⟩
  case neg =>
    rw [if_neg ha]
    cases read
    case false => exact .inr ⟨_, rfl, by rintro ⟨⟩⟩
    case true  => exact .inl rfl

theorem faithful_of_replies {registry : Registry} (h : registry.Admitted a e)
    (hr : Replies registry a result) : Faithful e result := by
  rcases hr with ⟨read, hr⟩ | he
  case inr => exact .inl he
  case inl =>
    rcases getAdmissionEnvelope_cases h read with hm | ⟨status, hm, hc⟩ <;> rw [hm] at hr
    case inl => cases hr; next hr => exact .inr ⟨_, rfl, hr⟩
    case inr =>
      cases hr
      case missing h => exact absurd h hc
      case rejected  => exact .inl ⟨_, rfl⟩

end Faithful

section Run

variable {requests : ι → EvaluateRequest} {options : OpaIntegrationServiceOptions}
variable {evaluator : Evaluator} {svc : OpaIntegrationService} {A : Admission.Answers}
variable {s s₁ s₂ s₃ : State ι} {a : String} {i : ι} {t : Int}
variable {env : AgentRegistry.AdmissionEnvelope}

theorem clock_le_getD {e : Admission.Event ι} (ht : ∀ now ∈ time? e, s.clock ≤ now) :
    s.clock ≤ (time? e).getD s.clock := by
  cases h : time? e
  case none     => exact le_rfl
  case some now => exact ht now h

-- What the client has answered in a step.
def answers (requests : ι → EvaluateRequest) (s : State ι) : Event ι → Admission.Answers
  | .opa e => Admission.answers requests s.opa e
  | _      => ∅

-- The envelope is registered. Replies that are under way for the agent are made of it, and so are all
-- answers later than `t`.
structure Informed (requests : ι → EvaluateRequest) (a : String) (env : AgentRegistry.AdmissionEnvelope)
    (t : Int) (A : Admission.Answers) (s : State ι) : Prop where
  admitted : s.registry.Admitted a env
  replies  : ∀ {j result}, (requests j).agentId = a → s.opa.admission.promises j = some .pending →
               s.replies j = some result → Faithful env result
  answered : ∀ {x}, x ∈ A → x.key = a → x.ts ≤ t ∨ Faithful env x.result

-- A call that comes later, by more than the time to live, is given the envelope.
theorem Informed.faithful (h : Informed requests a env t A s)
    (hj : SingleFlight.Justified ttl A a since result) (ht : t < since) (hl : t + ttl ≤ since) :
    Faithful env result := by
  obtain ⟨x, hx, hk, hj⟩ := hj
  have hx := h.answered hx hk
  cases hj
  case cached v hr hc => exact hr ▸ hx.resolve_left (by omega)
  case shared _ hs    => exact hx.resolve_left (by omega)

-- What is known of the service alone, and of the times.
structure Timed (requests : ι → EvaluateRequest) (options : OpaIntegrationServiceOptions)
    (A : Admission.Answers) (s : State ι) : Prop where
  invariant : Admission.Invariant requests options A s.opa
  replied   : ∀ {j}, s.replies j ≠ none → s.opa.admission.promises j ≠ none
  past      : ∀ {x}, x ∈ A → x.ts ≤ s.clock
  since     : ∀ {j w}, s.opa.admission.waiting j = some w → w.since ≤ s.clock

theorem Timed.clock (h : Timed requests options A s) {e : Admission.Event ι}
    (ht : ∀ now ∈ time? e, s.clock ≤ now) : Admission.Clock s.opa e := by
  cases e
  case evaluate => exact fun j w hw => (h.since hw).trans (ht _ rfl)
  case answer   => exact fun j w hw => (h.since hw).trans (ht _ rfl)
  all_goals trivial

variable [Sha256] [Ed25519] [DecidableEq ι]

theorem clock_le_step {e : Event ι} (ha : Allows requests s e) :
    s.clock ≤ ((system requests options evaluator).step s e).clock := by
  cases e
  case opa => exact clock_le_getD ha.right.right
  all_goals exact le_rfl

theorem Timed.step {e : Event ι} (h : Timed requests options A s)
    (ha : Allows requests s e) :
    Timed requests options (A ∪ answers requests s e)
      ((system requests options evaluator).step s e) := by
  cases e
  case registry tx => exact (Set.union_empty A).symm ▸ ⟨h.invariant, h.replied, h.past, h.since⟩
  case reply j result =>
    refine (Set.union_empty A).symm ▸ ⟨h.invariant, fun {k} hk => ?_, h.past, h.since⟩
    by_cases hj : k = j
    case pos => subst hj; exact fun hn => by cases ha.left.symm.trans hn
    case neg => exact h.replied ((Function.update_of_ne hj ..).symm.trans_ne hk)
  case opa e =>
    obtain ⟨ha, _, ht⟩ := ha
    refine ⟨h.invariant.step ha (h.clock ht), fun hr => ?_, fun hx => ?_, fun hw => ?_⟩
    case refine_1 => exact Admission.promises_ne_none_of_step h.invariant.begun ha (h.replied hr)
    case refine_2 =>
      rcases hx with hx | hx
      case inl => exact (h.past hx).trans (clock_le_getD ht)
      case inr =>
        cases e
        case answer => exact hx.right.right.left.le
        all_goals cases hx
    case refine_3 =>
      rcases Admission.waiting_of_step hw with hw | ⟨now, rfl, hn⟩
      case inl => exact (h.since hw).trans (clock_le_getD ht)
      case inr => exact hn.le

theorem Informed.step {e : Event ι} (h : Informed requests a env t A s)
    (hs : Timed requests options A s) (ha : Allows requests s e) :
    Informed requests a env t (A ∪ answers requests s e)
      ((system requests options evaluator).step s e) := by
  cases e
  case registry tx =>
    exact (Set.union_empty A).symm ▸ ⟨h.admitted.commit tx, h.replies, h.answered⟩
  case reply j result =>
    refine (Set.union_empty A).symm ▸ ⟨h.admitted, fun {k _} hk hp hr => ?_, h.answered⟩
    by_cases hj : k = j
    case pos =>
      subst hj
      cases (Function.update_self ..).symm.trans hr
      exact faithful_of_replies h.admitted (hk ▸ ha.right.right)
    case neg => exact h.replies hk hp ((Function.update_of_ne hj ..).symm.trans hr)
  case opa e =>
    obtain ⟨ha, hr, _⟩ := ha
    refine ⟨h.admitted, fun {j _} hk hp hrep => ?_, fun hx hk => ?_⟩
    case refine_1 =>
      rcases Admission.pending_of_step hp with hp | ⟨now, rfl⟩
      case inl => exact h.replies hk hp hrep
      case inr =>
        -- There is no reply before the request.
        have hn := hs.invariant.begun.promises_eq_none ha.left ha.right
        exact absurd hn (hs.replied (hrep ▸ Option.some_ne_none _))
    case refine_2 =>
      rcases hx with hx | hx
      case inl => exact h.answered hx hk
      case inr =>
        cases e
        case answer j result now =>
          obtain ⟨hxk, hxr, _, _⟩ := hx
          exact .inr <| hxr ▸ h.replies (hxk.symm.trans hk) ha (hr _ _ _ rfl)
        all_goals cases hx

-- The answers are those of the run so far.
def Known (requests : ι → EvaluateRequest) (options : OpaIntegrationServiceOptions) (a : String)
    (env : AgentRegistry.AdmissionEnvelope) (t : Int) (s : State ι) : Prop :=
  ∃ A, Timed requests options A s ∧ Informed requests a env t A s

theorem Known.step {e : Event ι} (h : Known requests options a env t s)
    (ha : Allows requests s e) :
    Known requests options a env t ((system requests options evaluator).step s e) :=
  have ⟨_, hs, hi⟩ := h
  ⟨_, hs.step ha, hi.step hs ha⟩

-- How a call is decided that comes after `t'`.
structure Decided (requests : ι → EvaluateRequest) (evaluator : Evaluator)
    (env : AgentRegistry.AdmissionEnvelope) (t' : Int) (i : ι) (s : State ι) : Prop where
  since    : ∀ {w}, s.opa.admission.waiting i = some w → t' ≤ w.since
  returned : ∀ {result}, s.opa.returned i = some result → ∃ svc now fetched, Faithful env fetched ∧
               result = (OpaIntegrationService.evaluate svc (requests i) now fetched evaluator).1

theorem Decided.step {e : Event ι} (h : Decided requests evaluator env t' i s)
    (hk : Known requests options (requests i).agentId env t s)
    (ha : Allows requests s e) (hw : (requests i).Awaits options) (ht : t < t')
    (hl : t + options.ttlMs ≤ t') (hc : t' ≤ s.clock) :
    Decided requests evaluator env t' i ((system requests options evaluator).step s e) := by
  obtain ⟨A, hs, hi⟩ := hk
  cases e
  case registry => exact ⟨h.since, h.returned⟩
  case reply    => exact ⟨h.since, h.returned⟩
  case opa e    =>
    refine ⟨fun hw => ?_, fun hr => ?_⟩
    case refine_1 =>
      rcases Admission.waiting_of_step hw with hw | ⟨now, rfl, hn⟩
      case inl => exact h.since hw
      case inr => exact hn ▸ hc.trans (ha.right.right now rfl)
    case refine_2 =>
      rcases Admission.returned_of_step hw hr with hr | ⟨w, fetched, hw, hf, hr⟩
      case inl => exact h.returned hr
      case inr =>
        obtain ⟨_, hw', hj⟩ := hs.invariant.sound.result_justified hf
        cases hw.symm.trans hw'
        have hsince := h.since hw
        exact ⟨_, _, fetched, hi.faithful hj (by omega) (by omega), hr⟩

-- Nothing has been asked yet.
def initial (registry : Registry) (svc : OpaIntegrationService) (clock : Int) : State ι where
  registry := registry
  opa      := { service := svc }
  clock    := clock

end Run

namespace Sample

open OpaIntegration.Sample Transition
open scoped Sha256.Standard

def snapshot : AgentRegistry.AdmissionSnapshot where
  constraints      := {}
  policyId         := "policy-1"
  policyVer        := ""
  scopePatterns    := ["READ"]
  behavioralCaps   := ⟨[("rate", 4)], by decide⟩
  envelopeId       := ""
  issuingAuthority := ""
  signature        := []

def registration : AgentRegistry.RegisterEnv :=
  ⟨0, "agent-1", "env-1", true⟩

abbrev registered : AgentRegistry.AdmissionEnvelope :=
  registration.envelope snapshot

-- The second call is refused. It is there for the clock.
def requests : Bool → EvaluateRequest
  | false =>
    { request "a|b" "c" with context := ⟨"c", ⟨[("rate", "2")], by decide⟩, none⟩ }
  | true  => request "" "c"

abbrev client : OpaIntegrationServiceOptions :=
  { admissionEnvelopeClient := true }

def fetched : AdmissionEnvelope where
  envelopeId             := "env-1"
  admittedScopes         := ["READ"]
  admittedBehavioralCaps := ⟨[("rate", .finite 4)], by decide⟩

abbrev deployed : System (State Bool) (Event Bool) :=
  system requests client defaultEvaluator

def registering : List (Event Bool) :=
  [.registry <| .register "system" "owner-1" "" {} (some snapshot) registration]

def waiting : List (Event Bool) :=
  [.opa <| .evaluate true 30000]

abbrev start : State Bool :=
  initial {} started 0

abbrev afterRegistering : State Bool := exec deployed start registering

theorem admitted : afterRegistering.registry.Admitted "agent-1" registered :=
  ⟨by decide +kernel, rfl⟩

end Sample

end Enforcement

end OpaIntegration
