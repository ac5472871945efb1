import Mathlib.Data.Fintype.EquivFin
import AreFoundation.ScopeEvaluator.Theorems.CircuitBreaker

open Interleaving

namespace ScopeEvaluator

-- A call that has been let through to the client and has not been told of a failure.
inductive Pc.Awaiting : Pc → Prop
  | clientCall    : Awaiting .clientCall
  | circuitUpdate : Awaiting <| .circuitUpdate (.ok p)

theorem CircuitBreaker.after_isOpen {circuit : CircuitBreaker} {threshold : UInt32} {pc : Pc}
    (ho : circuit.isOpen) (hn : ¬pc.Awaiting) : (circuit.after threshold pc).isOpen := by
  unfold after
  split
  case _ => exact absurd .circuitUpdate hn
  case _ => simp [fail, ho]
  case _ => exact ho

-- The points of a call that ends with a passport.
inductive Pc.Served : Pc → Prop
  | start         : Served .start
  | cacheGet      : Served .cacheGet
  | circuitCheck  : Served .circuitCheck
  | clientCall    : Served .clientCall
  | circuitUpdate : Served <| .circuitUpdate (.ok p)
  | cacheInsert   : Served <| .cacheInsert p
  | returned      : Served <| .returned (.ok result)

-- The number of steps that a call takes at most until it returns.
def Pc.rank : Pc → Nat
  | .start           => 6
  | .cacheGet        => 5
  | .circuitCheck    => 4
  | .clientCall      => 3
  | .circuitUpdate _ => 2
  | .cacheInsert _   => 1
  | .returned _      => 0
  | .invalidated _   => 0

theorem Pc.Served.returned_of_rank {pc : Pc} (h : pc.Served) (hr : pc.rank = 0) :
    ∃ p, pc = .returned (.ok p) := by
  cases h
  case returned => exact ⟨_, rfl⟩
  all_goals simp [Pc.rank] at hr

-- The client has a passport for every agent it knows and does not find the others.
def ClientAnswers (known : String → Prop) (agentId : String) : Except ScopeError Passport → Prop
  | .ok _      => True
  | .error err => err = .notFound ∧ ¬known agentId

instance {known : String → Prop} [DecidablePred known] (answer : Except ScopeError Passport) :
    Decidable (ClientAnswers known agentId answer) :=
  match answer with
  | .ok _      => .isTrue trivial
  | .error err => inferInstanceAs <| Decidable (err = .notFound ∧ ¬known agentId)

theorem ClientAnswers.ok {known : String → Prop} (h : ClientAnswers known agentId answer)
    (hk : known agentId) : ∃ p, answer = .ok p := by
  cases answer
  case ok p    => exact ⟨p, rfl⟩
  case error e => exact absurd hk h.right

namespace ScopeEvaluatorService

section Step

variable {svc : ScopeEvaluatorService} {call : Call} {env : Env} {pc : Pc}

theorem awaiting_of_step (h : (svc.step call env pc).2.Awaiting) :
    pc.Awaiting ∨ svc.circuit.isOpen = false := by
  generalize hn : (svc.step call env pc).2 = pc' at h
  cases h
  case clientCall    => exact .inr <| closed_of_step hn
  case circuitUpdate =>
    cases pc <;> simp only [step] at hn <;> (repeat' split at hn) <;> simp_all
    exact .inl .clientCall

theorem evaluateScope_of_error {request : EvaluateScopeRequest} {clock : Clock}
    {fetched : Except ScopeError Passport} (hc : request.Complete)
    (h : (svc.getOrFetchPassport request.agentId clock.monotonic fetched).1 = .error err) :
    (svc.evaluateScope request clock fetched).1 = .error err := by
  generalize hf : svc.getOrFetchPassport request.agentId clock.monotonic fetched = f at h
  cases f
  cases h
  simp only [evaluateScope, if_neg hc.not_invalid, hf]

theorem step_rank : (svc.step call env pc).2.rank ≤ pc.rank - 1 := by
  cases pc
  case circuitUpdate answer => cases answer <;> simp [step, Pc.rank]
  case start                => cases call <;> simp only [step] <;> (try split) <;> simp [Pc.rank]
  all_goals simp only [step]; (try split) <;> simp [Pc.rank]

-- A failure does not open the circuit.
def Tolerated (svc : ScopeEvaluatorService) : Pc → Prop
  | .circuitUpdate (.error _) => svc.circuit.consecutiveFailures + 1 < svc.threshold
  | _                         => True

instance : Decidable (svc.Tolerated pc) :=
  match pc with
  | .circuitUpdate (.error _) =>
    inferInstanceAs <| Decidable (svc.circuit.consecutiveFailures + 1 < svc.threshold)
  | .circuitUpdate (.ok _) | .start | .cacheGet | .circuitCheck | .clientCall | .cacheInsert _
  | .returned _ | .invalidated _ => .isTrue trivial

theorem step_closed (ho : svc.circuit.isOpen = false) (ht : svc.Tolerated pc) :
    (svc.step call env pc).1.circuit.isOpen = false := by
  rw [step_circuit]
  unfold CircuitBreaker.after
  split
  case _ => rfl
  case _ =>
    have ht : svc.circuit.consecutiveFailures + 1 < svc.threshold := ht
    simpa [CircuitBreaker.fail, ho] using ht
  case _ => exact ho

theorem step_served {request : EvaluateScopeRequest} (h : pc.Served)
    (hv : request.Complete) (ho : svc.circuit.isOpen = false)
    (ha : pc = .clientCall → ∃ p, env.answer = .ok p) :
    (svc.step (.evaluateScope request) env pc).2.Served := by
  cases h
  case start =>
    simp only [step, if_neg hv.not_invalid]
    exact .cacheGet
  case cacheGet =>
    simp only [step]
    split
    case _ => exact .returned
    case _ => exact .circuitCheck
  case circuitCheck =>
    simp only [step, ho]
    exact .clientCall
  case clientCall =>
    obtain ⟨p, hp⟩ := ha rfl
    simp only [step, hp]
    exact .circuitUpdate
  case circuitUpdate => exact .cacheInsert
  case cacheInsert   => exact .returned
  case returned      => exact .returned

end Step

section Run

variable [DecidableEq ι] {calls : ι → Call} {s s₁ s₂ : State ι ScopeEvaluatorService Pc}
variable {g : Guard ι ScopeEvaluatorService Pc Env} {threshold : UInt32}

section Recovery

variable {svc : ScopeEvaluatorService} {request : EvaluateScopeRequest} {clock : Clock} {i : ι}

-- From now on the client answers every call with a passport.
def answersOk : Guard ι ScopeEvaluatorService Pc Env :=
  fun s e => s.locals e.1 = .clientCall → ∃ p, e.2.answer = .ok p

-- Requests are evaluated for all agents whose passports are not cached.
def Serves (svc : ScopeEvaluatorService) : Prop :=
  ∀ (request : EvaluateScopeRequest) (clock : Clock) (passport : Passport), request.Complete →
    request.agentId ∉ svc.cache.entries →
    ∃ resp, (svc.evaluateScope request clock (.ok passport)).1 = .ok resp

theorem getOrFetchPassport_of_not_cached (now : Int) (passport : Passport)
    (hn : agentId ∉ svc.cache.entries) :
    (svc.getOrFetchPassport agentId now (.ok passport)).1 =
      if svc.circuit.isOpen then .error .unavailable else .ok (passport, false) := by
  simp only [getOrFetchPassport, PassportCache.get, Finmap.lookup_eq_none.mpr hn]
  split <;> rfl

theorem evaluateScope_of_open (ho : svc.circuit.isOpen) (hc : request.Complete)
    (hn : request.agentId ∉ svc.cache.entries) :
    (svc.evaluateScope request clock (.ok passport)).1 = .error .unavailable := by
  have hf := getOrFetchPassport_of_not_cached clock.monotonic passport hn
  rw [if_pos ho] at hf
  exact evaluateScope_of_error hc hf

theorem serves_iff : svc.Serves ↔ svc.circuit.isOpen = false := by
  constructor
  case mp =>
    intro h
    by_contra ho
    -- There are more agents than the cache can hold.
    obtain ⟨a, ha⟩ := Infinite.exists_notMem_finset (insert "" svc.cache.entries.keys)
    rw [Finset.mem_insert, not_or, Finmap.mem_keys] at ha
    have hc : ({ sampleRequest with agentId := a } : EvaluateScopeRequest).Complete :=
      ⟨by simp [sampleRequest], ha.left, by simp [sampleRequest], by simp [sampleRequest]⟩
    obtain ⟨resp, hr⟩ := h _ ⟨0, 0⟩ (samplePassport "p-1") hc ha.right
    rw [evaluateScope_of_open (by simpa using ho) hc ha.right] at hr
    cases hr
  case mpr =>
    intro ho request clock passport hc hn
    have hf := getOrFetchPassport_of_not_cached clock.monotonic passport hn
    rw [if_neg (by simp [ho])] at hf
    obtain ⟨resp, hr, -⟩ := evaluateScope_decides hc hf
    exact ⟨resp, hr⟩

def Recovers (calls : ι → Call) (s : State ι ScopeEvaluatorService Pc) : Prop :=
  ∃ s', Nonempty (Run (concurrent calls) answersOk s s') ∧ s'.shared.Serves

-- Nothing is left that could close the circuit.
def Stuck (s : State ι ScopeEvaluatorService Pc) : Prop :=
  s.shared.circuit.isOpen ∧ ∀ i, ¬(s.locals i).Awaiting

theorem Stuck.next {e : ι × Env} (h : Stuck s) : Stuck (s.next (concurrent calls) e.1 e.2) := by
  obtain ⟨ho, hn⟩ := h
  have own : ¬((s.shared.step (calls e.1) e.2 (s.locals e.1)).2).Awaiting := by
    intro ha
    cases awaiting_of_step ha
    case inl ha => exact hn e.1 ha
    case inr hc => simp [hc] at ho
  refine ⟨?circuit, State.forall_next_locals (P := fun _ pc => ¬Pc.Awaiting pc) own fun i _ => hn i⟩
  rw [State.next_shared, concurrent, step_circuit]
  exact CircuitBreaker.after_isOpen ho (hn e.1)

theorem Stuck.run (h : Stuck s₁) (r : Run (concurrent calls) g s₁ s₂) : Stuck s₂ :=
  r.invariant (P := Stuck) (fun h _ _ => h.next) h

theorem Stuck.not_recovers (h : Stuck s) : ¬Recovers calls s := by
  intro ⟨s', ⟨r⟩, hs⟩
  have ho := (h.run r).left
  simp [serves_iff.mp hs] at ho

theorem Recovers.of_next {env : Env} (h : Recovers calls (s.next (concurrent calls) i env))
    (ha : answersOk s (i, env)) : Recovers calls s := by
  obtain ⟨s', ⟨r⟩, hs⟩ := h
  exact ⟨s', ⟨.step (i, env) trivial ha r⟩, hs⟩

-- A call that is answered with a passport closes the circuit.
theorem recovers_of_awaiting (h : (s.locals i).Awaiting) : Recovers calls s := by
  let env : Env := ⟨0, .ok <| samplePassport "p-1"⟩
  have ha (s : State ι ScopeEvaluatorService Pc) : answersOk s (i, env) := fun _ => ⟨_, rfl⟩
  have updates {s : State ι ScopeEvaluatorService Pc} {p : Passport}
      (h : s.locals i = .circuitUpdate (.ok p)) : Recovers calls s := by
    refine Recovers.of_next ⟨_, ⟨.refl⟩, ?_⟩ (ha s)
    simp [serves_iff, concurrent, h, step]
  generalize hl : s.locals i = pc at h
  cases h
  case circuitUpdate => exact updates hl
  case clientCall    =>
    refine Recovers.of_next (updates (p := samplePassport "p-1") ?_) (ha s)
    simp [concurrent, hl, step, env]

theorem recovers_iff (s : State ι ScopeEvaluatorService Pc) :
    Recovers calls s ↔ s.shared.circuit.isOpen = false ∨ ∃ i, (s.locals i).Awaiting := by
  constructor
  case mp =>
    intro h
    by_contra hn
    rw [not_or, not_exists] at hn
    exact Stuck.not_recovers ⟨by simpa using hn.left, hn.right⟩ h
  case mpr =>
    rintro (hc | ⟨i, ha⟩)
    case inl => exact ⟨s, ⟨.refl⟩, serves_iff.mpr hc⟩
    case inr => exact recovers_of_awaiting ha

-- Once a failure has opened the circuit, no answer of the client is ever asked for again.
theorem open_circuit_never_recovers :
    ∃ s, Nonempty (Run (concurrent sampleCaller) .any ((new 500 60 1).idle Nat) s) ∧
      ¬Recovers sampleCaller s ∧
      ∀ s' request clock passport, Nonempty (Run (concurrent sampleCaller) answersOk s s') →
        request.Complete → request.agentId ∉ s'.shared.cache.entries →
        (s'.shared.evaluateScope request clock (.ok passport)).1 = .error .unavailable := by
  have start : Reaches sampleCaller ((new 500 60 1).idle Nat) ((new 500 60 1).idle Nat) 0 :=
    ⟨.refl, rfl⟩
  obtain ⟨r, _⟩ := start.letThrough (i := 0) rfl rfl sampleRequest_complete rfl rfl
    |>.fail (i := 0) (by simp)
  refine ⟨_, ⟨r⟩, ?_⟩
  generalize hs : State.mk .. = s
  have stuck : Stuck s := by
    subst hs
    refine ⟨by decide, fun i ha => ?_⟩
    by_cases hi : i = 0
    case pos => subst hi; simp at ha; cases ha
    case neg => simp [hi, idle] at ha; cases ha
  refine ⟨stuck.not_recovers, ?_⟩
  intro s' request clock passport continued hc hn
  obtain ⟨r⟩ := continued
  exact evaluateScope_of_open (stuck.run r).left hc hn

end Recovery

section KnownAgents

variable {known : String → Prop} {request : EvaluateScopeRequest} {i : ι}

-- The client is never unavailable.
def answersKnown (known : String → Prop) (calls : ι → Call) :
    Guard ι ScopeEvaluatorService Pc Env :=
  fun s e => s.locals e.1 = .clientCall → ClientAnswers known (calls e.1).agentId e.2.answer

-- No failure is the one that opens the circuit.
def tolerated : Guard ι ScopeEvaluatorService Pc Env :=
  fun s e => Tolerated s.shared (s.locals e.1)

instance [DecidablePred known] (s : State ι ScopeEvaluatorService Pc) (e : ι × Env) :
    Decidable (answersKnown known calls s e) :=
  inferInstanceAs <| Decidable (_ → _)

instance (s : State ι ScopeEvaluatorService Pc) (e : ι × Env) : Decidable (tolerated s e) :=
  inferInstanceAs <| Decidable (Tolerated ..)

theorem run_returned (r : Run (concurrent calls) g ((new m ttl threshold).idle ι) s)
    (h : 6 ≤ r.turns i) : (s.locals i).rank = 0 := by
  have hr := r.rank_le Pc.rank step_rank i
  have hs : (((new m ttl threshold).idle ι).locals i).rank = 6 := rfl
  omega

theorem run_known_served (known : String → Prop) (hc : calls i = .evaluateScope request)
    (hv : request.Complete) (hk : known request.agentId)
    (r : Run (concurrent calls) (fun s e => answersKnown known calls s e ∧ tolerated s e)
      ((new m ttl threshold).idle ι) s) :
    (∀ result, s.locals i = .returned result → ∃ p, result = .ok p) ∧
    (6 ≤ r.turns i → ∃ p, s.locals i = .returned (.ok p)) := by
  have ⟨_, served⟩ : s.shared.circuit.isOpen = false ∧ (s.locals i).Served := by
    refine r.invariant (P := fun s => s.shared.circuit.isOpen = false ∧ (s.locals i).Served) ?_
      ⟨rfl, .start⟩
    intro s ⟨j, env⟩ ⟨ho, hs⟩ _ ⟨ha, ht⟩
    refine ⟨step_closed ho ht, ?_⟩
    by_cases hj : j = i
    case neg => simpa [System.interleaved, State.next_locals_of_ne _ _ (Ne.symm hj)] using hs
    case pos =>
      subst hj
      have := step_served hs hv ho fun h => (hc ▸ ha h).ok hk
      simpa [System.interleaved, concurrent, hc] using this
  constructor
  case left =>
    intro result hr
    rw [hr] at served
    cases served
    exact ⟨_, rfl⟩
  case right =>
    intro ht
    exact served.returned_of_rank <| run_returned r ht

def mixedCalls : Nat → Call
  | 0     => .evaluateScope { sampleRequest with agentId := "agent-2" }
  | _ + 1 => .evaluateScope sampleRequest

-- The call for an agent without a passport comes first.
def mixedSchedule : List (Nat × Env) :=
  .replicate 5 (0, ⟨0, .error .notFound⟩) ++ .replicate 6 (1, sampleEnv "p-1")

def mixedState (threshold : UInt32) : State Nat ScopeEvaluatorService Pc :=
  Transition.exec (concurrent mixedCalls).interleaved ((new 500 60 threshold).idle Nat) mixedSchedule

theorem known_served_after_unknown :
    ∃ p, (mixedState 2).locals 1 = .returned (.ok p) := by
  have allowed : Transition.Admissible (concurrent mixedCalls).interleaved
      (fun s e => answersKnown (· = "agent-1") mixedCalls s e ∧ tolerated s e)
      ((new 500 60 2).idle Nat) mixedSchedule := by
    decide +kernel
  have known : mixedCalls 1 = .evaluateScope sampleRequest := rfl
  apply (run_known_served (· = "agent-1") known sampleRequest_complete rfl <|
    .ofSchedule mixedSchedule allowed).right
  rw [Run.turns_ofSchedule]
  decide

theorem unknown_agent_cuts_off :
    Nonempty (Run (concurrent mixedCalls) (answersKnown (· = "agent-1") mixedCalls)
      ((new 500 60 1).idle Nat) (mixedState 1)) ∧
    (mixedState 1).locals 1 = .returned (.error .unavailable) :=
  ⟨⟨.ofSchedule mixedSchedule (by decide +kernel)⟩, by decide +kernel⟩

end KnownAgents

end Run

end ScopeEvaluatorService

end ScopeEvaluator
