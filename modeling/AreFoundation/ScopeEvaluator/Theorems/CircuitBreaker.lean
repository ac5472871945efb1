import AreFoundation.ScopeEvaluator.Theorems.Invalidation

open Interleaving

namespace ScopeEvaluator

-- What becomes of the circuit in the step that a call takes next.
def CircuitBreaker.after (circuit : CircuitBreaker) (threshold : UInt32) : Pc → CircuitBreaker
  | .circuitUpdate (.ok _)    => {}
  | .circuitUpdate (.error _) => circuit.fail threshold
  | _                         => circuit

namespace ScopeEvaluatorService

section Step

variable {svc : ScopeEvaluatorService} {call : Call} {env : Env} {pc : Pc} {n : Nat}

theorem step_shared (svc : ScopeEvaluatorService) (call : Call) (env : Env) (pc : Pc) :
    ∃ cache, (svc.step call env pc).1 =
      { svc with cache, circuit := svc.circuit.after svc.threshold pc } := by
  cases pc
  case circuitUpdate answer => cases answer <;> exact ⟨_, rfl⟩
  case start =>
    cases call
    case evaluateScope =>
      simp only [step]
      split <;> exact ⟨_, rfl⟩
    case invalidateCache =>
      simp only [step, invalidateCache]
      split <;> exact ⟨_, rfl⟩
  case cacheGet =>
    simp only [step]
    split <;> exact ⟨_, rfl⟩
  case circuitCheck =>
    simp only [step]
    split <;> exact ⟨_, rfl⟩
  all_goals exact ⟨_, rfl⟩

theorem step_circuit : (svc.step call env pc).1.circuit = svc.circuit.after svc.threshold pc := by
  obtain ⟨_, h⟩ := step_shared svc call env pc
  rw [h]

theorem step_threshold : (svc.step call env pc).1.threshold = svc.threshold := by
  obtain ⟨_, h⟩ := step_shared svc call env pc
  rw [h]

-- A call passes the check only while the circuit is closed.
theorem closed_of_step (h : (svc.step call env pc).2 = .clientCall) : svc.circuit.isOpen = false := by
  cases pc <;> simp only [step] at h <;> (repeat' split at h) <;> simp_all

-- The number of failed calls of the client since the last successful one.
def failuresAfter (n : Nat) : Pc → Nat
  | .circuitUpdate (.ok _)    => 0
  | .circuitUpdate (.error _) => n + 1
  | _                         => n

-- The circuit after `n` failures.
structure Counts (svc : ScopeEvaluatorService) (n : Nat) : Prop where
  failures : svc.circuit.consecutiveFailures = UInt32.ofNat n
  isOpen   : svc.circuit.isOpen ↔ max svc.threshold.toNat 1 ≤ n

theorem Counts.fail (h : svc.Counts n) :
    (svc.circuit.fail svc.threshold).isOpen ↔ max svc.threshold.toNat 1 ≤ n + 1 := by
  unfold CircuitBreaker.fail
  have hf := h.failures
  have ho := h.isOpen
  have ht := svc.threshold.toNat_lt
  by_cases hn : max svc.threshold.toNat 1 ≤ n
  case pos => simp [ho.mpr hn]; omega
  case neg =>
    -- The counter has not wrapped around yet.
    have hc : (svc.circuit.consecutiveFailures + 1).toNat = n + 1 := by
      rw [hf, UInt32.toNat_add, UInt32.toNat_ofNat']
      simp
      omega
    have hi : svc.circuit.isOpen = false := by simpa [hn] using ho
    simp only [hi, Bool.false_or, decide_eq_true_eq, ge_iff_le, UInt32.le_iff_toNat_le, hc]
    omega

theorem Counts.step (h : svc.Counts n) : (svc.step call env pc).1.Counts (failuresAfter n pc) := by
  obtain ⟨cache, hs⟩ := step_shared svc call env pc
  rw [hs]
  unfold CircuitBreaker.after failuresAfter
  split
  case _ => exact ⟨rfl, by simp⟩
  case _ => exact ⟨by simp [CircuitBreaker.fail, h.failures, UInt32.ofNat_add], h.fail⟩
  case _ => exact ⟨h.failures, h.isOpen⟩

end Step

section Run

variable [DecidableEq ι] {calls : ι → Call} {s s₁ s₂ : State ι ScopeEvaluatorService Pc}
variable {g : Guard ι ScopeEvaluatorService Pc Env} {threshold : UInt32}

def failures (s : State ι ScopeEvaluatorService Pc) (e : ι × Env) (n : Nat) : Nat :=
  failuresAfter n (s.locals e.1)

theorem run_threshold (r : Run (concurrent calls) g s₁ s₂) :
    s₂.shared.threshold = s₁.shared.threshold :=
  r.invariant (P := fun s => s.shared.threshold = s₁.shared.threshold)
    (fun h _ _ => step_threshold.trans h) rfl

theorem run_counts (r : Run (concurrent calls) g ((new m ttl threshold).idle ι) s) :
    s.shared.Counts (r.fold failures 0) :=
  r.invariant_fold (P := fun n s => s.shared.Counts n) (fun h _ _ => h.step)
    ⟨rfl, by simp [new, idle]⟩

theorem run_counts_failures_iff (r : Run (concurrent calls) .any ((new m ttl threshold).idle ι) s) :
    ((s.shared.circuit.consecutiveFailures.toNat = r.fold failures 0) ∧
      (s.shared.circuit.isOpen ↔ max threshold.toNat 1 ≤ r.fold failures 0) ∧
      (∀ i env, (s.next (concurrent calls) i env).locals i = .clientCall →
        s.shared.circuit.isOpen = false)) ↔
    r.fold failures 0 < 2 ^ 32 := by
  have hc := run_counts r
  have ht : s.shared.threshold = threshold := run_threshold r
  constructor
  case mp =>
    intro ⟨hn, _⟩
    exact hn ▸ s.shared.circuit.consecutiveFailures.toNat_lt
  case mpr =>
    intro hn
    refine ⟨?_, ht ▸ hc.isOpen, fun i env h => ?_⟩
    case refine_1 => rw [hc.failures, UInt32.toNat_ofNat_of_lt' hn]
    case refine_2 => exact closed_of_step <| by simpa [concurrent] using h

-- What a run can lead to, and after how many failures.
def Reaches (calls : ι → Call) (s₁ s₂ : State ι ScopeEvaluatorService Pc) (n : Nat) : Prop :=
  ∃ r : Run (concurrent calls) .any s₁ s₂, r.fold failures 0 = n

namespace Reaches

variable {request : EvaluateScopeRequest} {i : ι} {n : Nat}

theorem exec (h : Reaches calls s₁ s₂ n) (sched : List (ι × Env)) :
    Reaches calls s₁ (Transition.exec (concurrent calls).interleaved s₂ sched)
      (Transition.foldExec (concurrent calls).interleaved failures s₂ n sched) := by
  obtain ⟨r, rfl⟩ := h
  refine ⟨r.append <| .ofSchedule sched (concurrent_admissible ..), ?_⟩
  rw [Transition.Run.fold_append, Transition.Run.fold_ofSchedule]

-- A call gets as far as the client.
theorem letThrough (h : Reaches calls s₁ s₂ n) (hl : s₂.locals i = .start)
    (hc : calls i = .evaluateScope request) (hv : request.Complete)
    (he : s₂.shared.cache.entries = ∅) (ho : s₂.shared.circuit.isOpen = false) :
    Reaches calls s₁ ⟨s₂.shared, Function.update s₂.locals i .clientCall⟩ n := by
  have hg : s₂.shared.cache.get request.agentId 0 = (none, s₂.shared.cache) := by
    simp [PassportCache.get, he]
  have := h.exec (.replicate 3 (i, ⟨0, .error .unavailable⟩))
  simpa [Transition.exec, Transition.foldExec, List.replicate, System.interleaved, State.next,
    concurrent, step, hl, hc, hv.not_invalid, ho, Call.agentId, hg, failures,
    failuresAfter] using this

theorem fail (h : Reaches calls s₁ s₂ n) (hl : s₂.locals i = .clientCall) :
    Reaches calls s₁
      ⟨{ s₂.shared with
          circuit := s₂.shared.circuit.after s₂.shared.threshold
            (.circuitUpdate <| .error .unavailable) },
        Function.update s₂.locals i (.returned <| .error .unavailable)⟩ (n + 1) := by
  have := h.exec (.replicate 2 (i, ⟨0, .error .unavailable⟩))
  simpa [Transition.exec, Transition.foldExec, List.replicate, System.interleaved, State.next,
    concurrent, step, hl, failures, failuresAfter, CircuitBreaker.after] using this

end Reaches

end Run

section Sample

-- Every call is for the same agent.
def sampleCaller (_ : Nat) : Call :=
  .evaluateScope sampleRequest

-- The first `n` calls have failed, one after the other.
def failedState (threshold : UInt32) (n : Nat) : State Nat ScopeEvaluatorService Pc where
  shared   := { new 500 60 threshold with circuit := ⟨UInt32.ofNat n, false⟩ }
  locals i := if i < n then .returned <| .error .unavailable else .start

theorem reaches_failedState {threshold : UInt32} (h : n < threshold.toNat) :
    Reaches sampleCaller ((new 500 60 threshold).idle Nat) (failedState threshold n) n := by
  induction n
  case zero => exact ⟨.refl, rfl⟩
  case succ n hi =>
    have closed : ¬threshold ≤ UInt32.ofNat n + 1 := by
      have ht := threshold.toNat_lt
      rw [UInt32.le_iff_toNat_le, UInt32.toNat_add,
        UInt32.toNat_ofNat_of_lt' (show n < 2 ^ 32 by omega)]
      simp
      omega
    have next := hi (by omega)
      |>.letThrough (i := n) (by simp [failedState]) rfl sampleRequest_complete rfl rfl
      |>.fail (i := n) (by simp)
    convert next using 1
    ext1
    case shared =>
      simp [failedState, new, CircuitBreaker.after, CircuitBreaker.fail, closed, UInt32.ofNat_add]
    case locals =>
      funext i
      simp only [failedState, Function.update_apply]
      split_ifs <;> first | rfl | omega

-- Of the last two calls one opens the circuit. The other one has passed the check before and fails,
-- too.
theorem counter_wraps_around :
    ∃ s, ∃ r : Run (concurrent sampleCaller) .any ((new 500 60 4294967295).idle Nat) s,
      r.fold failures 0 = 2 ^ 32 ∧ s.shared.circuit.consecutiveFailures = 0 ∧
      s.shared.circuit.isOpen := by
  have reached := reaches_failedState (show 4294967294 < (4294967295 : UInt32).toNat by decide)
  have first := reached.letThrough (i := 4294967294) (by simp [failedState]) rfl
    sampleRequest_complete rfl rfl
  have second := first.letThrough (i := 4294967295) (by simp [failedState]) rfl
    sampleRequest_complete rfl rfl
  obtain ⟨r, hr⟩ := second.fail (i := 4294967294) (by simp) |>.fail (i := 4294967295) (by simp)
  exact ⟨_, r, hr, by decide, by decide⟩

end Sample

end ScopeEvaluatorService

end ScopeEvaluator
