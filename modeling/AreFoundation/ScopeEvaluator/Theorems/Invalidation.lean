import AreFoundation.ScopeEvaluator.Concurrent
import AreFoundation.ScopeEvaluator.Theorems.Decision

open Interleaving

namespace ScopeEvaluator

namespace PassportCache

variable {cache : PassportCache}

theorem lookup_remove :
    (cache.remove a).entries.lookup b = if b = a then none else cache.entries.lookup b := by
  unfold remove
  split
  case isTrue    => exact HashMap.lookup_erase
  case isFalse h =>
    split
    case isTrue hb => exact hb ▸ Finmap.lookup_eq_none.mpr h
    case isFalse   => rfl

theorem lookup_of_remove (h : (cache.remove a).entries.lookup b = some entry) :
    cache.entries.lookup b = some entry := by
  rw [lookup_remove] at h
  split at h
  case isTrue  => contradiction
  case isFalse => exact h

theorem lookup_of_evict {entries : HashMap String CachedPassport} (lru : List String)
    (h : (evict m entries lru).1.lookup a = some entry) : entries.lookup a = some entry := by
  induction lru generalizing entries
  case nil => exact h
  case cons oldest lru hi =>
    simp only [evict] at h
    split at h
    case isFalse => exact h
    case isTrue  =>
      have := hi h
      rw [HashMap.lookup_erase] at this
      split at this
      case isTrue  => contradiction
      case isFalse => exact this

theorem lookup_of_insert (h : (cache.insert a p now).entries.lookup b = some entry) :
    (b = a ∧ entry.passport = p) ∨ cache.entries.lookup b = some entry := by
  have := lookup_of_evict _ h
  rw [HashMap.lookup_insert] at this
  split at this
  case isTrue hb => exact .inl ⟨hb, Option.some.inj this ▸ rfl⟩
  case isFalse   => exact .inr <| lookup_of_remove this

-- The three outcomes of a lookup.
theorem get_cases (cache : PassportCache) (a : String) (now : Int) :
    (cache.get a now = (none, cache)) ∨
    (cache.get a now = (none, cache.remove a)) ∨
    (∃ entry, cache.entries.lookup a = some entry ∧
      cache.get a now = (some entry.passport, cache.touch a)) := by
  unfold get
  split
  case _         => exact .inl rfl
  case _ entry h =>
    split
    case isTrue  => exact .inr <| .inl rfl
    case isFalse => exact .inr <| .inr ⟨entry, h, rfl⟩

end PassportCache

-- A passport that a call has received and not yet stored.
inductive Pc.Holds (p : Passport) : Pc → Prop
  | circuitUpdate : Holds p <| .circuitUpdate (.ok p)
  | cacheInsert   : Holds p <| .cacheInsert p

namespace ScopeEvaluatorService

section Step

variable {svc : ScopeEvaluatorService} {call : Call} {env : Env} {pc : Pc} {p : Passport} {a : String}

theorem lookup_of_step (h : (svc.step call env pc).1.cache.entries.lookup a = some entry) :
    (svc.cache.entries.lookup a = some entry) ∨
    (call.agentId = a ∧ pc.Holds entry.passport) := by
  cases pc
  case start =>
    cases call
    case evaluateScope =>
      simp only [step] at h
      split at h <;> exact .inl h
    case invalidateCache =>
      simp only [step, invalidateCache] at h
      split at h
      case isTrue  => exact .inl h
      case isFalse => exact .inl <| PassportCache.lookup_of_remove h
  case cacheGet =>
    simp only [step] at h
    rcases svc.cache.get_cases call.agentId env.now with hg | hg | ⟨_, _, hg⟩ <;> rw [hg] at h
    case inl      => exact .inl h
    case inr.inl  => exact .inl <| PassportCache.lookup_of_remove h
    case inr.inr  => exact .inl h
  case circuitCheck =>
    simp only [step] at h
    split at h <;> exact .inl h
  case circuitUpdate answer => cases answer <;> exact .inl h
  case cacheInsert p =>
    cases PassportCache.lookup_of_insert h
    case inl hi => exact .inr ⟨hi.left.symm, hi.right ▸ .cacheInsert⟩
    case inr hi => exact .inl hi
  all_goals exact .inl h

theorem holds_of_step (h : (svc.step call env pc).2.Holds p) :
    pc.Holds p ∨ (pc = .clientCall ∧ env.answer = .ok p) := by
  generalize hn : (svc.step call env pc).2 = pc' at h
  cases h
  case circuitUpdate =>
    cases pc <;> simp only [step] at hn <;> (repeat' split at hn) <;> simp_all
  case cacheInsert =>
    cases pc <;> simp only [step] at hn <;> (repeat' split at hn) <;> simp_all
    exact .circuitUpdate

theorem decided_of_step (h : (svc.step call env pc).2 = .returned (.ok (p, cacheHit))) :
    (pc = .returned (.ok (p, cacheHit))) ∨
    (pc.Holds p) ∨
    (∃ entry, svc.cache.entries.lookup call.agentId = some entry ∧ entry.passport = p) := by
  cases pc
  case cacheGet =>
    simp only [step] at h
    rcases svc.cache.get_cases call.agentId env.now with hg | hg | ⟨entry, he, hg⟩ <;> rw [hg] at h
    case inl     => cases h
    case inr.inl => cases h
    case inr.inr => cases h; exact .inr <| .inr ⟨entry, he, rfl⟩
  case circuitUpdate answer => cases answer <;> cases h
  case cacheInsert          => cases h; exact .inr <| .inl .cacheInsert
  case returned             => exact .inl h
  all_goals simp only [step] at h; (repeat' split at h) <;> cases h

end Step

section Run

variable [DecidableEq ι] {calls : ι → Call} {s s₁ s₂ : State ι ScopeEvaluatorService Pc}
variable {a : String} {A : Set Passport} {i j : ι} {env : Env}

-- What the passport client returns for an agent in a step.
def answers (calls : ι → Call) (a : String) (s : State ι ScopeEvaluatorService Pc) (e : ι × Env) :
    Set Passport :=
  { p | (calls e.1).agentId = a ∧ s.locals e.1 = .clientCall ∧ e.2.answer = .ok p }

-- For the agent, the cache and the calls that are about to store something use only passports of
-- `A`, and so does the decision of call `j`.
structure UsesOnly (calls : ι → Call) (a : String) (j : ι) (A : Set Passport)
    (s : State ι ScopeEvaluatorService Pc) : Prop where
  cached  : ∀ {entry}, s.shared.cache.entries.lookup a = some entry → entry.passport ∈ A
  held    : ∀ {k p}, (calls k).agentId = a → (s.locals k).Holds p → p ∈ A
  decided : ∀ {p cacheHit}, s.locals j = .returned (.ok (p, cacheHit)) → p ∈ A

theorem UsesOnly.step (h : UsesOnly calls a j A s) (hj : (calls j).agentId = a) :
    UsesOnly calls a j (A ∪ answers calls a s (i, env)) (s.next (concurrent calls) i env) where
  cached he := by
    rcases lookup_of_step he with he | ⟨ha, hh⟩
    case inl => exact .inl <| h.cached he
    case inr => exact .inl <| h.held ha hh
  held {k p} := by
    refine State.forall_next_locals (P := fun k pc => (calls k).agentId = a → Pc.Holds p pc →
      p ∈ A ∪ answers calls a s (i, env)) ?own (fun k _ ha hh => .inl <| h.held ha hh) k
    case own =>
      intro ha hh
      rcases holds_of_step hh with hh | ⟨hc, hp⟩
      case inl => exact .inl <| h.held ha hh
      case inr => exact .inr ⟨ha, hc, hp⟩
  decided {p cacheHit} hd := by
    by_cases hk : j = i
    case neg =>
      rw [State.next_locals_of_ne _ _ hk] at hd
      exact .inl <| h.decided hd
    case pos =>
      subst hk
      rw [State.next_locals_self] at hd
      rcases decided_of_step hd with hd | hh | ⟨entry, he, hp⟩
      case inl     => exact .inl <| h.decided hd
      case inr.inl => exact .inl <| h.held hj hh
      case inr.inr => exact .inl <| hp ▸ h.cached (hj ▸ he)

-- A call without an agent is refused.
theorem run_refused {g : Guard ι ScopeEvaluatorService Pc Env} {request : EvaluateScopeRequest}
    (hc : calls j = .evaluateScope request) (ha : request.agentId = "")
    (r : Run (concurrent calls) g s₁ s₂) (h : s₁.locals j = .start) :
    s₂.locals j = .start ∨ s₂.locals j = .returned (.error .invalidArgument) := by
  have hi : request.Invalid := .inr (.inl ha)
  refine r.invariant (P := fun s => s.locals j = .start ∨
    s.locals j = .returned (.error .invalidArgument)) ?_ (.inl h)
  intro s e hs _ _
  by_cases he : j = e.1
  case neg => simpa only [System.interleaved, State.next_locals_of_ne _ _ he] using hs
  case pos =>
    subst he
    rcases hs with hs | hs
    all_goals simp [System.interleaved, concurrent, hs, step, hc, hi]

-- No call for the agent has received a passport that it has not yet stored.
def NoneHeld (calls : ι → Call) (a : String) (s : State ι ScopeEvaluatorService Pc) : Prop :=
  ∀ k p, (calls k).agentId = a → ¬(s.locals k).Holds p

theorem UsesOnly.invalidated (hi : calls i = .invalidateCache a) (hs : s.locals i = .start)
    (ha : a ≠ "") (hn : NoneHeld calls a s)
    (hj : (s.next (concurrent calls) i env).locals j = .start) :
    UsesOnly calls a j ∅ (s.next (concurrent calls) i env) where
  cached he := by
    simp [concurrent, hs, hi, ScopeEvaluatorService.step, invalidateCache, ha,
      PassportCache.invalidate, PassportCache.lookup_remove] at he
  held {k p} := by
    refine State.forall_next_locals (P := fun k pc => (calls k).agentId = a → Pc.Holds p pc → _) ?own
      (fun k _ hk hh => absurd hh <| hn k p hk) k
    case own =>
      intro _ hh
      simp only [concurrent, hs, hi, ScopeEvaluatorService.step] at hh
      cases hh
  decided hd := by
    rw [hj] at hd
    contradiction

-- The state before the invalidation is an arbitrary one.
theorem invalidated_not_decided {request : EvaluateScopeRequest}
    (hi : calls i = .invalidateCache a) (hs : s₁.locals i = .start) (hn : NoneHeld calls a s₁)
    (r : Run (concurrent calls) .any (s₁.next (concurrent calls) i env) s₂)
    (hc : calls j = .evaluateScope request) (ha : request.agentId = a)
    (hj : (s₁.next (concurrent calls) i env).locals j = .start)
    (hd : s₂.locals j = .returned (.ok (p, cacheHit))) : p ∈ r.collect (answers calls a) := by
  by_cases he : a = ""
  case pos =>
    rcases run_refused hc (ha.trans he) r hj with h | h
    all_goals simp [h] at hd
  case neg =>
    have hu := UsesOnly.invalidated hi hs he hn hj
    have hr := r.invariant_fold (P := UsesOnly calls a j) (fun h _ _ => h.step <| hc ▸ ha) hu
    exact hr.decided hd

end Run

section Sample

def samplePassport (passportId : String) : Passport where
  passportId   := passportId
  passportType := "STANDARD"
  expiresTs    := 2000
  scopes       := []

inductive Caller
  | early
  | invalidating
  | late
  deriving DecidableEq

def sampleCalls : Caller → Call
  | .invalidating => .invalidateCache "agent-1"
  | .early | .late => .evaluateScope sampleRequest

def sampleEnv (passportId : String) : Env := ⟨0, .ok <| samplePassport passportId⟩

-- The first call takes `n` steps before the invalidation.
def sampleBefore (n : Nat) : State Caller ScopeEvaluatorService Pc :=
  Transition.exec (concurrent sampleCalls).interleaved ((new 500 60 5).idle Caller)
    (.replicate n (.early, sampleEnv "p-1"))

def sampleInvalidated (n : Nat) : State Caller ScopeEvaluatorService Pc :=
  (sampleBefore n).next (concurrent sampleCalls) .invalidating (sampleEnv "p-1")

def sampleAfter (n : Nat) (sched : List (Caller × Env)) : State Caller ScopeEvaluatorService Pc :=
  Transition.exec (concurrent sampleCalls).interleaved (sampleInvalidated n) sched

def sampleRun (n : Nat) (sched : List (Caller × Env)) :
    Run (concurrent sampleCalls) .any (sampleInvalidated n) (sampleAfter n sched) :=
  .ofSchedule sched (concurrent_admissible ..)

theorem sampleRun_collect : (sampleRun n sched).collect f =
    Transition.foldExec (concurrent sampleCalls).interleaved (fun s e A => A ∪ f s e)
      (sampleInvalidated n) ∅ sched :=
  Transition.Run.fold_ofSchedule _

def lateCall : List (Caller × Env) := .replicate 6 (.late, sampleEnv "p-2")

theorem invalidated_not_decided_lateCall :
    samplePassport "p-2" ∈ (sampleRun 6 lateCall).collect (answers sampleCalls "agent-1") := by
  have invalidates : sampleCalls .invalidating = .invalidateCache "agent-1" := rfl
  have waits : (sampleBefore 6).locals .invalidating = .start := by decide +kernel
  have noneHeld : NoneHeld sampleCalls "agent-1" (sampleBefore 6) := by
    have early : (sampleBefore 6).locals .early = .returned (.ok (samplePassport "p-1", false)) := by
      decide +kernel
    have late : (sampleBefore 6).locals .late = .start := by decide +kernel
    intro k p _ hh
    cases k
    case early        => rw [early] at hh; cases hh
    case invalidating => rw [waits] at hh; cases hh
    case late         => rw [late] at hh; cases hh
  have decided : (sampleAfter 6 lateCall).locals .late =
      .returned (.ok (samplePassport "p-2", false)) := by
    decide +kernel
  exact invalidated_not_decided invalidates waits noneHeld (sampleRun 6 lateCall)
    (rfl : sampleCalls .late = _) rfl (by decide +kernel) decided

-- The first call stores the passport that it has received before the invalidation.
def overtakenCall : List (Caller × Env) :=
  (.early, sampleEnv "p-1") :: .replicate 2 (.late, sampleEnv "p-2")

theorem invalidation_lost :
    (sampleInvalidated 5).locals .invalidating = .invalidated (.ok false) ∧
    (sampleInvalidated 5).locals .late = .start ∧
    (sampleAfter 5 overtakenCall).locals .late = .returned (.ok (samplePassport "p-1", true)) ∧
    samplePassport "p-1" ∉
      (sampleRun 5 overtakenCall).collect (answers sampleCalls "agent-1") := by
  refine ⟨?_, ?_, ?_, ?_⟩
  case refine_4 =>
    rw [sampleRun_collect]
    simp only [Transition.foldExec, overtakenCall, List.replicate, answers, Set.mem_union,
      Set.mem_ofPred_eq, Set.mem_empty_iff_false]
    decide +kernel
  all_goals decide +kernel

end Sample

end ScopeEvaluatorService

end ScopeEvaluator
