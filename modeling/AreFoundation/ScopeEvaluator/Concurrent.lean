import AreFoundation.Library.Interleaving
import AreFoundation.ScopeEvaluator.Service

open Interleaving

namespace ScopeEvaluator

def PassportCache.invalidate (cache : PassportCache) (agentId : String) : Bool × PassportCache :=
  (agentId ∈ cache.entries, cache.remove agentId)

inductive Call
  | evaluateScope (request : EvaluateScopeRequest)
  | invalidateCache (agentId : String)

def Call.agentId : Call → String
  | evaluateScope request   => request.agentId
  | invalidateCache agentId => agentId

-- The points between which a call holds one of the two locks or waits for the passport client. A
-- call of `evaluate_scope` ends here with what `get_or_fetch_passport` returns, since the response
-- depends on nothing else that is shared.
inductive Pc
  | start
  | cacheGet
  | circuitCheck
  | clientCall
  | circuitUpdate (answer : Except ScopeError Passport)
  | cacheInsert (passport : Passport)
  | returned (result : Except ScopeError (Passport × Bool))
  | invalidated (result : Except ScopeError Bool)
  deriving DecidableEq

-- The monotonic clock, and the answer of the passport client if it is asked.
structure Env where
  now    : Int
  answer : Except ScopeError Passport

namespace ScopeEvaluatorService

variable (svc : ScopeEvaluatorService)

def invalidateCache (agentId : String) : Except ScopeError Bool × ScopeEvaluatorService :=
  if agentId = "" then
    (.error .invalidArgument, svc)
  else
    let (removed, cache) := svc.cache.invalidate agentId
    (.ok removed, { svc with cache })

def step (call : Call) (env : Env) : Pc → ScopeEvaluatorService × Pc
  | .start =>
    match call with
    | .evaluateScope request =>
      if request.Invalid then
        (svc, .returned <| .error .invalidArgument)
      else
        (svc, .cacheGet)
    | .invalidateCache agentId =>
      let (result, svc) := svc.invalidateCache agentId
      (svc, .invalidated result)
  | .cacheGet =>
    match svc.cache.get call.agentId env.now with
    | (some p, cache) => ({ svc with cache }, .returned <| .ok (p, true))
    | (none, cache)   => ({ svc with cache }, .circuitCheck)
  | .circuitCheck =>
    if svc.circuit.isOpen then (svc, .returned <| .error .unavailable) else (svc, .clientCall)
  | .clientCall => (svc, .circuitUpdate env.answer)
  | .circuitUpdate (.ok passport) => ({ svc with circuit := {} }, .cacheInsert passport)
  | .circuitUpdate (.error err) =>
    ({ svc with circuit := svc.circuit.fail svc.threshold },
      .returned <| .error <| if err = .notFound then .notFound else .unavailable)
  | .cacheInsert passport =>
    ({ svc with cache := svc.cache.insert call.agentId passport env.now },
      .returned <| .ok (passport, false))
  | .returned result    => (svc, .returned result)
  | .invalidated result => (svc, .invalidated result)

-- The steps of a call that is not interrupted.
def stepsAlone (call : Call) (env : Env) : Nat → ScopeEvaluatorService → Pc →
    ScopeEvaluatorService × Pc
  | 0,     svc, pc => (svc, pc)
  | n + 1, svc, pc => stepsAlone call env n (svc.step call env pc).1 (svc.step call env pc).2

theorem stepsAlone_getOrFetchPassport (request : EvaluateScopeRequest) (env : Env) :
    stepsAlone (.evaluateScope request) env 5 svc .cacheGet =
      ((svc.getOrFetchPassport request.agentId env.now env.answer).2,
        .returned (svc.getOrFetchPassport request.agentId env.now env.answer).1) := by
  rcases h : svc.cache.get request.agentId env.now with ⟨_ | p, cache⟩
  case none =>
    by_cases ho : svc.circuit.isOpen
    case pos => simp [stepsAlone, step, getOrFetchPassport, Call.agentId, h, ho]
    case neg =>
      cases ha : env.answer
      all_goals simp [stepsAlone, step, getOrFetchPassport, Call.agentId, h, ho, ha]
  case some => simp [stepsAlone, step, getOrFetchPassport, Call.agentId, h]

-- Any number of calls, each at its own point.
def concurrent (calls : ι → Call) : System ι ScopeEvaluatorService Pc Env where
  allows _ _ _ _       := True
  step i env shared pc := shared.step (calls i) env pc

instance (calls : ι → Call) (i : ι) (env : Env) (svc : ScopeEvaluatorService) (pc : Pc) :
    Decidable ((concurrent calls).allows i env svc pc) :=
  .isTrue trivial

theorem concurrent_admissible [DecidableEq ι] (calls : ι → Call)
    (s : State ι ScopeEvaluatorService Pc) (sched : List (ι × Env)) :
    Transition.Admissible (concurrent calls).interleaved .any s sched := by
  induction sched generalizing s
  case nil     => trivial
  case cons hi => exact ⟨trivial, trivial, hi _⟩

-- No call has started.
def idle (ι : Type*) : State ι ScopeEvaluatorService Pc where
  shared   := svc
  locals _ := .start

end ScopeEvaluatorService

end ScopeEvaluator
