import AreFoundation.ScopeEvaluator.Concurrent
import AreFoundation.ScopeEvaluator.GrpcPassport

open Transition (System)

namespace ScopeEvaluator

structure ScopeCheck where
  evaluationId : String
  actionClass  : String
  resource     : String
  context      : HashMap String String := ∅
  deriving DecidableEq

deriving instance DecidableEq for EvaluateScopeRequest

def ScopeCheck.toRequest (agentId : String) (check : ScopeCheck) : EvaluateScopeRequest where
  evaluationId := check.evaluationId
  agentId      := agentId
  actionClass  := check.actionClass
  resource     := check.resource
  context      := check.context

structure GetAgentScopeSetResponse where
  agentId           : String
  passportId        : String
  passportType      : String
  scopes            : List ScopeEntry
  cacheHit          : Bool
  passportExpiresTs : Int
  deriving DecidableEq

-- The rest of `get_agent_scope_set` once there is a passport.
def Passport.toScopeSet (passport : Passport) (agentId : String) (cacheHit : Bool) :
    GetAgentScopeSetResponse where
  agentId           := agentId
  passportId        := passport.passportId
  passportType      := passport.passportType
  scopes            := passport.scopes
  cacheHit          := cacheHit
  passportExpiresTs := passport.expiresTs

-- A step of `get_or_fetch_passport`. From the first lookup on, nothing but the agent of the call that
-- it is part of matters.
def ScopeEvaluatorService.fetchStep (svc : ScopeEvaluatorService) (agentId : String) (env : Env)
    (pc : Pc) : ScopeEvaluatorService × Pc :=
  svc.step (.evaluateScope ⟨"", agentId, "", "", ∅⟩) env pc

-- The scope evaluator while it is connected to the passport engine, with any number of calls of its
-- interface in progress.
namespace Deployment

inductive Call
  | evaluateScope (request : EvaluateScopeRequest)
  | evaluateScopeBatch (agentId : String) (checks : List ScopeCheck)
  | getAgentScopeSet (agentId : String)
  | invalidateCache (agentId : String)

def Call.agentId : Call → String
  | evaluateScope request        => request.agentId
  | evaluateScopeBatch agentId _ => agentId
  | getAgentScopeSet agentId     => agentId
  | invalidateCache agentId      => agentId

inductive Answer
  | evaluated (response : EvaluateScopeResponse)
  | batch (responses : List EvaluateScopeResponse)
  | scopeSet (response : GetAgentScopeSetResponse)
  | invalidated (wasCached : Bool)
  deriving DecidableEq

-- What a passport is fetched for. A batch has the checks that are left, and what it has so far.
inductive Task
  | evaluate (request : EvaluateScopeRequest) (now : Int)
  | evaluateNext (request : EvaluateScopeRequest) (now : Int) (rest : List ScopeCheck)
      (out : List EvaluateScopeResponse)
  | scopeSet
  deriving DecidableEq

inductive Thread
  | start
  | fetching (task : Task) (pc : Pc)
  | returned (result : Except ScopeError Answer)
  deriving DecidableEq

section Call

-- The clock is read before the passport is fetched.
def evaluateScope (request : EvaluateScopeRequest) (task : Task) : Thread :=
  if request.Invalid then
    .returned <| .error .invalidArgument
  else
    .fetching task .cacheGet

-- The loop of `evaluate_scope_batch`.
def evaluateChecks (agentId : String) (now : Int) (out : List EvaluateScopeResponse) :
    List ScopeCheck → Thread
  | []            => .returned <| .ok <| .batch out
  | check :: rest =>
    evaluateScope (check.toRequest agentId) <| .evaluateNext (check.toRequest agentId) now rest out

def Task.proceed (agentId : String) (now : Int) (passport : Passport) (cacheHit : Bool) :
    Task → Thread
  | evaluate request since              =>
    .returned <| .ok <| .evaluated <| request.respond since passport cacheHit
  | evaluateNext request since rest out =>
    evaluateChecks agentId now (out ++ [request.respond since passport cacheHit]) rest
  | scopeSet                            =>
    .returned <| .ok <| .scopeSet <| passport.toScopeSet agentId cacheHit

def Task.resume (agentId : String) (now : Int) (task : Task) : Pc → Thread
  | .returned (.ok (passport, cacheHit)) => task.proceed agentId now passport cacheHit
  | .returned (.error err)               => .returned <| .error err
  | pc                                   => .fetching task pc

def begin (svc : ScopeEvaluatorService) (now : Int) : Call → ScopeEvaluatorService × Thread
  | .evaluateScope request             => (svc, evaluateScope request <| .evaluate request now)
  | .evaluateScopeBatch agentId checks =>
    if agentId = "" then
      (svc, .returned <| .error .invalidArgument)
    else
      (svc, evaluateChecks agentId now [] checks)
  | .getAgentScopeSet agentId          =>
    if agentId = "" then
      (svc, .returned <| .error .invalidArgument)
    else
      (svc, .fetching .scopeSet .cacheGet)
  | .invalidateCache agentId           =>
    let (result, svc) := svc.invalidateCache agentId
    (svc, .returned <| result.map .invalidated)

-- One step of a call, between two points at which it can be interrupted.
def advance (svc : ScopeEvaluatorService) (call : Call) (clock : ScopeEvaluatorService.Clock)
    (answer : Except ScopeError Passport) : Thread → ScopeEvaluatorService × Thread
  | .start            => begin svc clock.millis call
  | .fetching task pc =>
    let (svc, pc) := svc.fetchStep call.agentId ⟨clock.monotonic, answer⟩ pc
    (svc, task.resume call.agentId clock.millis pc)
  | .returned result  => (svc, .returned result)

end Call

-- `clock` is the last value of the monotonic clock.
structure State (ι : Type*) where
  engine    : PassportIssuance.Service
  evaluator : ScopeEvaluatorService
  clock     : Int
  threads   : ι → Thread := fun _ => .start

-- If a call asks the engine in its turn, `connected` says whether it gets through.
inductive Event (ι : Type*)
  | engine (op : PassportIssuance.Op)
  | turn (i : ι) (connected : Bool) (clock : ScopeEvaluatorService.Clock)

section System

variable [Sha256] [DecidableEq ι] (calls : ι → Call)

def State.turn (s : State ι) (i : ι) (connected : Bool) (clock : ScopeEvaluatorService.Clock) :
    State ι :=
  let answer := GrpcPassportClient.getAgentPassport s.engine connected (calls i).agentId
  let (evaluator, thread) := advance s.evaluator (calls i) clock answer (s.threads i)
  { s with evaluator, clock := clock.monotonic, threads := Function.update s.threads i thread }

def Allows (s : State ι) : Event ι → Prop
  | .engine op      => op.Fresh s.engine
  | .turn _ _ clock => s.clock ≤ clock.monotonic

def system : System (State ι) (Event ι) where
  allows := Allows
  step s
    | .engine op              => { s with engine := PassportIssuance.engine.step s.engine op }
    | .turn i connected clock => s.turn calls i connected clock

instance (s : State ι) : (e : Event ι) → Decidable ((system calls).allows s e)
  | .engine op      => inferInstanceAs <| Decidable (op.Fresh s.engine)
  | .turn _ _ clock => inferInstanceAs <| Decidable (s.clock ≤ clock.monotonic)

end System

end Deployment

end ScopeEvaluator
