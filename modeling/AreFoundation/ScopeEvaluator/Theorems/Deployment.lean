import AreFoundation.Library.Traverse
import AreFoundation.PassportIssuance.Theorems.Binding
import AreFoundation.ScopeEvaluator.Deployment
import AreFoundation.ScopeEvaluator.Theorems.Cache
import AreFoundation.ScopeEvaluator.Theorems.Decision
import AreFoundation.ScopeEvaluator.Theorems.Revocation

namespace ScopeEvaluator

namespace PassportCache

variable {cache : PassportCache}

theorem lookup_insert_cases (h : (cache.insert a p now).entries.lookup b = some entry) :
    (b = a ∧ entry = ⟨p, now⟩) ∨ cache.entries.lookup b = some entry := by
  have := lookup_of_evict _ h
  rw [HashMap.lookup_insert] at this
  split at this
  case isTrue hb => exact .inl ⟨hb, (Option.some.inj this).symm⟩
  case isFalse   => exact .inr <| lookup_of_remove this

theorem lookup_of_get (h : (cache.get a now).2.entries.lookup b = some entry) :
    cache.entries.lookup b = some entry := by
  rcases cache.get_cases a now with hg | hg | ⟨_, _, hg⟩ <;> rw [hg] at h
  case inl     => exact h
  case inr.inl => exact lookup_of_remove h
  case inr.inr => exact h

end PassportCache

namespace ScopeEvaluatorService

variable {svc : ScopeEvaluatorService} {agentId a : String} {env : Env} {pc : Pc} {p : Passport}

-- The steps that access the cache.
theorem fetchStep_cache (svc : ScopeEvaluatorService) (agentId : String) (env : Env) (pc : Pc) :
    ((svc.fetchStep agentId env pc).1.cache = svc.cache) ∨
    ((svc.fetchStep agentId env pc).1.cache = (svc.cache.get agentId env.now).2) ∨
    (∃ p, pc = .cacheInsert p ∧
      (svc.fetchStep agentId env pc).1.cache = svc.cache.insert agentId p env.now) := by
  cases pc
  case cacheGet =>
    refine .inr <| .inl ?_
    simp only [fetchStep, step, Call.agentId]
    split
    all_goals next hg => rw [hg]
  case cacheInsert p => exact .inr <| .inr ⟨p, rfl, rfl⟩
  case circuitCheck =>
    refine .inl ?_
    simp only [fetchStep, step]
    split <;> rfl
  case circuitUpdate answer => cases answer <;> exact .inl rfl
  all_goals exact .inl rfl

theorem lookup_of_fetchStep
    (h : (svc.fetchStep agentId env pc).1.cache.entries.lookup a = some entry) :
    svc.cache.entries.lookup a = some entry ∨
    (a = agentId ∧ pc.Holds entry.passport ∧ entry.cachedAt = env.now) := by
  rcases svc.fetchStep_cache agentId env pc with hc | hc | ⟨p, rfl, hc⟩ <;> rw [hc] at h
  case inl     => exact .inl h
  case inr.inl => exact .inl <| PassportCache.lookup_of_get h
  case inr.inr =>
    rcases PassportCache.lookup_insert_cases h with ⟨ha, rfl⟩ | h
    case inl => exact .inr ⟨ha, .cacheInsert, rfl⟩
    case inr => exact .inl h

theorem ttl_fetchStep : (svc.fetchStep agentId env pc).1.cache.ttl = svc.cache.ttl := by
  rcases svc.fetchStep_cache agentId env pc with hc | hc | ⟨p, rfl, hc⟩ <;> rw [hc]
  case inr.inl => exact (PassportCache.limits_of_step (.get agentId env.now)).right
  case inr.inr => exact (PassportCache.limits_of_step (.insert agentId p env.now)).right

theorem fetched_of_fetchStep (h : (svc.fetchStep agentId env pc).2 = .returned (.ok (p, cacheHit))) :
    (pc = .returned (.ok (p, cacheHit))) ∨
    (pc.Holds p) ∨
    (∃ t, svc.cache.entries.lookup agentId = some ⟨p, t⟩ ∧ env.now - t ≤ svc.cache.ttl) := by
  cases pc
  case start    => simp [fetchStep, step, EvaluateScopeRequest.Invalid] at h
  case cacheGet =>
    simp only [fetchStep, step, Call.agentId] at h
    split at h
    case h_1 hg => cases h; exact .inr <| .inr <| PassportCache.ttl_of_get (by rw [hg])
    case h_2    => cases h
  case circuitCheck =>
    simp only [fetchStep, step] at h
    split at h <;> cases h
  case circuitUpdate answer => cases answer <;> cases h
  case cacheInsert          => cases h; exact .inr <| .inl .cacheInsert
  case returned             => exact .inl h
  all_goals cases h

end ScopeEvaluatorService

namespace Deployment

-- A passport that a call has received and not yet used.
inductive Thread.Holds (p : Passport) : Thread → Prop
  | fetching : pc.Holds p → Holds p (.fetching task pc)
  | fetched  : Holds p <| .fetching task <| .returned <| .ok (p, cacheHit)

section Follows

-- A response to a request by a passport in `G`.
def RespondsTo (G : Passport → Prop) (request : EvaluateScopeRequest) (resp : EvaluateScopeResponse) :
    Prop :=
  ∃ now p cacheHit, G p ∧ resp = request.respond now p cacheHit

-- The answer to a call is made of passports in `G` alone.
def Answer.Follows (G : Passport → Prop) : Call → Answer → Prop
  | .evaluateScope request,             .evaluated resp => RespondsTo G request resp
  | .evaluateScopeBatch agentId checks, .batch out      =>
    List.Forall₂ (RespondsTo G) (checks.map (·.toRequest agentId)) out
  | .getAgentScopeSet agentId,          .scopeSet resp  =>
    ∃ p cacheHit, G p ∧ resp = p.toScopeSet agentId cacheHit
  | .invalidateCache _,                 .invalidated _  => True
  | _,                                  _               => False

-- The checks of a batch are answered in their order.
def Task.Follows (G : Passport → Prop) : Call → Task → Prop
  | .evaluateScope request,             .evaluate request' _             => request' = request
  | .evaluateScopeBatch agentId checks, .evaluateNext request _ rest out =>
    ∃ earlier check, checks = earlier ++ check :: rest ∧ request = check.toRequest agentId ∧
      List.Forall₂ (RespondsTo G) (earlier.map (·.toRequest agentId)) out
  | .getAgentScopeSet _,                .scopeSet                        => True
  | _,                                  _                                => False

def Thread.Follows (G : Passport → Prop) (call : Call) : Thread → Prop
  | .start                 => True
  | .fetching task _       => task.Follows G call
  | .returned (.ok answer) => answer.Follows G call
  | .returned (.error _)   => True

variable {G G' : Passport → Prop} {call : Call} {task : Task} {thread : Thread}

theorem RespondsTo.mono (hg : ∀ p, G p → G' p) (h : RespondsTo G request resp) :
    RespondsTo G' request resp :=
  have ⟨now, p, cacheHit, hp, hr⟩ := h
  ⟨now, p, cacheHit, hg p hp, hr⟩

theorem Thread.Follows.mono (hg : ∀ p, G p → G' p) (h : thread.Follows G call) :
    thread.Follows G' call := by
  cases thread
  case start => trivial
  case fetching task pc =>
    cases call <;> cases task <;> try exact h
    case evaluateScopeBatch.evaluateNext =>
      obtain ⟨earlier, check, hc, hr, hf⟩ := h
      exact ⟨earlier, check, hc, hr, hf.imp fun _ _ => .mono hg⟩
  case returned result =>
    cases result
    case error     => trivial
    case ok answer =>
      cases call <;> cases answer <;> try exact h
      case evaluateScope.evaluated  => exact RespondsTo.mono hg h
      case evaluateScopeBatch.batch => exact List.Forall₂.imp (fun _ _ => .mono hg) h
      case getAgentScopeSet.scopeSet =>
        obtain ⟨p, cacheHit, hp, hr⟩ := h
        exact ⟨p, cacheHit, hg p hp, hr⟩

theorem evaluateScope_follows (h : task.Follows G call) :
    (evaluateScope request task).Follows G call := by
  unfold evaluateScope
  split
  case isTrue  => trivial
  case isFalse => exact h

theorem evaluateChecks_follows {earlier rest : List ScopeCheck}
    (h : List.Forall₂ (RespondsTo G) (earlier.map (·.toRequest agentId)) out) :
    (evaluateChecks agentId now out rest).Follows G (.evaluateScopeBatch agentId (earlier ++ rest)) := by
  cases rest
  case nil             => rw [List.append_nil]; exact h
  case cons check rest => exact evaluateScope_follows ⟨earlier, check, rfl, rfl, h⟩

theorem begin_follows {svc : ScopeEvaluatorService} : (begin svc now call).2.Follows G call := by
  cases call
  case evaluateScope => exact evaluateScope_follows rfl
  case evaluateScopeBatch agentId checks =>
    simp only [begin]
    split
    case isTrue  => trivial
    case isFalse => exact @evaluateChecks_follows _ _ _ _ [] checks .nil
  case getAgentScopeSet =>
    simp only [begin]
    split <;> trivial
  case invalidateCache agentId =>
    simp only [begin]
    cases (svc.invalidateCache agentId).1 <;> trivial

theorem proceed_follows (h : task.Follows G call) (hp : G p) :
    (task.proceed call.agentId now p cacheHit).Follows G call := by
  cases call <;> cases task <;> try exact absurd h id
  case evaluateScope.evaluate since   => exact ⟨since, p, cacheHit, hp, h ▸ rfl⟩
  case getAgentScopeSet.scopeSet      => exact ⟨p, cacheHit, hp, rfl⟩
  case evaluateScopeBatch.evaluateNext agentId checks request since rest out =>
    obtain ⟨earlier, check, rfl, rfl, hf⟩ := h
    rw [List.append_cons]
    refine evaluateChecks_follows ?_
    rw [List.map_append]
    exact List.rel_append hf <| .cons ⟨since, p, cacheHit, hp, rfl⟩ .nil

theorem resume_follows (h : task.Follows G call)
    (hp : ∀ p cacheHit, pc = .returned (.ok (p, cacheHit)) → G p) :
    (task.resume call.agentId now pc).Follows G call := by
  unfold Task.resume
  split
  case h_1 => exact proceed_follows h (hp _ _ rfl)
  case h_2 => trivial
  case h_3 => exact h

end Follows

section Advance

variable {svc : ScopeEvaluatorService} {call : Call} {clock : ScopeEvaluatorService.Clock}
variable {answer : Except ScopeError Passport} {thread : Thread} {p : Passport}

-- A passport that is used has either been received before or is still in the cache.
theorem advance_follows {G : Passport → Prop} (h : thread.Follows G call)
    (hh : ∀ p, thread.Holds p → G p)
    (hc : ∀ p t, svc.cache.entries.lookup call.agentId = some ⟨p, t⟩ →
      clock.monotonic - t ≤ svc.cache.ttl → G p) :
    (advance svc call clock answer thread).2.Follows G call := by
  cases thread
  case start            => exact begin_follows
  case returned         => exact h
  case fetching task pc =>
    refine resume_follows h fun p cacheHit hf => ?_
    rcases ScopeEvaluatorService.fetched_of_fetchStep hf with rfl | hp | ⟨t, hl, ht⟩
    case inl     => exact hh p .fetched
    case inr.inl => exact hh p (.fetching hp)
    case inr.inr => exact hc p t hl ht

theorem not_holds_evaluateScope : ¬(evaluateScope request task).Holds p := by
  unfold evaluateScope
  split
  case isTrue  => rintro ⟨⟩
  case isFalse => rintro (⟨⟨⟩⟩ | _)

theorem not_holds_evaluateChecks : ¬(evaluateChecks agentId now out rest).Holds p := by
  cases rest
  case nil  => rintro ⟨⟩
  case cons => exact not_holds_evaluateScope

theorem not_holds_begin : ¬(begin svc now call).2.Holds p := by
  cases call
  case evaluateScope      => exact not_holds_evaluateScope
  case evaluateScopeBatch =>
    simp only [begin]
    split
    case isTrue  => rintro ⟨⟩
    case isFalse => exact not_holds_evaluateChecks
  case getAgentScopeSet =>
    simp only [begin]
    split
    case isTrue  => rintro ⟨⟩
    case isFalse => rintro (⟨⟨⟩⟩ | _)
  case invalidateCache => rintro ⟨⟩

theorem holds_of_resume {task : Task} {pc : Pc} (h : (task.resume agentId now pc).Holds p) :
    pc.Holds p := by
  unfold Task.resume at h
  split at h
  case h_1 =>
    cases task
    case evaluateNext => exact absurd h not_holds_evaluateChecks
    all_goals cases h
  case h_2 => cases h
  case h_3 hr _ =>
    cases h
    case fetching h => exact h
    case fetched    => exact absurd rfl (hr _ _)

theorem holds_of_advance (h : (advance svc call clock answer thread).2.Holds p) :
    thread.Holds p ∨ answer = .ok p := by
  cases thread
  case start            => exact absurd h not_holds_begin
  case returned         => exact .inl h
  case fetching task pc =>
    simp only [advance] at h
    rcases ScopeEvaluatorService.holds_of_step (holds_of_resume h) with h | ⟨_, h⟩
    case inl => exact .inl (.fetching h)
    case inr => exact .inr h

theorem begin_cache (svc : ScopeEvaluatorService) (now : Int) (call : Call) :
    (begin svc now call).1.cache = svc.cache ∨
    (begin svc now call).1.cache = svc.cache.remove call.agentId := by
  cases call
  case evaluateScope   => exact .inl rfl
  case invalidateCache =>
    simp only [begin, ScopeEvaluatorService.invalidateCache]
    split
    case isTrue  => exact .inl rfl
    case isFalse => exact .inr rfl
  all_goals simp only [begin]; split <;> exact .inl rfl

theorem lookup_of_advance
    (h : (advance svc call clock answer thread).1.cache.entries.lookup a = some entry) :
    svc.cache.entries.lookup a = some entry ∨
    (a = call.agentId ∧ thread.Holds entry.passport ∧ entry.cachedAt = clock.monotonic) := by
  cases thread
  case start =>
    refine .inl ?_
    rcases begin_cache svc clock.millis call with hc | hc <;> rw [advance, hc] at h
    case inl => exact h
    case inr => exact PassportCache.lookup_of_remove h
  case returned         => exact .inl h
  case fetching task pc =>
    refine (ScopeEvaluatorService.lookup_of_fetchStep h).imp_right fun h => ?_
    exact ⟨h.left, .fetching h.right.left, h.right.right⟩

theorem ttl_advance : (advance svc call clock answer thread).1.cache.ttl = svc.cache.ttl := by
  cases thread
  case start =>
    rcases begin_cache svc clock.millis call with hc | hc <;> rw [advance, hc]
    exact PassportCache.ttl_remove
  case returned => rfl
  case fetching => exact ScopeEvaluatorService.ttl_fetchStep

end Advance

section Turn

variable [DecidableEq ι] {calls : ι → Call} {s : State ι} {i : ι}
variable {connected : Bool} {clock : ScopeEvaluatorService.Clock}

-- What the call gets if it asks the engine in its turn.
abbrev State.answer (s : State ι) (calls : ι → Call) (i : ι) (connected : Bool) :
    Except ScopeError Passport :=
  GrpcPassportClient.getAgentPassport s.engine connected (calls i).agentId

theorem turn_threads_self : (s.turn calls i connected clock).threads i =
    (advance s.evaluator (calls i) clock (s.answer calls i connected) (s.threads i)).2 :=
  Function.update_self ..

theorem turn_threads_of_ne (hj : j ≠ i) :
    (s.turn calls i connected clock).threads j = s.threads j :=
  Function.update_of_ne hj ..

theorem holds_of_turn (h : ((s.turn calls i connected clock).threads j).Holds p) :
    (s.threads j).Holds p ∨ (j = i ∧ s.answer calls i connected = .ok p) := by
  by_cases hj : j = i
  case pos =>
    subst hj
    rw [turn_threads_self] at h
    exact (holds_of_advance h).imp_right (⟨rfl, ·⟩)
  case neg => exact .inl (turn_threads_of_ne hj ▸ h)

end Turn

section Grounded

open PassportIssuance

variable {e e' : Service} {a : String} {p : ScopeEvaluator.Passport}

-- The passport as the evaluator receives it.
abbrev received (q : PassportIssuance.Passport) : ScopeEvaluator.Passport :=
  GrpcPassportClient.passportFromProto <| Grpc.passportToProto q

-- The engine has issued the passport to the agent.
def Issued (e : Service) (a : String) (p : ScopeEvaluator.Passport) : Prop :=
  ∃ q, e.passports.lookup p.passportId = some q ∧ q.agentId = a ∧ p = received q

-- A revocation does not show in what is received.
theorem Issued.preserved (hp : Service.Preserves e e') (h : Issued e a p) : Issued e' a p := by
  obtain ⟨q, hq, ha, hr⟩ := h
  obtain ⟨q', hq', rfl | ⟨reason, t, rfl⟩⟩ := hp.passports hq
  case inl => exact ⟨q', hq', ha, hr⟩
  case inr => exact ⟨_, hq', ha, hr⟩

theorem getAgentPassport_indexed (i : e.Consistent)
    (h : GrpcPassportClient.getAgentPassport e connected a = .ok p) :
    e.activeByAgent.lookup a = some p.passportId ∧ Issued e a p := by
  simp only [GrpcPassportClient.getAgentPassport] at h
  split at h
  case isFalse => cases h
  case isTrue  =>
    simp only [Grpc.getAgentPassport] at h
    by_cases ha : a = ""
    case pos => simp [ha] at h
    case neg =>
      rw [if_neg ha] at h
      simp only [Service.getAgentPassport] at h
      cases hl : e.activeByAgent.lookup a
      case none    => simp [hl] at h
      case some id =>
        obtain ⟨q, hq, hqa⟩ := i.indexed hl
        obtain rfl : q.passportId = id := i.keyed hq
        simp only [hl, hq, Option.getD_some] at h
        cases h
        exact ⟨rfl, q, hq, hqa, rfl⟩

-- Passports in the cache and those that calls have received are in `G`, and so are those that answers
-- are made of.
structure Supplied (G : String → ScopeEvaluator.Passport → Prop) (calls : ι → Call) (s : State ι) :
    Prop where
  cached  : ∀ {a entry}, s.evaluator.cache.entries.lookup a = some entry → G a entry.passport
  held    : ∀ {i p}, (s.threads i).Holds p → G (calls i).agentId p
  follows : ∀ i, (s.threads i).Follows (G (calls i).agentId) (calls i)

namespace Supplied

variable {G G' : String → ScopeEvaluator.Passport → Prop} {calls : ι → Call} {s : State ι}

theorem mono (hg : ∀ a p, G a p → G' a p) (h : Supplied G calls s) : Supplied G' calls s where
  cached hl := hg _ _ (h.cached hl)
  held hh   := hg _ _ (h.held hh)
  follows i := (h.follows i).mono (hg _)

theorem turn [DecidableEq ι] (h : Supplied G calls s)
    (ha : ∀ p, s.answer calls i connected = .ok p → G (calls i).agentId p) :
    Supplied G calls (s.turn calls i connected clock) where
  cached hl := by
    rcases lookup_of_advance hl with hl | ⟨rfl, hh, _⟩
    case inl => exact h.cached hl
    case inr => exact h.held hh
  held hh := by
    rcases holds_of_turn hh with hh | ⟨rfl, hp⟩
    case inl => exact h.held hh
    case inr => exact ha _ hp
  follows j := by
    by_cases hj : j = i
    case neg => rw [turn_threads_of_ne hj]; exact h.follows j
    case pos =>
      subst hj
      rw [turn_threads_self]
      exact advance_follows (h.follows j) (fun _ => h.held) fun _ _ hl _ => h.cached hl

end Supplied

theorem respond_inScope_iff {request : EvaluateScopeRequest} {p : ScopeEvaluator.Passport} :
    (request.respond now p cacheHit).inScope ↔
      now < p.expiresTs ∧ ∃ scope ∈ p.scopes, scope.Covers request now := by
  simp only [EvaluateScopeRequest.respond, ScopeEvaluatorService.matches_eq]
  simp

-- The response names a passport that the agent has been issued, and is in scope exactly if that
-- passport covers the request.
def Grounded (e : Service) (request : EvaluateScopeRequest) (resp : EvaluateScopeResponse) : Prop :=
  ∃ q, e.passports.lookup resp.passportId = some q ∧ q.agentId = request.agentId ∧
    (resp.inScope ↔ resp.evaluatedTs < q.expiresTs.unixMilli ∧
      ∃ scope ∈ (received q).scopes, scope.Covers request resp.evaluatedTs)

def Answer.Grounded (e : Service) : Call → Answer → Prop
  | .evaluateScope request,             .evaluated resp => Deployment.Grounded e request resp
  | .evaluateScopeBatch agentId checks, .batch out      =>
    List.Forall₂ (Deployment.Grounded e) (checks.map (·.toRequest agentId)) out
  | .getAgentScopeSet agentId,          .scopeSet resp  =>
    ∃ q, e.passports.lookup resp.passportId = some q ∧ q.agentId = agentId ∧
      resp.scopes = (received q).scopes
  | .invalidateCache _,                 .invalidated _  => True
  | _,                                  _               => False

theorem RespondsTo.grounded (h : RespondsTo (Issued e request.agentId) request resp) :
    Grounded e request resp := by
  obtain ⟨now, p, cacheHit, ⟨q, hq, ha, rfl⟩, rfl⟩ := h
  exact ⟨q, hq, ha, respond_inScope_iff⟩

theorem Answer.Follows.grounded {call : Call} {answer : Answer}
    (h : answer.Follows (Issued e call.agentId) call) : answer.Grounded e call := by
  cases call <;> cases answer <;> try exact h
  case evaluateScope.evaluated  => exact RespondsTo.grounded h
  case evaluateScopeBatch.batch agentId checks out =>
    refine List.forall₂_map_left_iff.mpr <| (List.forall₂_map_left_iff.mp h).imp ?_
    intro check resp (hr : RespondsTo (Issued e (check.toRequest agentId).agentId) _ _)
    exact hr.grounded
  case getAgentScopeSet.scopeSet =>
    obtain ⟨p, cacheHit, ⟨q, hq, ha, rfl⟩, rfl⟩ := h
    exact ⟨q, hq, ha, rfl⟩

variable [Sha256] [DecidableEq ι] {calls : ι → Call} {s : State ι}

-- Nothing has happened yet.
def initial (ι : Type*) (policyBundles ledger : Bool) (maxEntries ttlSeconds : Nat) (threshold : UInt32)
    (clock : Int) : State ι where
  engine    := .new policyBundles ledger
  evaluator := .new maxEntries ttlSeconds threshold
  clock     := clock

theorem run_supplied (r : Transition.Run (system calls) g (initial ι b l m ttl th t) s) :
    s.engine.Consistent ∧ Supplied (Issued s.engine) calls s := by
  refine r.invariant (P := fun s => s.engine.Consistent ∧ Supplied (Issued s.engine) calls s) ?_ ?_
  case refine_1 =>
    intro s e ⟨i, h⟩ ha hg
    cases e
    case turn      => exact ⟨i, h.turn fun p hp => (getAgentPassport_indexed i hp).right⟩
    case engine op =>
      have hp : Service.Preserves s.engine (engine.step s.engine op) := Service.step_preserves i ha
      have h := h.mono fun _ _ => Issued.preserved hp
      exact ⟨Service.step_consistent i ha, h.cached, h.held, h.follows⟩
  case refine_2 =>
    refine ⟨Indexed.empty, ⟨fun hl => ?_, fun hh => ?_, fun _ => trivial⟩⟩
    case refine_1 => cases hl
    case refine_2 => cases hh

-- However calls and changes of the engine are interleaved, and whatever the cache holds.
theorem run_scope_grounded
    (r : Transition.Run (system calls) .any (initial ι b l m ttl th t) s)
    (h : s.threads i = .returned (.ok answer)) : answer.Grounded s.engine (calls i) := by
  have hf := (run_supplied r).right.follows i
  rw [h] at hf
  exact hf.grounded

end Grounded

namespace Sample

open PassportIssuance.Service
open scoped Sha256.Standard

def calls (late : Bool) : Call :=
  if late then
    .evaluateScopeBatch "agent-1"
      [⟨"b-1", "READ", "data/users", ∅⟩, ⟨"b-2", "WRITE", "data/users", ∅⟩]
  else
    .evaluateScope sampleRequest

def issue (passportId : String) : Event Bool :=
  .engine <| sampleIssue "agent-1" passportId "pub-local"

-- A call has enough turns to return, unless it is the batch.
def turns (late : Bool) (n : Nat) (monotonic : Int) : List (Event Bool) :=
  .replicate n <| .turn late true ⟨1700000002000, monotonic⟩

abbrev start : State Bool :=
  initial Bool true true 500 60 5 0

-- The second response of the batch is made of the cache.
def evaluated : List (Event Bool) :=
  issue "p-1" :: turns true 7 0

def response (evaluationId : String) (scopeMatches : List ScopeMatch) (misses : List ScopeMiss)
    (passportId : String) (cacheHit : Bool) : EvaluateScopeResponse where
  evaluationId      := evaluationId
  agentId           := "agent-1"
  inScope           := !scopeMatches.isEmpty
  scopeMatches      := scopeMatches
  misses            := misses
  passportId        := passportId
  passportType      := "STANDARD"
  passportExpiresTs := 1700003600000
  passportExpired   := false
  cacheHit          := cacheHit
  evaluatedTs       := 1700000002000

def answer (passportId : String) : Answer :=
  .batch
    [response "b-1" [⟨"scope-1", "READ", "data/**", false, 1800000000000⟩] [] passportId false,
      response "b-2" [] [⟨"scope-1", "READ", "ACTION_CLASS_MISMATCH"⟩] passportId true]

theorem batch_grounded :
    (answer "p-1").Grounded (Transition.exec (system calls) start evaluated).engine (calls true) := by
  have h : (Transition.exec (system calls) start evaluated).threads true =
      .returned (.ok (answer "p-1")) := by decide +kernel
  exact run_scope_grounded (.ofSchedule evaluated (by decide +kernel)) h

end Sample

section Withdrawn

open PassportIssuance

variable {s s₁ s₂ s₃ : State ι} {e : Event ι} {id : String} {ttl t : Int}

-- A call that revokes a passport in order to replace it also gets to the end.
def Completes : Transition.Guard (State ι) (Event ι)
  | s, .engine op => op.Completes s.engine
  | _, _          => True

instance (s : State ι) : (e : Event ι) → Decidable (Completes s e)
  | .engine op => inferInstanceAs <| Decidable (op.Completes s.engine)
  | .turn ..   => .isTrue trivial

structure Timely (ttl : Int) (s : State ι) : Prop where
  consistent : s.engine.Consistent
  current    : s.engine.Current
  limit      : s.evaluator.cache.ttl = ttl
  past       : ∀ {a entry}, s.evaluator.cache.entries.lookup a = some entry → entry.cachedAt ≤ s.clock

-- The passport is only left in the cache, where it has been since `t` at the latest.
structure Withdrawn (id : String) (t : Int) (s : State ι) : Prop where
  revoked : ∃ q, s.engine.passports.lookup id = some q ∧ q.status = .revoked
  cached  : ∀ {a entry}, s.evaluator.cache.entries.lookup a = some entry →
              entry.passport.passportId = id → entry.cachedAt ≤ t
  held    : ∀ {i p}, (s.threads i).Holds p → p.passportId ≠ id

theorem Withdrawn.not_fetched (h : Withdrawn id t s) (ht : Timely ttl s)
    (hp : GrpcPassportClient.getAgentPassport s.engine connected a = .ok p) : p.passportId ≠ id := by
  rintro rfl
  obtain ⟨q, hq, hr⟩ := h.revoked
  obtain ⟨q', hq', ha⟩ := ht.current _ _ (getAgentPassport_indexed ht.consistent hp).left
  cases hq.symm.trans hq'
  cases hr.symm.trans ha

variable [Sha256] [DecidableEq ι] {calls : ι → Call}

theorem clock_le_step (ha : Allows s e) : s.clock ≤ ((system calls).step s e).clock := by
  cases e
  case engine => exact le_rfl
  case turn   => exact ha

theorem Timely.step (h : Timely ttl s) (ha : Allows s e) (hc : Completes s e) :
    Timely ttl ((system calls).step s e) := by
  cases e
  case engine op =>
    exact ⟨Service.step_consistent h.consistent ha, Service.step_current h.consistent h.current ha hc,
      h.limit, h.past⟩
  case turn i connected clock =>
    refine ⟨h.consistent, h.current, ttl_advance.trans h.limit, fun hl => ?_⟩
    rcases lookup_of_advance hl with hl | ⟨_, _, ht⟩
    case inl => exact (h.past hl).trans ha
    case inr => exact ht.le

theorem Withdrawn.step (h : Withdrawn id t s) (ht : Timely ttl s) (ha : Allows s e) :
    Withdrawn id t ((system calls).step s e) := by
  cases e
  case engine op =>
    refine ⟨?_, h.cached, h.held⟩
    obtain ⟨q, hq, hr⟩ := h.revoked
    obtain ⟨q', hq', rfl | ⟨_, _, rfl⟩⟩ := (Service.step_preserves ht.consistent ha).passports hq
    case inl => exact ⟨q', hq', hr⟩
    case inr => exact ⟨_, hq', rfl⟩
  case turn i connected clock =>
    refine ⟨h.revoked, fun hl hi => ?_, fun hh => ?_⟩
    case refine_1 =>
      rcases lookup_of_advance hl with hl | ⟨_, hh, _⟩
      case inl => exact h.cached hl hi
      case inr => exact absurd hi (h.held hh)
    case refine_2 =>
      rcases holds_of_turn hh with hh | ⟨_, hp⟩
      case inl => exact h.held hh
      case inr => exact h.not_fetched ht hp

-- Later than the time to live, no call gets the passport out of the cache.
theorem Withdrawn.follows (h : Withdrawn id t s) (ht : Timely ttl s) (hl : t + ttl < s.clock)
    (hf : (s.threads j).Follows (·.passportId ≠ id) (calls j)) (ha : Allows s e) :
    (((system calls).step s e).threads j).Follows (·.passportId ≠ id) (calls j) := by
  cases e
  case engine                 => exact hf
  case turn i connected clock =>
    by_cases hj : j = i
    case neg => exact (turn_threads_of_ne hj).symm ▸ hf
    case pos =>
      subst hj
      have h₂ : s.clock ≤ clock.monotonic := ha
      have hc : ∀ p t', s.evaluator.cache.entries.lookup (calls j).agentId = some ⟨p, t'⟩ →
          clock.monotonic - t' ≤ s.evaluator.cache.ttl → p.passportId ≠ id := by
        intro p t' hc hk hi
        have h₁ : t' ≤ t := h.cached hc hi
        rw [ht.limit] at hk
        omega
      simp only [system, turn_threads_self]
      exact advance_follows hf (fun _ => h.held) hc

-- The passports that an answer names.
def Answer.passportIds : Answer → List String
  | .evaluated resp => [resp.passportId]
  | .batch out      => out.map (·.passportId)
  | .scopeSet resp  => [resp.passportId]
  | .invalidated _  => []

omit [Sha256] [DecidableEq ι] in
theorem Answer.Follows.exists_of_mem {G : ScopeEvaluator.Passport → Prop} {call : Call}
    {answer : Answer} (h : answer.Follows G call) (hm : id ∈ answer.passportIds) :
    ∃ p, G p ∧ p.passportId = id := by
  cases call <;> cases answer <;> try exact h.elim
  case evaluateScope.evaluated =>
    obtain ⟨_, p, _, hp, rfl⟩ := h
    exact ⟨p, hp, (List.mem_singleton.mp hm).symm⟩
  case evaluateScopeBatch.batch =>
    obtain ⟨resp, hr, rfl⟩ := List.mem_map.mp hm
    obtain ⟨_, _, _, p, _, hp, rfl⟩ := List.Forall₂.exists_of_mem h hr
    exact ⟨p, hp, rfl⟩
  case getAgentScopeSet.scopeSet =>
    obtain ⟨p, _, hp, rfl⟩ := h
    exact ⟨p, hp, (List.mem_singleton.mp hm).symm⟩
  case invalidateCache.invalidated => cases hm

-- What is kept from the revocation on.
theorem Withdrawn.run (h : Withdrawn id t s₁) (ht : Timely ttl s₁)
    (r : Transition.Run (system calls) Completes s₁ s₂) : Timely ttl s₂ ∧ Withdrawn id t s₂ :=
  r.invariant (P := fun s => Timely ttl s ∧ Withdrawn id t s)
    (fun h a c => ⟨h.left.step a c, h.right.step h.left a⟩) ⟨ht, h⟩

-- A passport is out of use once its time in the cache has passed since the revocation, unless a call has
-- fetched it before and not yet stored it.
theorem run_revocation_takes_effect {ttlSeconds : Nat}
    (r₁ : Transition.Run (system calls) Completes (initial ι b l m ttlSeconds th t) s₁)
    (hr : ∃ q, s₁.engine.passports.lookup id = some q ∧ q.status = .revoked)
    (hn : ∀ i p, (s₁.threads i).Holds p → p.passportId ≠ id)
    (r₂ : Transition.Run (system calls) Completes s₁ s₂)
    (ht : s₁.clock + ttlSeconds * 1000000000 < s₂.clock) (hj : s₂.threads j = .start)
    (r₃ : Transition.Run (system calls) Completes s₂ s₃)
    (ha : s₃.threads j = .returned (.ok answer)) : id ∉ answer.passportIds := by
  have h₁ : Timely (ttlSeconds * 1000000000) s₁ := by
    refine r₁.invariant Timely.step ⟨Indexed.empty, fun a id h => ?_, rfl, fun h => ?_⟩
    case refine_1 => simp [initial, Service.new] at h
    case refine_2 => cases h
  have hw : Withdrawn id s₁.clock s₁ := ⟨hr, fun hl _ => h₁.past hl, hn _ _⟩
  have h₃ := r₃.invariant (P := fun s =>
    (Timely (ttlSeconds * 1000000000) s ∧ Withdrawn id s₁.clock s) ∧
    s₁.clock + ttlSeconds * 1000000000 < s.clock ∧
    (s.threads j).Follows (·.passportId ≠ id) (calls j)) ?step ⟨hw.run h₁ r₂, ht, hj ▸ trivial⟩
  case step =>
    intro s e h a c
    obtain ⟨⟨h, hw⟩, ht, hf⟩ := h
    exact ⟨⟨h.step a c, hw.step h a⟩, ht.trans_le (clock_le_step a), hw.follows h ht hf a⟩
  have hf := h₃.right.right
  rw [ha] at hf
  intro hm
  obtain ⟨p, hp, hi⟩ := Answer.Follows.exists_of_mem hf hm
  exact hp hi

end Withdrawn

namespace Sample

open PassportIssuance
open scoped Sha256.Standard

def revoking : List (Event Bool) :=
  issue "p-1" :: turns false 6 0 ++ [.engine <| .revokePassport "p-1" "compromised" "admin" 0]

-- The agent gets another passport. The first call has returned, so that only time passes in its turn.
def waiting : List (Event Bool) :=
  issue "p-2" :: turns false 1 60000000001

abbrev revoked : State Bool :=
  Transition.exec (system calls) start revoking

abbrev waited : State Bool :=
  Transition.exec (system calls) revoked waiting

theorem revoked_threads : revoked.threads false = .returned (.ok (.evaluated sampleAnswer)) ∧
    revoked.threads true = .start := by
  decide +kernel

theorem revoked_not_named :
    (Transition.exec (system calls) waited <| turns true 7 60000000002).threads true =
      .returned (.ok (answer "p-2")) ∧ "p-1" ∉ (answer "p-2").passportIds := by
  have h : (Transition.exec (system calls) waited <| turns true 7 60000000002).threads true =
      .returned (.ok (answer "p-2")) := by decide +kernel
  have hr : (revoked.engine.passports.lookup "p-1").map (·.status) = some .revoked := by
    decide +kernel
  refine ⟨h, run_revocation_takes_effect (.ofSchedule revoking ?_) (Option.map_eq_some_iff.mp hr) ?_
    (.ofSchedule waiting ?_) ?_ ?_ (.ofSchedule (turns true 7 60000000002) ?_) h⟩
  case refine_2 =>
    rintro (_ | _) p hp
    case false => rw [revoked_threads.left] at hp; cases hp
    case true  => rw [revoked_threads.right] at hp; cases hp
  all_goals decide +kernel

end Sample

end Deployment

end ScopeEvaluator
