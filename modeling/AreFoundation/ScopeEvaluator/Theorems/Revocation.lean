import AreFoundation.PassportIssuance.Theorems.Issuance
import AreFoundation.ScopeEvaluator.GrpcPassport
import AreFoundation.ScopeEvaluator.Theorems.Decision

namespace PassportIssuance

open Transition

-- The passport that the index holds for an agent, if there is one, is active.
def CurrentOf (passports : HashMap String Passport) (activeByAgent : HashMap String String)
    (a : String) : Prop :=
  ∀ id, activeByAgent.lookup a = some id → ∃ p, passports.lookup id = some p ∧ p.status = .active

namespace CurrentOf

variable {passports : HashMap String Passport} {activeByAgent : HashMap String String}
variable {p q : Passport} {a id : String}

theorem insert_other (c : CurrentOf passports activeByAgent a)
    (hn : activeByAgent.lookup a ≠ some id) :
    CurrentOf (passports.insert id q) activeByAgent a := by
  intro id' h
  have ⟨p', hp', hs'⟩ := c id' h
  have hne : id' ≠ id := (hn <| · ▸ h)
  exact ⟨p', by simp [hne, hp'], hs'⟩

theorem erase (c : a ≠ a' → CurrentOf passports activeByAgent a) :
    CurrentOf passports (activeByAgent.erase a') a := by
  intro id h
  rw [HashMap.lookup_erase] at h
  split at h
  case isTrue     => cases h
  case isFalse ha => exact c ha id h

theorem insert_new (c : a ≠ p.agentId → CurrentOf passports activeByAgent a)
    (hs : p.status = .active) (hf : p.passportId ∉ passports) :
    CurrentOf (passports.insert p.passportId p) (activeByAgent.insert p.agentId p.passportId) a := by
  intro id h
  rw [HashMap.lookup_insert] at h
  split at h
  case isTrue =>
    cases Option.some.inj h
    exact ⟨p, by simp, hs⟩
  case isFalse ha =>
    have ⟨p', hp', hs'⟩ := c ha id h
    have hne := HashMap.ne_of_lookup_of_not_mem hp' hf
    exact ⟨p', by simp [hne, hp'], hs'⟩

end CurrentOf

namespace Service

def Current (s : Service) : Prop :=
  ∀ a, CurrentOf s.passports s.activeByAgent a

theorem RevokePassport.keeps_current {s : Service} {id : String} (i : s.Consistent) (c : s.Current)
    (h : s.RevokePassport id reason t s') : s'.Current := by
  cases h
  case unchanged    => exact c
  case current hp _ =>
    intro a
    exact .erase fun ha => (c a).insert_other fun h => ha (i.agentId_eq hp h).symm
  case other hp hl  =>
    intro a
    exact (c a).insert_other fun h => hl <| (i.agentId_eq hp h).symm ▸ h

-- Only the agent whose passport is replaced is left without an active passport.
theorem supersede_current {s : Service} (i : s.Consistent) (c : s.Current)
    (h : s.activeByAgent.lookup a = some currentId) (ha : a' ≠ a) :
    CurrentOf (s.supersede currentId t).passports (s.supersede currentId t).activeByAgent a' := by
  have ⟨p, hp, hpa⟩ := i.indexed h
  exact (c a').insert_other fun h' => ha <| (i.agentId_eq hp h').symm.trans hpa

end Service

-- A call that revokes a passport in order to replace it also gets to the end.
def Op.Completes (s : Service) : Op → Prop
  | issuePassport input env => ¬(s.Supersedes input env ∧ s.DependencyFails input env)
  | revokePassport _ _ _ _  => True

instance : Decidable (Service.Supersedes s input env) :=
  decidable_of_iff
    (input.check env.agentStatus = .ok () ∧ s.activeByAgent.lookup input.agentId ≠ none ∧
      input.forceReissue)
    ⟨fun ⟨hc, hl, hf⟩ => ⟨hc, hl, hf⟩, fun h => ⟨h.checked, h.current, h.forced⟩⟩

instance : Decidable (Service.DependencyFails s input env) :=
  inferInstanceAs <| Decidable (_ ∨ _)

instance (s : Service) : (op : Op) → Decidable (op.Completes s)
  | .issuePassport _ _      => inferInstanceAs <| Decidable ¬(_ ∧ _)
  | .revokePassport _ _ _ _ => .isTrue trivial

namespace Service

variable [Sha256] {s : Service} {input : IssueInput} {env : IssueEnv} {op : Op}

theorem issuePassport_current (i : s.Consistent) (c : s.Current) (hf : env.passportId ∉ s.passports)
    (hg : ¬(s.Supersedes input env ∧ s.DependencyFails input env))
    (h : s.IssuePassport input env r) : r.2.Current := by
  cases h
  case refused  => exact c
  case first hn =>
    cases hn
    case unsigned  => exact c
    case unbundled => exact c
    case issued    => exact fun a => .insert_new (fun _ => c a) rfl hf
  case reissue hc hl hr hn =>
    have hs : s.Supersedes input env := ⟨hc, by simp [hl], hr⟩
    obtain ⟨_, _, rfl⟩ := hn.issued_of_not_dependencyFails fun hd => hg ⟨hs, hd⟩
    exact fun a => .insert_new (supersede_current i c hl) rfl <| supersede_fresh i hl hf

theorem step_current (i : s.Consistent) (c : s.Current) (ha : engine.allows s op)
    (hg : op.Completes s) : (engine.step s op).Current := by
  cases op
  case issuePassport input env =>
    exact issuePassport_current i c ha hg <| s.issuePassport_cases input env
  case revokePassport => exact (s.revokePassport_cases ..).keeps_current i c

theorem run_current (r : Run engine (fun s op => op.Completes s) (.new b l) s) :
    s.Consistent ∧ s.Current := by
  refine r.invariant (P := fun s => s.Consistent ∧ s.Current) ?_ ⟨Indexed.empty, ?_⟩
  case refine_1 => exact fun ⟨i, c⟩ ha hg => ⟨step_consistent i ha, step_current i c ha hg⟩
  case refine_2 => exact fun a id h => by simp [new] at h

end Service

end PassportIssuance

namespace ScopeEvaluator

open PassportIssuance Transition

theorem PassportCache.get_of_empty {cache : PassportCache} (h : cache.entries = ∅) :
    cache.get agentId now = (none, cache) := by
  simp [get, h]

namespace ScopeEvaluatorService

variable {svc : ScopeEvaluatorService} {request : EvaluateScopeRequest} {clock : Clock}
variable {fetched : Except ScopeError ScopeEvaluator.Passport}

theorem getOrFetchPassport_of_empty (he : svc.cache.entries = ∅)
    (h : (svc.getOrFetchPassport agentId now fetched).1 = .ok (p, cacheHit)) : fetched = .ok p := by
  simp only [getOrFetchPassport, PassportCache.get_of_empty he] at h
  split at h
  case isTrue  => cases h
  case isFalse =>
    split at h
    case _ => exact congrArg Except.ok (Prod.mk.inj <| Except.ok.inj h).left
    case _ => cases h

theorem evaluateScope_ok (h : (svc.evaluateScope request clock fetched).1 = .ok resp) :
    ∃ p cacheHit, (svc.getOrFetchPassport request.agentId clock.monotonic fetched).1 =
      .ok (p, cacheHit) ∧ resp.passportId = p.passportId := by
  simp only [evaluateScope] at h
  split at h
  case isTrue  => cases h
  case isFalse =>
    split at h
    case _               => cases h
    case _ p cacheHit _ hf =>
      exact ⟨p, cacheHit, congrArg Prod.fst hf, Except.ok.inj h ▸ rfl⟩

end ScopeEvaluatorService

-- A fetched passport has the identifier of the one that the engine has in its index.
theorem GrpcPassportClient.getAgentPassport_ok {s : Service}
    (h : getAgentPassport s connected agentId = .ok p) :
    ∃ q, s.getAgentPassport agentId = .ok q ∧ p.passportId = q.passportId := by
  simp only [getAgentPassport] at h
  split at h
  case isFalse => cases h
  case isTrue  =>
    simp only [Grpc.getAgentPassport] at h
    by_cases ha : agentId = ""
    case pos => simp [ha] at h
    case neg =>
      rw [if_neg ha] at h
      cases hq : s.getAgentPassport agentId
      case error => simp [hq] at h
      case ok q  =>
        rw [hq] at h
        exact ⟨q, rfl, Except.ok.inj h ▸ rfl⟩

-- The answer of an evaluator that is connected to a passport engine in state `s`.
def evaluate (svc : ScopeEvaluatorService) (s : Service) (connected : Bool)
    (request : EvaluateScopeRequest) (clock : ScopeEvaluatorService.Clock) :
    Except ScopeError EvaluateScopeResponse :=
  svc.evaluateScope request clock
    (GrpcPassportClient.getAgentPassport s connected request.agentId) |>.1

theorem evaluate_current {s : Service} (i : s.Consistent) (c : s.Current)
    (he : svc.cache.entries = ∅) (h : evaluate svc s connected request clock = .ok resp) :
    ∃ p, s.passports.lookup resp.passportId = some p ∧ p.status = .active := by
  have ⟨p, _, hf, hr⟩ := ScopeEvaluatorService.evaluateScope_ok h
  have hg := ScopeEvaluatorService.getOrFetchPassport_of_empty he hf
  have ⟨q, hq, hp⟩ := GrpcPassportClient.getAgentPassport_ok hg
  simp only [Service.getAgentPassport] at hq
  split at hq
  case _       => cases hq
  case _ id hl =>
    have ⟨q', hq', hs⟩ := c _ id hl
    rw [hq'] at hq
    cases hq
    refine ⟨q', ?_, hs⟩
    rw [hr, hp, Option.getD_some, i.keyed hq']
    exact hq'

theorem run_inScope_active [Sha256]
    (r : Run engine (fun s op => op.Completes s) (.new b l) s) (he : svc.cache.entries = ∅) :
    ∀ resp, evaluate svc s connected request clock = .ok resp → resp.inScope →
      ∃ p, s.passports.lookup resp.passportId = some p ∧ p.status = .active := by
  intro resp h _
  have ⟨i, c⟩ := Service.run_current r
  exact evaluate_current i c he h

section Sample

open scoped Sha256.Standard
open Service

def sampleEvaluator : ScopeEvaluatorService := .new 500 60 5

def sampleClock : ScopeEvaluatorService.Clock := ⟨1700000002000, 0⟩

def sampleAnswer : EvaluateScopeResponse where
  evaluationId      := "e-1"
  agentId           := "agent-1"
  inScope           := true
  scopeMatches      := [⟨"scope-1", "READ", "data/**", false, 1800000000000⟩]
  misses            := []
  passportId        := "p-1"
  passportType      := "STANDARD"
  passportExpiresTs := 1700003600000
  passportExpired   := false
  cacheHit          := false
  evaluatedTs       := 1700000002000

def firstSchedule : List Op := [sampleIssue "agent-1" "p-1" "pub-local"]

def failedReissue : Op := .issuePassport (sampleInput "agent-1" true) failingEnv

-- The first passport of the agent is revoked before the second one is issued.
def replacedSchedule : List Op :=
  [sampleIssue "agent-1" "p-0" "pub-local",
    .revokePassport "p-0" "leaked" "security" 1700000001000000000,
    sampleIssue "agent-1" "p-1" "pub-local"]

theorem run_inScope_active_replaced :
    ((exec engine (.new true true) replacedSchedule).passports.lookup "p-0").map (·.status) =
      some .revoked ∧
    evaluate sampleEvaluator (exec engine (.new true true) replacedSchedule) true sampleRequest
      sampleClock = .ok sampleAnswer ∧
    ∃ p, (exec engine (.new true true) replacedSchedule).passports.lookup "p-1" = some p ∧
      p.status = .active := by
  have h : evaluate sampleEvaluator (exec engine (.new true true) replacedSchedule) true sampleRequest
      sampleClock = .ok sampleAnswer := by decide +kernel
  refine ⟨by decide +kernel, h, ?_⟩
  exact run_inScope_active (.ofSchedule replacedSchedule (by decide +kernel)) rfl _ h rfl

-- The passport is revoked by a forced reissue that fails to get a signature for its replacement.
theorem revoked_passport_in_scope :
    ∃ s : Service, Nonempty (Run engine .any (.new true true) s) ∧
      (s.passports.lookup "p-1").map (·.status) = some .revoked ∧
      evaluate sampleEvaluator s true sampleRequest sampleClock = .ok sampleAnswer := by
  refine ⟨exec _ _ (firstSchedule ++ [failedReissue]), ⟨.ofSchedule _ ?_⟩, ?_⟩ <;> decide +kernel

end Sample

end ScopeEvaluator
