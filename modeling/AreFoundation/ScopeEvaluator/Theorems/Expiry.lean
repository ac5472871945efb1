import AreFoundation.PassportIssuance.Theorems.Validity
import AreFoundation.ScopeEvaluator.Theorems.Decision
import AreFoundation.ScopeEvaluator.Theorems.Revocation

namespace PassportIssuance

open Transition Calendar

namespace Service

-- No stored passport is ever given the status `expired`.
def ActiveOrRevoked (passports : HashMap String Passport) : Prop :=
  ∀ id p, passports.lookup id = some p → p.status = .active ∨ p.status = .revoked

theorem ActiveOrRevoked.insert {passports : HashMap String Passport} {id : String} {p : Passport}
    (h : ActiveOrRevoked passports)
    (hp : p.status = .active ∨ p.status = .revoked) : ActiveOrRevoked (passports.insert id p) := by
  intro id' p' hl
  rw [HashMap.lookup_insert] at hl
  split at hl
  case isTrue  => cases hl; exact hp
  case isFalse => exact h id' p' hl

variable {s : Service} {id : String} {p : Passport}

theorem RevokePassport.activeOrRevoked (h : ActiveOrRevoked s.passports)
    (hr : s.RevokePassport id reason t s') : ActiveOrRevoked s'.passports := by
  cases hr
  case unchanged => exact h
  case current   => exact h.insert (.inr rfl)
  case other     => exact h.insert (.inr rfl)

variable [Sha256] {input : IssueInput} {env : IssueEnv} {op : Op}

theorem IssueNew.activeOrRevoked (h : ActiveOrRevoked s.passports) (hn : s.IssueNew input env r) :
    ActiveOrRevoked r.2.passports := by
  cases hn
  case issued => exact h.insert (.inl rfl)
  all_goals exact h

theorem step_activeOrRevoked (h : ActiveOrRevoked s.passports) :
    ActiveOrRevoked (engine.step s op).passports := by
  cases op
  case revokePassport => exact (s.revokePassport_cases ..).activeOrRevoked h
  case issuePassport input env =>
    have hi := s.issuePassport_cases input env
    simp only [engine]
    generalize s.issuePassport input env = r at hi
    cases hi
    case refused    => exact h
    case first hn   => exact hn.activeOrRevoked h
    case reissue hn => exact hn.activeOrRevoked <| h.insert (.inr rfl)

theorem run_activeOrRevoked (r : Run engine g (.new b l) s) : ActiveOrRevoked s.passports :=
  r.invariant (P := fun s => ActiveOrRevoked s.passports) (fun h _ _ => step_activeOrRevoked h)
    fun id p h => by simp [new] at h

end Service

end PassportIssuance

namespace ScopeEvaluator

open PassportIssuance Transition Calendar GrpcPassportClient

variable {s : Service} {id : String} {p : PassportIssuance.Passport}

theorem verifyPassportBy_expired_iff (h : s.passports.lookup id = some p) (ha : p.status = .active) :
    (s.verifyPassportBy verify id payload signature t).reason = "expired" ↔ p.expiresTs < t := by
  simp only [Service.verifyPassportBy, Service.getPassport, h, ha]
  by_cases ht : p.expiresTs < t
  case pos => simp [ht]
  case neg =>
    simp only [ht, reduceCtorEq, or_self, if_false, iff_false]
    split <;> simp

variable {svc : ScopeEvaluatorService} {request : EvaluateScopeRequest}
variable {clock : ScopeEvaluatorService.Clock} {fetched : Except ScopeError ScopeEvaluator.Passport}

theorem evaluateScope_passportExpired {q : ScopeEvaluator.Passport} (hr : request.Complete)
    (hq : (svc.getOrFetchPassport request.agentId clock.monotonic fetched).1 = .ok (q, cacheHit)) :
    ∃ resp, (svc.evaluateScope request clock fetched).1 = .ok resp ∧
      (resp.passportExpired ↔ q.expiresTs ≤ clock.millis) := by
  generalize hf : svc.getOrFetchPassport request.agentId clock.monotonic fetched = f at hq
  cases f
  cases hq
  simp only [ScopeEvaluatorService.evaluateScope, if_neg hr.not_invalid, hf]
  exact ⟨_, rfl, decide_eq_true_iff⟩

-- Truncation to milliseconds moves an instant back by less than one.
theorem lt_iff_millis_le_iff (t expires : Int) :
    (expires < t ↔ expires / 1000000 ≤ t / 1000000) ↔
      ¬(t / 1000000 = expires / 1000000 ∧ t ≤ expires) := by
  constructor
  case mp =>
    intro h ⟨same, before⟩
    have := h.mpr (by omega)
    omega
  case mpr =>
    intro h
    refine ⟨fun after => by omega, fun reached => ?_⟩
    by_contra before
    exact h ⟨by omega, by omega⟩

theorem expiry_agrees_iff [Sha256] (r : Run engine .any (.new b l) s)
    (h : s.passports.lookup id = some p) (hs : p.status ≠ .revoked) (hr : request.Complete)
    (hq : (svc.getOrFetchPassport request.agentId clock.monotonic fetched).1 =
      .ok (passportFromProto (Grpc.passportToProto p), cacheHit))
    (t : Instant) (ht : clock.millis = t.unixMilli)
    (verify : String → List UInt8 → List UInt8 → Option Bool) (payload signature : List UInt8) :
    ∃ resp, (svc.evaluateScope request clock fetched).1 = .ok resp ∧
      (((s.verifyPassportBy verify id payload signature t).reason = "expired" ↔
          resp.passportExpired) ↔
        ¬(t.unixMilli = p.expiresTs.unixMilli ∧ t ≤ p.expiresTs)) := by
  obtain ⟨resp, ok, expired⟩ := evaluateScope_passportExpired hr hq
  have active := (Service.run_activeOrRevoked r id p h).resolve_right hs
  refine ⟨resp, ok, ?_⟩
  rw [expired, verifyPassportBy_expired_iff h active, ht]
  exact lt_iff_millis_le_iff t p.expiresTs

section Sample

open scoped Sha256.Standard
open Service

def issuedRun : Run engine .any (.new true true) firstIssued :=
  .ofSchedule [Op.issuePassport (sampleInput "agent-1" false) firstEnv] (by decide +kernel)

-- The end of the passport.
def endClock : ScopeEvaluatorService.Clock := ⟨1700003600000, 0⟩

theorem lookup_firstIssued : firstIssued.passports.lookup "p-1" = some firstPassport := by
  decide +kernel

-- One nanosecond after the end of the passport both report that it is expired.
theorem expiry_agrees_after :
    ∃ resp, (sampleEvaluator.evaluateScope sampleRequest endClock
        (.ok <| passportFromProto <| Grpc.passportToProto firstPassport)).1 = .ok resp ∧
      ((firstIssued.verifyPassportBy firstVerify "p-1" [] [] 1700003600000000001).reason = "expired" ↔
        resp.passportExpired) := by
  have seen : (sampleEvaluator.getOrFetchPassport sampleRequest.agentId endClock.monotonic
      (.ok <| passportFromProto <| Grpc.passportToProto firstPassport)).1 =
        .ok (passportFromProto <| Grpc.passportToProto firstPassport, false) := rfl
  obtain ⟨resp, ok, agrees⟩ := expiry_agrees_iff issuedRun lookup_firstIssued (by decide)
    sampleRequest_complete seen 1700003600000000001 (by decide) firstVerify [] []
  exact ⟨resp, ok, agrees.mpr (by decide)⟩

-- At the end of the passport only the evaluator does.
theorem expiry_differs_at_end :
    Nonempty (Run engine .any (.new true true) firstIssued) ∧
    firstIssued.passports.lookup "p-1" = some firstPassport ∧
    firstPassport.expiresTs = 1700003600000000000 ∧
    (firstIssued.verifyPassport "p-1" ((sampleInput "agent-1" false).payload sampleTime)
      firstPassport.signature ⟨1700003600000000000, false⟩).valid ∧
    (evaluate sampleEvaluator firstIssued true sampleRequest endClock).toOption.map
      (·.passportExpired) = some true :=
  ⟨⟨issuedRun⟩, lookup_firstIssued, by decide +kernel, by decide +kernel, by decide +kernel⟩

end Sample

end ScopeEvaluator
