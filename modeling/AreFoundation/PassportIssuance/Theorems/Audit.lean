import Mathlib.Data.Set.Insert
import AreFoundation.PassportIssuance.Theorems.Issuance

namespace PassportIssuance

open Transition

def revokedIds (passports : HashMap String Passport) : Set String :=
  { id | ∃ p, passports.lookup id = some p ∧ p.status = .revoked }

-- The passports that the events report as revoked.
def reportedIds (events : List LifecycleEvent) : Set String :=
  { id | ∃ e ∈ events, e.eventType = .passportRevoked ∧ e.passportId = id }

section Sets

variable {passports : HashMap String Passport} {p : Passport} {id : String}
variable {events : List LifecycleEvent}

theorem revokedIds_insert_revoke (passports : HashMap String Passport) (p : Passport) :
    revokedIds (passports.insert id <| p.revoke reason t) = insert id (revokedIds passports) := by
  ext id'
  simp only [revokedIds, Set.mem_ofPred_eq, Set.mem_insert_iff, HashMap.lookup_insert]
  by_cases h : id' = id
  case pos => simp [h, Passport.revoke]
  case neg => simp [h]

theorem revokedIds_insert_new (hf : p.passportId ∉ passports) (hs : p.status = .active) :
    revokedIds (passports.insert p.passportId p) = revokedIds passports := by
  ext id'
  simp only [revokedIds, Set.mem_ofPred_eq, HashMap.lookup_insert]
  by_cases h : id' = p.passportId
  case pos =>
    subst h
    simp [hs, Finmap.lookup_eq_none.mpr hf]
  case neg => simp [h]

@[simp]
theorem reportedIds_append_revoked :
    reportedIds (events ++ [⟨.passportRevoked, a, id, reason⟩]) = insert id (reportedIds events) := by
  ext id'
  simp [reportedIds, or_and_right, exists_or, or_comm, eq_comm]

@[simp]
theorem reportedIds_append_issued :
    reportedIds (events ++ [⟨.passportIssued, a, id, reason⟩]) = reportedIds events := by
  ext id'
  simp [reportedIds, or_and_right, exists_or]

end Sets

inductive Sink
  | outbox
  | ledger

namespace Service

def sent (s : Service) : Sink → Option (List LifecycleEvent)
  | .outbox => some s.outbox
  | .ledger => s.ledger

-- The sink has been told about the revoked passports and about no other ones.
def Reports (s : Service) (sink : Sink) : Prop :=
  ∃ events, s.sent sink = some events ∧ revokedIds s.passports = reportedIds events

variable {s s' : Service} {sink : Sink} {id : String} {p : Passport}

theorem new_reports_outbox : (new b l).Reports .outbox :=
  ⟨[], rfl, by simp [new, revokedIds, reportedIds]⟩

theorem new_reports_ledger : (new b true).Reports .ledger :=
  ⟨[], rfl, by simp [new, revokedIds, reportedIds]⟩

theorem Reports.revoked (h : s.Reports sink)
    (hp : s'.passports = s.passports.insert id (p.revoke reason t))
    (he : s'.sent sink = (s.sent sink).map (· ++ [⟨.passportRevoked, a, id, reason'⟩])) :
    s'.Reports sink := by
  have ⟨events, hs, hr⟩ := h
  rw [hs] at he
  refine ⟨_, he, ?_⟩
  rw [hp, revokedIds_insert_revoke, hr, reportedIds_append_revoked]

theorem Reports.issued (h : s.Reports sink) (hf : p.passportId ∉ s.passports)
    (hs : p.status = .active) (hp : s'.passports = s.passports.insert p.passportId p)
    (he : s'.sent sink = (s.sent sink).map (· ++ [⟨.passportIssued, a, id, reason⟩])) :
    s'.Reports sink := by
  have ⟨events, hs', hr⟩ := h
  rw [hs'] at he
  refine ⟨_, he, ?_⟩
  rw [hp, revokedIds_insert_new hf hs, hr, reportedIds_append_issued]

theorem Reports.congr (h : s.Reports sink) (hp : s'.passports = s.passports)
    (he : s'.sent sink = s.sent sink) : s'.Reports sink :=
  have ⟨events, hs, hr⟩ := h
  ⟨events, he.trans hs, hp ▸ hr⟩

theorem RevokePassport.reports (h : s.Reports sink) (hr : s.RevokePassport id reason t s') :
    s'.Reports sink := by
  cases hr
  case unchanged => exact h
  case current   => cases sink <;> exact h.revoked rfl rfl
  case other     => cases sink <;> exact h.revoked rfl rfl

-- A passport that is replaced is reported to the outbox only.
theorem supersede_reports (i : s.Consistent) (hl : s.activeByAgent.lookup a = some currentId)
    (h : s.Reports .outbox) : (s.supersede currentId t).Reports .outbox := by
  have ⟨p, hp, _⟩ := i.indexed hl
  apply h.revoked rfl
  simp only [supersede, enqueue, sent, hp, Option.getD_some, Passport.revoke, i.keyed hp]
  rfl

variable [Sha256] {input : IssueInput} {env : IssueEnv} {op : Op}

theorem IssueNew.reports (hf : env.passportId ∉ s.passports) (h : s.Reports sink)
    (hn : s.IssueNew input env r) : r.2.Reports sink := by
  cases hn
  case unsigned  => exact h
  case unbundled => cases sink <;> exact h.congr rfl rfl
  case issued    => cases sink <;> exact h.issued hf rfl rfl rfl

end Service

-- The call does not replace a passport.
def Op.Keeps (s : Service) : Op → Prop
  | issuePassport input env => ¬s.Supersedes input env
  | revokePassport _ _ _ _  => True

namespace Service

section Run

variable [Sha256] {s : Service} {input : IssueInput} {env : IssueEnv} {op : Op}

theorem IssuePassport.reports_outbox (i : s.Consistent) (hf : env.passportId ∉ s.passports)
    (h : s.Reports .outbox) (hi : s.IssuePassport input env r) : r.2.Reports .outbox := by
  cases hi
  case refused         => exact h
  case first hn        => exact hn.reports hf h
  case reissue hl _ hn => exact hn.reports (supersede_fresh i hl hf) <| supersede_reports i hl h

theorem IssuePassport.reports_ledger (hf : env.passportId ∉ s.passports)
    (h : s.Reports .ledger) (hk : ¬s.Supersedes input env) (hi : s.IssuePassport input env r) :
    r.2.Reports .ledger := by
  cases hi
  case refused            => exact h
  case first hn           => exact hn.reports hf h
  case reissue hc hl hr _ => exact absurd ⟨hc, by simp [hl], hr⟩ hk

theorem step_reports_outbox (i : s.Consistent) (h : s.Reports .outbox) (ha : engine.allows s op) :
    (engine.step s op).Reports .outbox := by
  cases op
  case issuePassport input env => exact (s.issuePassport_cases input env).reports_outbox i ha h
  case revokePassport          => exact (s.revokePassport_cases ..).reports h

theorem step_reports_ledger (h : s.Reports .ledger) (ha : engine.allows s op) (hk : op.Keeps s) :
    (engine.step s op).Reports .ledger := by
  cases op
  case issuePassport input env => exact (s.issuePassport_cases input env).reports_ledger ha h hk
  case revokePassport          => exact (s.revokePassport_cases ..).reports h

-- The outbox is told about every revocation, whatever the calls are.
theorem run_reports_outbox (r : Run engine g (.new b l) s) : s.Reports .outbox := by
  have step : ∀ {s op}, s.Consistent ∧ s.Reports .outbox → engine.allows s op → g s op →
      (engine.step s op).Consistent ∧ (engine.step s op).Reports .outbox := by
    intro _ _ ⟨i, h⟩ ha _
    exact ⟨step_consistent i ha, step_reports_outbox i h ha⟩
  exact (r.invariant step ⟨Indexed.empty, new_reports_outbox⟩).right

theorem run_reports_ledger (r : Run engine (fun s op => op.Keeps s) (.new b true) s) :
    s.Reports .ledger :=
  r.invariant step_reports_ledger new_reports_ledger

theorem run_revocations_reach_ledger (r : Run engine (fun s op => op.Keeps s) (.new b true) s) :
    ∃ events, s.ledger = some events ∧
      revokedIds s.passports = reportedIds events ∧
      revokedIds s.passports = reportedIds s.outbox := by
  have ⟨events, hl, hr⟩ := run_reports_ledger r
  have ⟨_, ho, hr'⟩ := run_reports_outbox r
  cases ho
  exact ⟨events, hl, hr, hr'⟩

end Run

section Sample

open scoped Sha256.Standard

-- The passport of an agent is replaced.
def sampleReissue : Op :=
  let input := sampleInput "agent-1" true
  .issuePassport input <|
    sampleEnv "p-2" "pub-local" 1700000001000000000 (input.payload 1700000001000000000)

theorem reissue_missing_in_ledger :
    ∃ s : Service, Nonempty (Run engine .any (.new true true) s) ∧
      (s.passports.lookup "p-1").map (·.status) = some .revoked ∧
      s.ledger = some [⟨.passportIssued, "agent-1", "p-1", "initial"⟩,
        ⟨.passportIssued, "agent-1", "p-2", "initial"⟩] ∧
      s.outbox = [⟨.passportIssued, "agent-1", "p-1", "initial"⟩,
        ⟨.passportRevoked, "agent-1", "p-1", "superseded_by_force_reissue"⟩,
        ⟨.passportIssued, "agent-1", "p-2", "initial"⟩] := by
  refine ⟨exec _ _ [sampleIssue "agent-1" "p-1" "pub-local", sampleReissue], ⟨.ofSchedule _ ?_⟩, ?_⟩
  all_goals decide +kernel

end Sample

end Service

end PassportIssuance
