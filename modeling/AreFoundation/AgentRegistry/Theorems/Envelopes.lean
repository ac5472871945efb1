import AreFoundation.AgentRegistry.Lifecycle

namespace AgentRegistry

open Transition

namespace Registry

variable {r r' r₀ r₁ r₂ : Registry} {agentId : String}

-- The query reads the columns of the row.
theorem getAdmissionEnvelope_eq_scan (hi : agentId ≠ "")
    (h : r.admissionEnvelopes.lookup agentId = some e) :
    r.getAdmissionEnvelope agentId true = .ok e.toRow.scan := by
  simp [getAdmissionEnvelope, hi, h, EnvelopeRow.scan_toRow]

theorem registerWithAdmission_error
    (h : r.registerWithAdmission agentType ownerId externalId metadata admission env =
      (.error err, r')) : r' = r := by
  unfold registerWithAdmission at h
  split at h
  case h_1 => cases h; rfl
  case h_2 =>
    split at h
    case isTrue  => cases h; rfl
    case isFalse =>
      split at h
      case h_1 => cases h; rfl
      case h_2 =>
        unfold registerAgentWithOutbox at h
        split at h
        case isTrue  => cases h; rfl
        case isFalse =>
          split at h
          case isTrue  => cases h; rfl
          case isFalse =>
            split at h
            case isTrue  => cases h; rfl
            case isFalse => cases h

-- The agent is registered, with this envelope.
def Admitted (agentId : String) (e : AdmissionEnvelope) (r : Registry) : Prop :=
  agentId ∈ r.agents ∧ r.admissionEnvelopes.lookup agentId = some e

theorem Admitted.register (h : r.Admitted agentId e)
    (hr : r.registerWithAdmission agentType ownerId externalId metadata admission env =
      (result, r')) : r'.Admitted agentId e := by
  cases result
  case error => rwa [registerWithAdmission_error hr]
  case ok a =>
    have hr := registerWithAdmission_ok hr
    have hn : agentId ≠ env.agentId := fun he => hr.fresh (he ▸ h.left)
    refine ⟨hr.agents ▸ Finmap.mem_insert.mpr (.inr h.left), ?_⟩
    rw [hr.envelopes, ← h.right]
    cases admission
    case none => rfl
    case some => exact Finmap.lookup_insert_of_ne _ hn

theorem Admitted.update (h : r.Admitted agentId e)
    (hr : r.updateAgentStatus agentId' newStatus reason changedBy env = (result, r')) :
    r'.Admitted agentId e := by
  obtain ⟨rfl, -⟩ | ⟨a, status, -, -, -, -, rfl⟩ := updateAgentStatus_cases hr
  case inl => exact h
  case inr => exact ⟨Finmap.mem_insert.mpr (.inr h.left), h.right⟩

theorem Admitted.commit (h : r.Admitted agentId e) (tx : Tx) : (tx.commit r).Admitted agentId e := by
  unfold Tx.commit
  split
  case h_1 => exact h.register (Prod.eta _).symm
  case h_2 => exact h.update (Prod.eta _).symm

theorem getAdmissionEnvelope_faithful {g : Guard Registry Tx} (hi : env.agentId ≠ "")
    (h : r₀.registerWithAdmission agentType ownerId externalId metadata (some snap) env =
      (.ok a, r₁)) (run : Run transactions g r₁ r₂) :
    ∃ e, r₂.getAdmissionEnvelope a.agentId true = .ok e ∧ e.admittedScopes = snap.scopePatterns ∧
      e.policyId = snap.policyId ∧ e.policyVer = snap.policyVer ∧
      ∀ k, e.admittedBehavioralCaps.get? k =
        (snap.behavioralCaps.get? k).or ((snap.constraints.get? k).bind Json.asNumber?) := by
  have hr := registerWithAdmission_ok h
  have hr₁ : r₁.Admitted env.agentId (env.envelope snap) := by
    rw [Admitted, hr.agents, hr.envelopes]
    exact ⟨Finmap.mem_insert.mpr (.inl rfl), Finmap.lookup_insert _⟩
  have hr₂ : r₂.Admitted env.agentId (env.envelope snap) :=
    run.invariant (fun {_ tx} h _ _ => h.commit tx) hr₁
  refine ⟨env.envelope snap, ?_, rfl, rfl, rfl, fun _ => get?_mergeBehavioralCaps⟩
  rw [hr.agentId, getAdmissionEnvelope_eq_scan hi hr₂.right, EnvelopeRow.scan_toRow]

end Registry

namespace Sample

def snapshot : AdmissionSnapshot where
  constraints      :=
    ⟨[("rate", .number 5), ("region", .string "eu"), ("depth", .number 2)], by decide⟩
  policyId         := "policy-1"
  policyVer        := ""
  scopePatterns    := ["data/*"]
  behavioralCaps   := ⟨[("rate", 3)], by decide⟩
  envelopeId       := ""
  issuingAuthority := ""
  signature        := []

def registered : Except RegistryError Agent × Registry :=
  Registry.registerWithAdmission {} "system" "owner-1" "" {} (some snapshot)
    ⟨0, "agent-1", "env-1", true⟩

def laterTransactions : List Tx :=
  [.updateAgentStatus "agent-1" "ACTIVE" "ready" "ops" ⟨1, true, true⟩,
    .register "system" "owner-1" "" {} (some snapshot) ⟨2, "agent-1", "env-2", true⟩,
    .register "system" "owner-1" "" {} (some snapshot) ⟨3, "agent-2", "env-2", true⟩]

theorem envelope_survives : ∃ a e, registered.1 = .ok a ∧
    (exec transactions registered.2 laterTransactions).getAdmissionEnvelope a.agentId true = .ok e ∧
    e.admittedScopes = ["data/*"] ∧ e.policyId = "policy-1" ∧ e.policyVer = "" ∧
    ∀ k, e.admittedBehavioralCaps.get? k =
      (snapshot.behavioralCaps.get? k).or ((snapshot.constraints.get? k).bind Json.asNumber?) := by
  have run : Run transactions .any registered.2 (exec transactions registered.2 laterTransactions) :=
    .ofSchedule laterTransactions ⟨trivial, trivial, trivial, trivial, trivial, trivial, trivial⟩
  have h : registered = (.ok _, registered.2) := rfl
  exact ⟨_, (Registry.getAdmissionEnvelope_faithful (by decide) h run).imp fun _ he => ⟨rfl, he⟩⟩

end Sample

end AgentRegistry
