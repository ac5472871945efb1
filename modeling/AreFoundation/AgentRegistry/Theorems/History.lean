import Mathlib.Data.List.Chain
import AreFoundation.AgentRegistry.Lifecycle

namespace AgentRegistry

-- The event that announces a change of status.
def StatusChange.eventType (c : StatusChange) : EventType :=
  match c.previousStatus with
  | none   => .agentRegistered
  | some _ => if c.newStatus = .deregistered then .agentDeregistered else .agentStatusChanged

-- Where the lifecycle may continue after a status, or begin without one.
def Follows (prev : Option AgentStatus) (status : AgentStatus) : Prop :=
  prev.elim (status = .pending) (status ∈ validTransitions ·)

namespace Registry

variable (r : Registry)

def statusOf (agentId : String) : Option AgentStatus :=
  r.agents.lookup agentId |>.map (·.status)

def historyOf (agentId : String) : List StatusChange :=
  r.statusHistory.filter (·.agentId = agentId)

def eventsOf (agentId : String) : List EventType :=
  r.outbox.filter (·.agentId = agentId) |>.map (·.eventType)

-- A change that has been made in all tables.
structure Records (r : Registry) (c : StatusChange) (r' : Registry) : Prop where
  previous : c.previousStatus = r.statusOf c.agentId
  follows  : Follows c.previousStatus c.newStatus
  statusOf : ∀ agentId,
               r'.statusOf agentId = if agentId = c.agentId then some c.newStatus
                 else r.statusOf agentId
  history  : r'.statusHistory = r.statusHistory ++ [c]
  outbox   : r'.outbox = r.outbox ++ [⟨c.agentId, c.eventType⟩]

end Registry

-- The rows lead from no status to the given one.
inductive IsPath : List StatusChange → Option AgentStatus → Prop
  | nil : IsPath [] none
  | concat : IsPath rows prev → c.previousStatus = prev → Follows prev c.newStatus →
      IsPath (rows ++ [c]) (some c.newStatus)

structure FaithfulPath (history : List StatusChange) (status : AgentStatus) : Prop where
  starts : ∃ c, history.head? = some c ∧ c.previousStatus = none ∧ c.newStatus = .pending
  links  : history.IsChain fun c d =>
             d.previousStatus = some c.newStatus ∧ d.newStatus ∈ validTransitions c.newStatus ∧
               d.newStatus ≠ c.newStatus ∧ c.newStatus ≠ .deregistered
  ends   : history.getLast?.map (·.newStatus) = some status

namespace IsPath

theorem getLast?_eq (h : IsPath rows status) : rows.getLast?.map (·.newStatus) = status := by
  cases h
  case nil    => rfl
  case concat => simp

theorem eq_nil (h : IsPath rows none) : rows = [] := by
  simpa using h.getLast?_eq

theorem faithful (h : IsPath rows (some status)) : FaithfulPath rows status := by
  generalize hs : some status = s at h
  induction h generalizing status
  case nil => cases hs
  case concat rows prev c hp hc hf hi =>
    cases hs
    cases prev
    case none =>
      cases hp.eq_nil
      exact ⟨⟨c, rfl, hc, hf⟩, List.isChain_singleton c, rfl⟩
    case some prev =>
      have ⟨⟨c₀, h₀, hs⟩, hl, he⟩ := hi rfl
      have hn : prev ≠ .deregistered := by
        rintro rfl
        cases hf
      refine ⟨⟨c₀, by simp [h₀], hs⟩, ?_, by simp⟩
      refine List.isChain_append.mpr ⟨hl, List.isChain_singleton c, ?_⟩
      intro d hd c' hc'
      cases hc'
      rw [Option.mem_def.mp hd] at he
      cases he
      exact ⟨hc, hf, ne_of_mem_validTransitions hf, hn⟩

end IsPath

namespace Registry

variable {r r' : Registry} {agentId : String}

theorem recordStatus_records (ha : r.agents.lookup agentId = some a)
    (hs : status ∈ validTransitions a.status) :
    r.Records ⟨agentId, some a.status, status, reason, changedBy⟩
      (r.recordStatus agentId a status reason changedBy now) where
  previous := by simp [statusOf, ha]
  follows  := hs
  statusOf agentId' := by
    simp only [statusOf, recordStatus, HashMap.lookup_insert]
    split <;> rfl
  history  := rfl
  outbox   := rfl

theorem registerAgentWithOutbox_records (ha : a.status = .pending)
    (h : r.registerAgentWithOutbox a envelope committed = (result, r')) :
    r' = r ∨ r.Records ⟨a.agentId, none, .pending, "initial registration", "system"⟩ r' := by
  unfold registerAgentWithOutbox at h
  split at h
  case isTrue  => cases h; exact .inl rfl
  case isFalse =>
    split at h
    case isTrue     => cases h; exact .inl rfl
    case isFalse hn =>
      split at h
      case isTrue  => cases h; exact .inl rfl
      case isFalse =>
        cases h
        refine .inr ⟨?_, rfl, fun agentId' => ?_, ha ▸ rfl, rfl⟩
        case refine_1 =>
          have hm : a.agentId ∉ r.agents := hn ∘ .inl
          simp [statusOf, Finmap.lookup_eq_none.mpr hm]
        case refine_2 =>
          simp only [statusOf, HashMap.lookup_insert]
          split
          case isTrue  => exact congrArg some ha
          case isFalse => rfl

-- A request that is not refused registers an agent in the first state of its lifecycle.
theorem registerWithAdmission_cases (r : Registry) (agentType ownerId externalId : String)
    (metadata : OrderedMap String String) (admission : Option AdmissionSnapshot)
    (env : RegisterEnv) :
    (∃ message, r.registerWithAdmission agentType ownerId externalId metadata admission env =
      (.error <| .invalidArgument message, r)) ∨
    ∃ a, a.status = .pending ∧
      r.registerWithAdmission agentType ownerId externalId metadata admission env =
        r.registerAgentWithOutbox a (admission.map env.envelope) env.committed := by
  unfold registerWithAdmission
  split
  case h_1 err _ => exact .inl ⟨err, rfl⟩
  case h_2 =>
    split
    case isTrue  => exact .inl ⟨_, rfl⟩
    case isFalse =>
      split
      case h_1 err _ => exact .inl ⟨err, rfl⟩
      case h_2       => exact .inr ⟨_, rfl, rfl⟩

theorem registerWithAdmission_records
    (h : r.registerWithAdmission agentType ownerId externalId metadata admission env =
      (result, r')) : r' = r ∨ ∃ c, r.Records c r' := by
  obtain ⟨message, he⟩ | ⟨a, ha, he⟩ :=
    r.registerWithAdmission_cases agentType ownerId externalId metadata admission env
  all_goals rw [he] at h
  case inl => cases h; exact .inl rfl
  case inr => exact registerAgentWithOutbox_records ha h |>.imp_right (⟨_, ·⟩)

theorem commit_records (r : Registry) (tx : Tx) :
    tx.commit r = r ∨ ∃ c, r.Records c (tx.commit r) := by
  unfold Tx.commit
  split
  case h_1 => exact registerWithAdmission_records (Prod.eta _).symm
  case h_2 agentId newStatus reason changedBy env =>
    obtain ⟨h, -⟩ | ⟨a, status, ha, hs, -, -, h⟩ :=
      updateAgentStatus_cases
        (Prod.eta (r.updateAgentStatus agentId newStatus reason changedBy env)).symm
    case inl => exact .inl h
    case inr =>
      rw [h]
      exact .inr ⟨_, recordStatus_records ha hs⟩

-- The tables agree on the lifecycle of every agent.
def Consistent (r : Registry) : Prop :=
  ∀ agentId, IsPath (r.historyOf agentId) (r.statusOf agentId) ∧
    r.eventsOf agentId = (r.historyOf agentId).map (·.eventType)

theorem Consistent.empty : Consistent {} :=
  fun _ => ⟨.nil, rfl⟩

theorem Consistent.records (hc : r.Consistent) (h : r.Records c r') : r'.Consistent := by
  intro agentId
  have ⟨hp, he⟩ := hc agentId
  rw [historyOf, h.history, List.filter_append, eventsOf, h.outbox, List.filter_append, h.statusOf]
  by_cases hi : agentId = c.agentId
  case pos =>
    subst hi
    have hp := hp.concat h.previous (h.previous ▸ h.follows)
    refine ⟨by simpa [historyOf] using hp, ?_⟩
    simpa [eventsOf, historyOf] using he
  case neg =>
    simp only [eventsOf, historyOf] at hp he
    simpa [hi, Ne.symm hi] using ⟨hp, he⟩

theorem Consistent.commit (hc : r.Consistent) (tx : Tx) : (tx.commit r).Consistent := by
  obtain h | ⟨c, h⟩ := commit_records r tx
  case inl => rwa [h]
  case inr => exact hc.records h

theorem consistent_of_run {g : Transition.Guard Registry Tx}
    (run : Transition.Run transactions g {} r) : r.Consistent :=
  run.invariant (fun {_ tx} hc _ _ => hc.commit tx) .empty

theorem history_faithful {g : Transition.Guard Registry Tx}
    (run : Transition.Run transactions g {} r) (agentId : String) :
    (∀ a, r.agents.lookup agentId = some a → FaithfulPath (r.historyOf agentId) a.status) ∧
      (agentId ∉ r.agents → r.historyOf agentId = []) ∧
      r.eventsOf agentId = (r.historyOf agentId).map (·.eventType) := by
  have ⟨hp, he⟩ := consistent_of_run run agentId
  refine ⟨fun a ha => ?_, fun hn => ?_, he⟩
  case refine_1 =>
    rw [statusOf, ha] at hp
    exact hp.faithful
  case refine_2 =>
    rw [statusOf, Finmap.lookup_eq_none.mpr hn] at hp
    exact hp.eq_nil

end Registry

end AgentRegistry
