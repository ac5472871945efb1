import AreFoundation.RestBff.Theorems.Registration

open Interleaving

namespace RestBff

open S0Delegate (Format)

-- A body with an agent.
structure Describes (doc : Json) (agentId agentType ownerId : String) : Prop where
  agentId   : (doc.field "agent").field "agent_id" = .string agentId
  agentType : (doc.field "agent").field "agent_type" = .string agentType
  ownerId   : (doc.field "agent").field "owner_id" = .string ownerId

-- The end of an agent's identifier is not taken for a part of the path.
structure Addressable (idem : String) : Prop where
  check    : ¬Go.hasSuffix idem ":check"
  envelope : ¬Go.hasSuffix idem "/admission-envelope"

theorem describes_localAgentBody :
    Describes (localAgentBody agentId agentType ownerId status) agentId agentType ownerId :=
  ⟨rfl, rfl, rfl⟩

def AgentRec.localBody (record : AgentRec) (idem : String) : Json :=
  localAgentBody (localAgentId idem) record.agentType record.ownerId "ACTIVE"

-- The body that is stored for a key and the agent of the key describe each other.
structure Memory.Registers (m : Memory) : Prop where
  agent : ∀ {idem doc}, m.registerIdem.lookup (registerKey idem) = some doc →
            ∃ record, m.agents.lookup (localAgentId idem) = some record ∧
              doc = record.localBody idem

-- A request to register an agent does so on its own.
def Request.Locally : Request → Pc → Prop
  | .registerAgent _ _ _, .registering _                            => False
  | .registerAgent _ idem _, .finishingRegister agentId doc record =>
    agentId = localAgentId idem ∧ doc = record.localBody idem
  | _, _                                                            => True

namespace World

variable [Format] [Sha256] {cfg : Config} {env : Env} {w : World Memory}

theorem Step.locally (h : Step cfg env w request pc r) (hc : ¬cfg.reg) (hl : request.Locally pc) :
    request.Locally r.2 := by
  cases h
  case stay           => exact hl
  case read           => cases request <;> trivial
  case delegated hd   => exact absurd hd hc
  case accepted       => exact ⟨rfl, rfl⟩
  case registered     => cases hl
  all_goals trivial

theorem Step.registers (h : Step cfg env w request pc r) (hl : request.Locally pc)
    (hm : w.repo.Registers) : r.1.repo.Registers := by
  cases h
  case registerRecorded hr hf _ =>
    obtain rfl := Memory.eq_recordRegister hr hf
    obtain ⟨rfl, rfl⟩ := hl
    refine ⟨fun {idem' doc'} hd => ?_⟩
    simp only [Memory.recordRegister, HashMap.lookup_insert] at hd ⊢
    split at hd
    case isTrue he =>
      cases registerKey_injective he
      cases hd
      exact ⟨_, if_pos rfl, rfl⟩
    case isFalse hn =>
      obtain ⟨record, ha, he⟩ := hm.agent hd
      rw [if_neg fun he => hn (congrArg registerKey (localAgentId_injective he))]
      exact ⟨record, ha, he⟩
  case issueRecorded hr hf _ =>
    obtain ⟨_, rfl⟩ := Memory.eq_recordPassport hr hf
    refine ⟨fun hd => ?_⟩
    rw [Memory.recordPassport_registerIdem] at hd
    rw [Memory.recordPassport_agents]
    exact hm.agent hd
  all_goals exact hm

end World

open World

section Read

variable {w : World Memory} {cfg : Config} {env : Env} {rid idem : String}

theorem hasSuffix_localAgentId_iff (h : suffix.toList = c :: cs) (hc : c ∉ "agt-".toList) :
    Go.hasSuffix (localAgentId idem) suffix ↔ Go.hasSuffix idem suffix :=
  Go.hasSuffix_append_iff h hc

theorem trimSpace_localAgentId (ht : Go.trimSpace idem = idem) (hn : idem ≠ "") :
    Go.trimSpace (localAgentId idem) = localAgentId idem :=
  Go.trimSpace_append (c := 'a') rfl (by decide) ht hn

theorem localAgentId_ne : localAgentId idem ≠ "" := by
  intro h
  simpa [localAgentId] using congrArg String.toList h

theorem getAgent_of_addressable (ha : Addressable idem) (hc : ¬cfg.reg) (hf : ¬env.storageFails)
    (ht : Go.trimSpace idem = idem) (hn : idem ≠ "")
    (hr : w.repo.agents.lookup (localAgentId idem) = some record) :
    w.getAgent cfg rid env (localAgentId idem) =
      ⟨.ok, localAgentBody (localAgentId idem) record.agentType record.ownerId record.status⟩ := by
  have hr : Repository.getAgent w.repo (localAgentId idem) = some record := hr
  have he : ¬Go.hasSuffix (localAgentId idem) "/admission-envelope" :=
    (hasSuffix_localAgentId_iff rfl (by decide)).not.mpr ha.envelope
  have hk : ¬Go.hasSuffix (localAgentId idem) ":check" :=
    (hasSuffix_localAgentId_iff rfl (by decide)).not.mpr ha.check
  simp [World.getAgent, Go.trimSuffix, localAgentId_ne, he, hk, trimSpace_localAgentId ht hn, hc, hf, hr]

-- The answer to a path that ends like the one of an envelope is not about an agent.
theorem not_describes_getAdmissionEnvelope (hc : ¬cfg.reg)
    (h : w.getAdmissionEnvelope cfg rid env a = ⟨.ok, out⟩) : ¬Describes out a' t o := by
  intro hd
  simp only [World.getAdmissionEnvelope, hc, Bool.false_eq_true, if_false] at h
  split at h
  case isTrue  => cases h
  case isFalse =>
    split at h
    case h_1 => cases h
    case h_2 =>
      cases h
      cases hd.agentId

-- After the other ending has been cut off, the answer is about a shorter identifier.
theorem addressable_of_getAgent (hc : ¬cfg.reg)
    (h : w.getAgent cfg rid env (localAgentId idem) = ⟨.ok, out⟩)
    (hd : Describes out (localAgentId idem) t o) : Addressable idem := by
  simp only [World.getAgent, localAgentId_ne, hc, Bool.false_eq_true, if_false] at h
  split at h
  case isTrue =>
    split at h
    case isTrue  => cases h
    case isFalse => exact absurd hd (not_describes_getAdmissionEnvelope hc h)
  case isFalse he =>
    split at h
    case isTrue  => cases h
    case isFalse =>
      split at h
      case isTrue  => cases h
      case isFalse =>
        split at h
        case h_1 => cases h
        case h_2 =>
          cases h
          refine ⟨fun hk => ?_, (hasSuffix_localAgentId_iff rfl (by decide)).not.mp he⟩
          have hi := congrArg (·.toList.length) (Json.string.inj hd.agentId)
          have hs := Go.length_trimSpace_le (Go.trimSuffix (localAgentId idem) ":check")
          have hl := Go.length_trimSuffix ((hasSuffix_localAgentId_iff rfl (by decide)).mpr hk)
          have hp : 0 < ":check".toList.length := by decide
          omega

-- The path is sent in a form that is not redirected.
theorem routeGetAgent_describes_iff (hc : ¬cfg.reg) (hf : ¬env.storageFails)
    (ht : Go.trimSpace idem = idem) (hn : idem ≠ "")
    (hr : w.repo.agents.lookup (localAgentId idem) = some record) :
    (∃ out, w.routeGetAgent cfg rid env rawSuffix (localAgentId idem) = .answered ⟨.ok, out⟩ ∧
        Describes out (localAgentId idem) record.agentType record.ownerId) ↔
      Addressable idem ∧
        Go.cleanPath ("/v1/identity/agents/" ++ rawSuffix) = "/v1/identity/agents/" ++ rawSuffix := by
  unfold World.routeGetAgent
  dsimp only
  split
  case isTrue hp => exact ⟨nofun, fun ⟨_, he⟩ => absurd he hp⟩
  case isFalse hp =>
    constructor
    case mp =>
      intro ⟨out, h, hd⟩
      exact ⟨addressable_of_getAgent hc (Routed.answered.inj h) hd, not_not.mp hp⟩
    case mpr =>
      intro ⟨ha, _⟩
      exact ⟨_, congrArg _ (getAgent_of_addressable ha hc hf ht hn hr), describes_localAgentBody⟩

end Read

section Run

variable [DecidableEq ι] [Format] [Sha256] {cfg : Config} {requests : ι → Request} {i : ι}
variable {g : Guard ι (World Memory) Pc Env} {s : State ι (World Memory) Pc}
variable {registry : AgentRegistry.Registry} {engine : PassportIssuance.Service}

theorem run_registers (hc : ¬cfg.reg)
    (r : Run (server cfg requests) g (idle ι registry engine) s) : s.shared.repo.Registers := by
  let P (s : State ι (World Memory) Pc) : Prop :=
    s.shared.repo.Registers ∧ ∀ i, (requests i).Locally (s.locals i)
  have start : P (idle ι registry engine) := by
    refine ⟨⟨fun h => by simp [idle, awaiting] at h⟩, fun i => ?_⟩
    cases hr : requests i <;> simp [idle, awaiting, Request.Locally]
  refine (r.invariant (P := P) ?_ start).left
  rintro s ⟨i, e⟩ ⟨hm, hl⟩ _ _
  have hs := step_cases cfg e s.shared (requests i) (s.locals i)
  exact ⟨hs.registers (hl i) hm,
    State.forall_next_locals (hs.locally hc (hl i)) fun j _ => hl j⟩

-- Whether the passport service is called does not matter. The agent is read after the registration,
-- in any later state.
theorem run_registered_agent_readable_iff (hc : ¬cfg.reg)
    (r : Run (server cfg requests) g (idle ι registry engine) s)
    (hi : requests i = .registerAgent rid idem body) (hl : s.locals i = .returned ⟨.created, doc⟩)
    (hn : idem ≠ "") (ht : Go.trimSpace idem = idem) (env : Env) (hf : ¬env.storageFails) :
    ∃ agentId agentType ownerId, Describes doc agentId agentType ownerId ∧
      ∀ rid rawSuffix,
        (∃ out, s.shared.routeGetAgent cfg rid env rawSuffix agentId = .answered ⟨.ok, out⟩ ∧
            Describes out agentId agentType ownerId) ↔
          Addressable idem ∧
            Go.cleanPath ("/v1/identity/agents/" ++ rawSuffix) =
              "/v1/identity/agents/" ++ rawSuffix := by
  have ha := run_acknowledged (i := i) r (by simp [idle, awaiting, hi, Acknowledged])
  rw [hi, hl] at ha
  obtain ⟨record, hr, rfl⟩ := (run_registers hc r).agent (ha rfl)
  exact ⟨_, _, _, describes_localAgentBody,
    fun _ _ => routeGetAgent_describes_iff hc hf ht hn hr⟩

end Run

namespace Sample

open scoped Sha256.Standard

def registrationUnder (idem : String) : Request :=
  .registerAgent "r" idem (registerBody "AUTONOMOUS")

def registeredUnder (idem : String) : State Unit (World Memory) Pc :=
  Transition.exec (server ⟨false, false, false⟩ fun _ => registrationUnder idem).interleaved
    (idle Unit {} (.new false false)) [((), env "1"), ((), env "2")]

theorem run_registered_agent_readable_iff_plain : ∃ out,
    (registeredUnder "k/1").shared.routeGetAgent ⟨false, false, false⟩ "r" (env "3") "agt-k/1"
      "agt-k/1" = .answered ⟨.ok, out⟩ ∧
    Describes out "agt-k/1" "AUTONOMOUS" ownerId := by
  have r : Run (server ⟨false, false, false⟩ fun _ => registrationUnder "k/1") .any
      (idle Unit {} (.new false false)) (registeredUnder "k/1") := .ofSchedule _ (by decide +kernel)
  obtain ⟨agentId, agentType, ownerId, hd, h⟩ := run_registered_agent_readable_iff (i := ())
    (by decide) r rfl rfl (by decide) (by decide +kernel) (env "3") (by decide)
  cases Json.string.inj hd.agentId
  cases Json.string.inj hd.agentType
  cases Json.string.inj hd.ownerId
  exact (h "r" "agt-k/1").mpr ⟨⟨by decide +kernel, by decide +kernel⟩, by decide +kernel⟩

-- The agent is registered under an identifier that is taken for a check of another agent.
theorem registered_agent_not_found :
    Nonempty (Run (server ⟨false, false, false⟩ fun _ => registrationUnder "k:check") .any
      (idle Unit {} (.new false false)) (registeredUnder "k:check")) ∧
    (∃ doc, (registeredUnder "k:check").locals () = .returned ⟨.created, doc⟩ ∧
      Describes doc "agt-k:check" "AUTONOMOUS" ownerId) ∧
    (registeredUnder "k:check").shared.routeGetAgent ⟨false, false, false⟩ "r" (env "3")
      "agt-k:check" "agt-k:check" = .answered (unknownAgent "r") := by
  refine ⟨⟨.ofSchedule _ (by decide +kernel)⟩, ⟨_, rfl, ⟨rfl, rfl, rfl⟩⟩, ?_⟩
  rfl

end Sample

end RestBff
