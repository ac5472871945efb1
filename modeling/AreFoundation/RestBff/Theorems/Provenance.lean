import AreFoundation.RestBff.Theorems.Envelope
import AreFoundation.RestBff.Theorems.ScopeCheck

open Interleaving

namespace RestBff

open S0Delegate

-- A row for the action on the resource.
def IssuePayload.Names (payload : IssuePayload) (actionClass resource : String) : Prop :=
  ∃ row ∈ payload.scopeRows, (row.field "action_class").asString = actionClass ∧
    resourcePatternMatches (row.field "resource_pattern").asString resource

def Response.Allows (response : Response) : Prop :=
  (response.body.field "decision").field "effect" = .string "ALLOW"

namespace Request

def Registers (request : Request) : Prop :=
  ∃ rid idem body payload, request = .registerAgent rid idem body ∧
    registerPayload? rid idem body = .ok payload

def Sends (request : Request) (payload : IssuePayload) : Prop :=
  ∃ rid idem body, request = .issuePassport rid idem body ∧ issuePayload? rid body = .ok payload

def Asks (request : Request) (a actionClass resource : String) : Prop :=
  ∃ payload, request.Sends payload ∧ payload.agentId = a ∧ payload.Names actionClass resource

-- The passport in the body gives its agent nothing that has not been asked for.
def Permits (request : Request) (doc : Json) : Prop :=
  ∀ a actionClass resource, (publicPassportFromBody doc).field "agent_id" = .string a →
    Covers (publicPassportFromBody doc) actionClass resource → request.Asks a actionClass resource

-- What is known about the data that a request carries from one point to the next.
def Prepares (request : Request) : Pc → Prop
  | .registering _                           => request.Registers
  | .finishingRegister a doc _               => request.Registers ∧ agentIdOf doc = a
  | .findingAgent payload | .issuing payload => request.Sends payload
  | .finishingPassport _ doc                 => request.Permits doc
  | .start | .returned _                     => True

variable {request : Request} {payload : IssuePayload}

theorem Sends.permits_localBody (h : request.Sends payload) (idem : String) :
    request.Permits (payload.localBody idem) := by
  intro a actionClass resource ha ⟨row, hr, _, hc, hm⟩
  have ha : Json.string payload.agentId = .string a := ha
  obtain ⟨⟨row, i⟩, hz, rfl⟩ := List.mem_map.mp hr
  exact ⟨payload, h, Json.string.inj ha, row, List.fst_mem_of_mem_zipIdx hz, hc, hm⟩

-- The engine takes the actions and the patterns as they are.
theorem Sends.permits_of_issued [Format] [Sha256] {env : EngineEnv} (h : request.Sends payload)
    (hi : issuePassportJson c payload.toRequest env = (.ok doc, c')) : request.Permits doc := by
  have hc := issuePassportJson_cases c payload.toRequest env
  rw [hi] at hc
  cases hc
  case issued hi =>
    obtain ⟨_, _, _, rfl⟩ := (hi ▸ c.issuePassport_cases _ _).eq_toPassport
    intro a actionClass resource ha hv
    have ha : Json.string payload.agentId = .string a := ha
    obtain ⟨_, hp, hc, hm⟩ := covers_passportToMap_iff.mp hv
    obtain ⟨_, hs, rfl⟩ := List.mem_map.mp hp
    obtain ⟨⟨sr, i⟩, hz, rfl⟩ := List.mem_map.mp hs
    obtain ⟨row, hr, rfl⟩ := List.mem_map.mp (List.fst_mem_of_mem_zipIdx hz)
    exact ⟨payload, h, Json.string.inj ha, row, hr, hc, hm⟩

end Request

theorem agentIdOf_of_register [Format] {c : AgentRegistry.Registry} {env : RegistryEnv}
    (h : S0Delegate.register c t o metadata admission env = (.ok (doc, agentId), c'))
    (hp : PlainId env.register.agentId) : agentIdOf doc = agentId := by
  obtain ⟨a, _, _, rfl, rfl, hg⟩ := register_ok h
  have ha : agentIdOf (agentBody (AgentRegistry.Grpc.toProtoAgent a)) = a.agentId := rfl
  rw [ha, hg.agentId, hp.trimmed]

theorem Memory.mem_byAgent_of_mem_ids {m : Memory} {id a : String} (h : id ∈ m.passportIdsOf a) :
    a ∈ m.byAgent := by
  by_contra hn
  rw [passportIdsOf, Finmap.lookup_eq_none.mpr hn] at h
  cases h

namespace World

variable {cfg : Config} {env : Env} {w : World Memory} {request : Request} {pc : Pc}

theorem scopeAllows_of_allows (h : (w.evaluateScope rid body env).Allows) :
    ∃ query, body.bind Json.asStruct? = some query ∧
      (scopeAllows w.repo (query.field "agent_id").asString (query.field "passport_id").asString
        (query.field "action_class").asString (query.field "resource").asString).1 := by
  have refused {code message retryable status} :
      ¬(jsonError rid code message retryable status).Allows := by
    simp [Response.Allows, jsonError, Json.field]
  unfold evaluateScope at h
  split at h
  case h_1 => exact absurd h refused
  case h_2 query hq =>
    refine ⟨query, hq, ?_⟩
    dsimp only at h
    split at h
    case isTrue  => exact absurd h refused
    case isFalse =>
      split at h
      case isTrue  => exact absurd h refused
      case isFalse =>
        by_contra hn
        simp [Response.Allows, hn] at h

variable [Format] [Sha256]

theorem step_evaluateScope
    (h : (w.step cfg env (.evaluateScope rid body) pc).2 = .returned response) :
    pc = .returned response ∨ w.evaluateScope rid body env = response := by
  cases pc
  case start => exact .inr (Pc.returned.inj h)
  all_goals exact .inl h

theorem Step.prepares (h : Step cfg env w request pc r) (ha : Allowed cfg w env)
    (hq : request.Prepares pc) : request.Prepares r.2 := by
  cases h
  case stay              => exact hq
  case delegated hp _ _  => exact ⟨_, _, _, _, rfl, hp⟩
  case accepted hp _ _   => exact ⟨⟨_, _, _, _, rfl, hp⟩, rfl⟩
  case registered h      => exact ⟨hq, agentIdOf_of_register h ha.plainAgent⟩
  case issueAccepted hp  => exact ⟨_, _, _, rfl, hp⟩
  case agentFound        => exact hq
  case agentFoundLocally => exact hq.permits_localBody _
  case issued h          => exact hq.permits_of_issued h
  all_goals trivial

theorem Step.passport_recorded (h : Step cfg env w request pc r) (hp : request.Prepares pc)
    (hd : r.1.repo.passportIdem.lookup key = some doc) :
    w.repo.passportIdem.lookup key = some doc ∨
      r.2 = .returned ⟨.created, doc⟩ ∧ request.Permits doc := by
  cases h
  case registerRecorded hr hf _ =>
    obtain rfl := Memory.eq_recordRegister hr hf
    exact .inl hd
  case issueRecorded hr hf _ =>
    obtain ⟨_, rfl⟩ := Memory.eq_recordPassport hr hf
    rw [Memory.recordPassport_passportIdem, HashMap.lookup_insert] at hd
    split at hd
    case isFalse => exact .inl hd
    case isTrue  =>
      cases hd
      exact .inr ⟨rfl, hp⟩
  all_goals exact .inl hd

theorem Step.agent_recorded (h : Step cfg env w request pc r) (hp : request.Prepares pc)
    (ha : a ∈ r.1.repo.agents) :
    a ∈ w.repo.agents ∨
      ∃ doc, r.2 = .returned ⟨.created, doc⟩ ∧ request.Registers ∧ agentIdOf doc = a := by
  cases h
  case registerRecorded hr hf _ =>
    obtain rfl := Memory.eq_recordRegister hr hf
    refine (Finmap.mem_insert.mp ha).symm.imp_right fun he => ⟨_, rfl, hp.left, ?_⟩
    exact hp.right.trans he.symm
  case issueRecorded hr hf _ =>
    obtain ⟨_, rfl⟩ := Memory.eq_recordPassport hr hf
    exact .inl (Memory.recordPassport_agents ▸ ha)
  all_goals exact .inl ha

end World

open World

section Run

variable {cfg : Config} {requests : ι → Request} {i : ι} {g : Guard ι (World Memory) Pc Env}
variable {s s' : State ι (World Memory) Pc} {e : Env} {a passportId actionClass resource : String}
variable {registry : AgentRegistry.Registry} {engine : PassportIssuance.Service}

-- The requests that a right goes back to, both of which have been answered.
structure Granted (requests : ι → Request) (s : State ι (World Memory) Pc)
    (a passportId actionClass resource : String) : Prop where
  issued     : ∃ j doc, s.locals j = .returned ⟨.created, doc⟩ ∧
                 (requests j).Asks a actionClass resource ∧
                 (Go.trimSpace passportId ≠ "" →
                   (publicPassportFromBody doc).field "passport_id" = .string passportId)
  registered : ∃ k doc, s.locals k = .returned ⟨.created, doc⟩ ∧ (requests k).Registers ∧
                 agentIdOf doc = a

theorem Granted.mono (h : Granted requests s a passportId actionClass resource)
    (hs : ∀ {j response}, s.locals j = .returned response → s'.locals j = .returned response) :
    Granted requests s' a passportId actionClass resource := by
  obtain ⟨⟨j, doc, hj, ha⟩, ⟨k, doc', hk, hr⟩⟩ := h
  exact ⟨⟨j, doc, hs hj, ha⟩, ⟨k, doc', hs hk, hr⟩⟩

-- The right that a body of a scope check asks for.
def Warranted (requests : ι → Request) (s : State ι (World Memory) Pc) (body : Option Json) : Prop :=
  ∃ query, body.bind Json.asStruct? = some query ∧
    Granted requests s (query.field "agent_id").asString (query.field "passport_id").asString
      (query.field "action_class").asString (query.field "resource").asString

theorem Warranted.mono (h : Warranted requests s body)
    (hs : ∀ {j response}, s.locals j = .returned response → s'.locals j = .returned response) :
    Warranted requests s' body := by
  obtain ⟨query, hq, hg⟩ := h
  exact ⟨query, hq, hg.mono hs⟩

structure Accounted (cfg : Config) (requests : ι → Request) (s : State ι (World Memory) Pc) :
    Prop where
  coherent  : Coherent cfg requests s
  indexed   : s.shared.repo.Indexed
  prepares  : ∀ i, (requests i).Prepares (s.locals i)
  passports : ∀ {key doc}, s.shared.repo.passportIdem.lookup key = some doc →
                ∃ j, s.locals j = .returned ⟨.created, doc⟩ ∧ (requests j).Permits doc
  agents    : ∀ {a}, a ∈ s.shared.repo.agents →
                ∃ k doc, s.locals k = .returned ⟨.created, doc⟩ ∧ (requests k).Registers ∧
                  agentIdOf doc = a

theorem accounted_idle : Accounted cfg requests (idle ι registry engine) where
  coherent    := coherent_awaiting Memory.blank_empty
  indexed     := Memory.indexed_empty
  prepares _  := trivial
  passports h := by simp [idle, awaiting] at h
  agents h    := absurd h Finmap.notMem_empty

theorem Accounted.granted (h : Accounted cfg requests s)
    (hs : (scopeAllows s.shared.repo a passportId actionClass resource).1) :
    Granted requests s a passportId actionClass resource := by
  have hm := h.indexed
  obtain ⟨id, he, hi⟩ : ∃ id, s.shared.repo.Entitles id a actionClass resource ∧
      (Go.trimSpace passportId ≠ "" → id = passportId) := by
    by_cases hn : Go.trimSpace passportId = ""
    case neg => exact ⟨passportId, (scopeAllows_named_iff hm hn).mp hs, fun _ => rfl⟩
    case pos =>
      obtain ⟨id, he⟩ := (scopeAllows_unnamed_iff hm hn).mp hs
      exact ⟨id, he, fun h => absurd hn h⟩
  obtain ⟨hl, doc, hd, hv⟩ := he
  obtain ⟨_, hd', hc⟩ := hm.indexed hl
  cases Option.some.inj (hd.symm.trans hd')
  obtain ⟨_, hk, _⟩ := h.coherent.catalogued.keyed hd
  obtain ⟨j, hj, hp⟩ := h.passports hk
  refine ⟨⟨j, doc, hj, hp _ _ _ hc.agentId hv, fun hn => hi hn ▸ hc.passportId⟩, ?_⟩
  exact h.agents (hm.registered (Memory.mem_byAgent_of_mem_ids hl))

variable [DecidableEq ι] [Format] [Sha256]

theorem returned_next (h : s.locals j = .returned response) :
    (s.next (server cfg requests) i e).locals j = .returned response := by
  by_cases hj : j = i
  case neg => rw [s.next_locals_of_ne e hj, h]
  case pos =>
    subst hj
    rw [s.next_locals_self, h]
    exact congrArg Prod.snd step_returned

theorem Accounted.next (h : Accounted cfg requests s) (a : Allowed cfg s.shared e) :
    Accounted cfg requests (s.next (server cfg requests) i e) where
  coherent := h.coherent.next a
  indexed  := h.coherent.indexed_next h.indexed
  prepares := State.forall_next_locals
    ((step_cases cfg e s.shared (requests i) (s.locals i)).prepares a (h.prepares i))
    fun j _ => h.prepares j
  passports hd := by
    rcases (step_cases cfg e s.shared (requests i) (s.locals i)).passport_recorded (h.prepares i) hd
      with hd | ⟨hr, hp⟩
    case inr => exact ⟨i, (s.next_locals_self i e).trans hr, hp⟩
    case inl =>
      obtain ⟨j, hj, hp⟩ := h.passports hd
      exact ⟨j, returned_next hj, hp⟩
  agents ha := by
    rcases (step_cases cfg e s.shared (requests i) (s.locals i)).agent_recorded (h.prepares i) ha
      with ha | ⟨doc, hr, hp⟩
    case inr => exact ⟨i, doc, (s.next_locals_self i e).trans hr, hp⟩
    case inl =>
      obtain ⟨k, doc, hk, hp⟩ := h.agents ha
      exact ⟨k, doc, returned_next hk, hp⟩

-- An answer that allows something is about a right that has been given.
def Justified (requests : ι → Request) (s : State ι (World Memory) Pc) (i : ι) : Prop :=
  ∀ rid body response, requests i = .evaluateScope rid body →
    s.locals i = .returned response → response.Allows → Warranted requests s body

theorem Justified.next (h : Accounted cfg requests s) (hj : Justified requests s j) :
    Justified requests (s.next (server cfg requests) i e) j := by
  intro rid body response hr hl ha
  suffices hw : Warranted requests s body from hw.mono returned_next
  by_cases he : j = i
  case neg =>
    rw [s.next_locals_of_ne e he] at hl
    exact hj _ _ _ hr hl ha
  case pos =>
    subst he
    have hl : (s.shared.step cfg e (requests j) (s.locals j)).2 = .returned response :=
      (s.next_locals_self j e).symm.trans hl
    rw [hr] at hl
    rcases step_evaluateScope hl with hl | rfl
    case inl => exact hj _ _ _ hr hl ha
    case inr =>
      obtain ⟨query, hq, hs⟩ := scopeAllows_of_allows ha
      exact ⟨query, hq, h.granted hs⟩

-- No assumption is made on whether the services are called. A right that is found goes back to a request
-- for a passport with a row that gives it, for an agent that some request has registered.
theorem run_allow_requested (r : Run (server cfg requests) g (idle ι registry engine) s)
    (hi : requests i = .evaluateScope rid body) (hl : s.locals i = .returned response)
    (ha : response.Allows) : Warranted requests s body := by
  have h := r.invariant (P := fun s => Accounted cfg requests s ∧ Justified requests s i)
    (fun h a _ => ⟨h.left.next a, h.right.next h.left⟩)
    ⟨accounted_idle, fun _ _ _ _ h => by cases h⟩
  exact h.right _ _ _ hi hl ha

end Run

namespace Sample

open scoped Sha256.Standard

theorem used_granted : ∃ response, used.locals .evaluate = .returned response ∧ response.Allows ∧
    Granted endpoints used "agent-2" "" "READ" "data/x" := by
  have r : Run (server ⟨true, true, false⟩ endpoints) .any (idle Endpoint {} (.new false false))
      used := .ofSchedule (issuing ++ late) (by decide +kernel)
  obtain ⟨response, hl, ha⟩ : ∃ response, used.locals .evaluate = .returned response ∧
      response.Allows := ⟨_, rfl, rfl⟩
  obtain ⟨query, hq, hg⟩ := run_allow_requested (i := .evaluate) r rfl hl ha
  cases Option.some.inj hq
  exact ⟨response, hl, ha, hg⟩

end Sample

end RestBff
