import AreFoundation.Library.Traverse
import AreFoundation.Gateway.Upstream

open Go (Bytes)
open Interleaving

namespace Gateway

-- The name of the operation that a call is routed to.
def UpstreamRequest.operation (req : Call) : Option String :=
  (matchPhase1Route req.method req.path).map (·.method)

-- Where the response to a call is kept for later calls with the same key.
def UpstreamRequest.slot (req : Call) : Option Bytes :=
  match req.operation with
  | some "RegisterAgent" => some <| registerKey req.idempotencyKey
  | some "IssuePassport" => some <| issueKey req.idempotencyKey
  | _                    => none

theorem UpstreamRequest.slot_of_operation {req req' : Call} (ho : req.operation = req'.operation)
    (hk : req.idempotencyKey = req'.idempotencyKey) : req.slot = req'.slot := by
  simp only [slot, ho, hk]

theorem UpstreamRequest.slot_of_register {req : Call} (h : req.operation = some "RegisterAgent") :
    req.slot = some (registerKey req.idempotencyKey) := by
  simp [slot, h]

theorem UpstreamRequest.slot_of_issue {req : Call} (h : req.operation = some "IssuePassport") :
    req.slot = some (issueKey req.idempotencyKey) := by
  simp [slot, h]

theorem UpstreamRequest.slot_cases {req : Call} (h : req.slot = some key) :
    (req.operation = some "RegisterAgent" ∧ key = registerKey req.idempotencyKey) ∨
    (req.operation = some "IssuePassport" ∧ key = issueKey req.idempotencyKey) := by
  unfold slot at h
  split at h
  case _ ho => exact .inl ⟨ho, Option.some.inj h.symm⟩
  case _ ho => exact .inr ⟨ho, Option.some.inj h.symm⟩
  case _    => cases h

theorem registerKey_ne_issueKey {k k' : Bytes} : registerKey k ≠ issueKey k' := by
  intro h
  have := List.append_inj_left h (by decide +kernel)
  exact absurd this (by decide +kernel)

-- Calls share a response only if they are for the same operation and have the same key.
theorem UpstreamRequest.eq_of_slot {req req' : Call} (h : req.slot = some key)
    (h' : req'.slot = some key) :
    req.operation = req'.operation ∧ req.idempotencyKey = req'.idempotencyKey := by
  rcases slot_cases h with ⟨ho, rfl⟩ | ⟨ho, rfl⟩ <;> rcases slot_cases h' with ⟨ho', hk⟩ | ⟨ho', hk⟩
  case inl.inl => exact ⟨ho.trans ho'.symm, List.append_cancel_left hk⟩
  case inl.inr => exact absurd hk registerKey_ne_issueKey
  case inr.inl => exact absurd hk.symm registerKey_ne_issueKey
  case inr.inr => exact ⟨ho.trans ho'.symm, List.append_cancel_left hk⟩

-- The points of a call that has found no response for its key and has not stored one yet.
inductive Pc.Pending : Pc → Prop
  | storingAgent    : Pending <| .storingAgent record
  | findingAgent    : Pending <| .findingAgent payload
  | storingPassport : Pending <| .storingPassport record

-- Which of these points belong to the operation of a call.
def UpstreamRequest.Fits (req : Call) : Pc → Prop
  | .storingAgent _         => req.slot = some (registerKey req.idempotencyKey)
  | .findingAgent _         => req.slot = some (issueKey req.idempotencyKey)
  | .storingPassport record => req.slot = some (issueKey req.idempotencyKey) ∧
      record.passportId = asBytes "ppt-" ++ req.idempotencyKey
  | .start | .returned _    => True

namespace StaticUpstreamClient

variable {client : StaticUpstreamClient} {req : Call} {env : UpstreamEnv}

-- What a step of a call does.
inductive Step (client : StaticUpstreamClient) (req : Call) : Pc → StaticUpstreamClient × Pc → Prop
  | refused        : reply.statusCode ≠ 201 → Step client req pc (client, .returned reply)
  | replayed       : req.slot = some key → client.idempotentResp.lookup key = some reply →
                       Step client req .start (client, .returned reply)
  | proceeds       : req.slot = some key → client.idempotentResp.lookup key = none → pc.Pending →
                       req.Fits pc → Step client req .start (client, pc)
  | advances       : pc.Pending → pc'.Pending → req.Fits pc' → Step client req pc (client, pc')
  | storesAgent    : Step client req (.storingAgent record) (client.storeAgent req record)
  | storesPassport : Step client req (.storingPassport record) (client.storePassport req record)
  | stays          : Step client req (.returned reply) (client, .returned reply)

theorem handleRegisterAgent_step (hs : req.slot = some (registerKey req.idempotencyKey)) :
    Step client req .start (client, client.handleRegisterAgent req) := by
  unfold handleRegisterAgent
  split
  case isTrue => exact .refused (by simp)
  case isFalse =>
    split
    case _ existing he =>
      split
      case _ => exact .refused (by simp)
      case _ =>
        dsimp only
        split
        case isTrue  => exact .refused (by simp)
        case isFalse => exact .replayed hs he
    case _ hn =>
      split
      case _ => exact .refused (by simp)
      case _ =>
        dsimp only
        split
        case isTrue  => exact .refused (by simp)
        case isFalse => exact .proceeds hs hn .storingAgent hs

theorem issuePayload?_error (h : issuePayload? req = .error reply) : reply.statusCode ≠ 201 := by
  unfold issuePayload? at h
  split at h
  case _ => cases h; simp
  case _ =>
    dsimp only at h
    split at h
    case isTrue  => cases h; simp
    case isFalse => cases h

theorem handleIssuePassport_step (hs : req.slot = some (issueKey req.idempotencyKey)) :
    Step client req .start (client, client.handleIssuePassport req) := by
  unfold handleIssuePassport
  split
  case isTrue => exact .refused (by simp)
  case isFalse =>
    split
    case _ existing he => exact .replayed hs he
    case _ hn =>
      split
      case _ reply hp => exact .refused <| issuePayload?_error hp
      case _          => exact .proceeds hs hn .findingAgent hs

theorem passportRecord?_error (h : passportRecord? req payload now = .error reply) :
    reply.statusCode ≠ 201 := by
  unfold passportRecord? at h
  generalize hm : (List.mapM _ payload.scopesRaw.zipIdx : Except Reply _) = scopes at h
  cases scopes
  case ok    => simp [bind, Except.bind, pure, Except.pure] at h
  case error =>
    simp only [bind, Except.bind, Except.error.injEq] at h
    subst h
    obtain ⟨⟨row, i⟩, hr⟩ := Except.exists_of_mapM_error hm
    unfold scopeRecord? at hr
    dsimp only at hr
    split_ifs at hr <;> cases hr <;> simp

theorem passportRecord?_passportId (h : passportRecord? req payload now = .ok record) :
    record.passportId = asBytes "ppt-" ++ req.idempotencyKey := by
  unfold passportRecord? at h
  generalize (List.mapM _ payload.scopesRaw.zipIdx : Except Reply _) = scopes at h
  cases scopes
  case error => simp [bind, Except.bind] at h
  case ok    =>
    simp only [bind, Except.bind, pure, Except.pure, Except.ok.injEq] at h
    rw [← h]

-- The other handlers create nothing.
theorem not_created_of_read (client : StaticUpstreamClient) (req : Call) (env : UpstreamEnv) :
    ∀ reply ∈ [client.handleGetAgent req, client.handleListPassportsByAgent req,
      client.handleVerifyPassport req env.now, client.handleEvaluateScope req env.now,
      client.handleEvaluatePolicy req env.opa, handleGetDeploymentMeta req env.getenv],
      reply.statusCode ≠ 201 := by
  simp only [List.forall_mem_cons, handleGetAgent, handleListPassportsByAgent, handleVerifyPassport,
    handleEvaluateScope, handleEvaluatePolicy, handleGetDeploymentMeta, policyDecision]
  refine ⟨?_, ?_, ?_, ?_, ?_, by simp, by simp⟩
  all_goals repeat' split
  all_goals simp

theorem startCall_step : Step client req .start (client, client.startCall req env) := by
  have read := not_created_of_read client req env
  unfold startCall
  split
  case h_1 h => exact handleRegisterAgent_step <| UpstreamRequest.slot_of_register h
  case h_3 h => exact handleIssuePassport_step <| UpstreamRequest.slot_of_issue h
  case h_9 | h_10 => exact .refused (by simp)
  all_goals exact .refused <| read _ (by simp)

theorem findAgent_step (hs : req.slot = some (issueKey req.idempotencyKey)) :
    Step client req (.findingAgent payload) (client, client.findAgent req payload now) := by
  unfold findAgent
  split
  case isTrue  => exact .refused (by simp)
  case isFalse =>
    split
    case _ hr => exact .refused <| passportRecord?_error hr
    case _ hr =>
      exact .advances .findingAgent .storingPassport ⟨hs, passportRecord?_passportId hr⟩

theorem step_cases (client : StaticUpstreamClient) (env : UpstreamEnv) (hf : req.Fits pc) :
    Step client req pc (client.step req env pc) := by
  cases pc
  case start           => exact startCall_step
  case storingAgent    => exact .storesAgent
  case findingAgent    => exact findAgent_step hf
  case storingPassport => exact .storesPassport
  case returned        => exact .stays

-- The lists of passports, each of which is there because of a response that is kept for its key.
structure Catalogued (client : StaticUpstreamClient) : Prop where
  nodup  : ∀ agentId, (client.passportIdsOf agentId).Nodup
  owner  : ∀ {agentId agentId' id}, id ∈ client.passportIdsOf agentId →
             id ∈ client.passportIdsOf agentId' → agentId = agentId'
  listed : ∀ {agentId id}, id ∈ client.passportIdsOf agentId →
             ∃ key, id = asBytes "ppt-" ++ key ∧ issueKey key ∈ client.idempotentResp

namespace Catalogued

theorem storeAgent (h : client.Catalogued) : (client.storeAgent req record).1.Catalogued where
  nodup  := h.nodup
  owner  := h.owner
  listed hi := by
    obtain ⟨key, rfl, hk⟩ := h.listed hi
    exact ⟨key, rfl, Finmap.mem_insert.mpr <| .inr hk⟩

theorem passportIdsOf_storePassport : (client.storePassport req record).1.passportIdsOf agentId =
    if agentId = asBytes record.agentId then client.passportIdsOf agentId ++ [record.passportId]
    else client.passportIdsOf agentId := by
  simp only [storePassport, passportIdsOf, HashMap.lookup_insert]
  by_cases h : agentId = asBytes record.agentId
  case pos => subst h; simp
  case neg => simp [h]

theorem mem_storePassport {id : Bytes}
    (h : id ∈ (client.storePassport req record).1.passportIdsOf agentId) :
    id ∈ client.passportIdsOf agentId ∨ id = record.passportId ∧ agentId = asBytes record.agentId := by
  rw [passportIdsOf_storePassport] at h
  split at h
  case isTrue ha => simpa [ha] using h
  case isFalse   => exact .inl h

theorem storePassport (h : client.Catalogued)
    (hi : record.passportId = asBytes "ppt-" ++ req.idempotencyKey)
    (hn : issueKey req.idempotencyKey ∉ client.idempotentResp) :
    (client.storePassport req record).1.Catalogued := by
  have new {agentId : Bytes} : record.passportId ∉ client.passportIdsOf agentId := by
    intro hm
    obtain ⟨key, he, hk⟩ := h.listed hm
    rw [hi] at he
    exact hn <| List.append_cancel_left he ▸ hk
  constructor
  case nodup =>
    intro agentId
    rw [passportIdsOf_storePassport]
    split
    case isTrue  => exact List.concat_eq_append ▸ (List.nodup_concat _ _).mpr ⟨new, h.nodup agentId⟩
    case isFalse => exact h.nodup agentId
  case owner =>
    intro agentId agentId' id hm hm'
    rcases mem_storePassport hm with hm | ⟨rfl, rfl⟩ <;>
      rcases mem_storePassport hm' with hm' | ⟨he, rfl⟩
    case inl.inl => exact h.owner hm hm'
    case inl.inr => exact absurd (he ▸ hm) new
    case inr.inl => exact absurd hm' new
    case inr.inr => rfl
  case listed =>
    intro agentId id hm
    rcases mem_storePassport hm with hm | ⟨rfl, rfl⟩
    case inl =>
      obtain ⟨key, rfl, hk⟩ := h.listed hm
      exact ⟨key, rfl, Finmap.mem_insert.mpr <| .inr hk⟩
    case inr => exact ⟨_, hi, Finmap.mem_insert.mpr <| .inl rfl⟩

end Catalogued

end StaticUpstreamClient

section Run

variable {calls : ι → Call} {s : State ι StaticUpstreamClient Pc} {i j : ι}

-- No call looks for a response while another one for the same operation and with the same key has
-- found none and is still about to store its own.
def exclusive (calls : ι → Call) : Guard ι StaticUpstreamClient Pc UpstreamEnv :=
  fun s e => s.locals e.1 = .start → ∀ j, (s.locals j).Pending →
    (calls j).operation = (calls e.1).operation →
    (calls j).idempotencyKey ≠ (calls e.1).idempotencyKey

instance : (pc : Pc) → Decidable (pc = .start)
  | .start                                                               => .isTrue rfl
  | .storingAgent _ | .findingAgent _ | .storingPassport _ | .returned _ => .isFalse nofun

instance : (pc : Pc) → Decidable pc.Pending
  | .storingAgent _      => .isTrue .storingAgent
  | .findingAgent _      => .isTrue .findingAgent
  | .storingPassport _   => .isTrue .storingPassport
  | .start | .returned _ => .isFalse nofun

instance [Fintype ι] (calls : ι → Call) (s : State ι StaticUpstreamClient Pc)
    (e : ι × UpstreamEnv) : Decidable (exclusive calls s e) :=
  inferInstanceAs <| Decidable (s.locals e.1 = .start → ∀ j, (s.locals j).Pending → _ → _)

structure Coherent (calls : ι → Call) (s : State ι StaticUpstreamClient Pc) : Prop where
  fits       : ∀ i, (calls i).Fits (s.locals i)
  free       : ∀ {i key}, (s.locals i).Pending → (calls i).slot = some key →
                 s.shared.idempotentResp.lookup key = none
  alone      : ∀ {i j}, (s.locals i).Pending → (s.locals j).Pending →
                 (calls i).slot = (calls j).slot → i = j
  created    : ∀ {i reply}, s.locals i = .returned reply → reply.statusCode = 201 →
                 ∃ key, (calls i).slot = some key ∧ s.shared.idempotentResp.lookup key = some reply
  catalogued : s.shared.Catalogued

namespace Coherent

theorem init : Coherent calls (idle ι opaBaseUrl) := by
  constructor
  case fits       => intro _; trivial
  case free       => intro _ _ h; cases h
  case alone      => intro _ _ h; cases h
  case created    => intro _ _ h; cases h
  case catalogued =>
    have empty (agentId : Bytes) : (idle ι opaBaseUrl).shared.passportIdsOf agentId = [] := rfl
    exact ⟨by simp [empty], by simp [empty], by simp [empty]⟩

variable [DecidableEq ι]

theorem pending_of_update (h : (Function.update s.locals i (.returned reply) j).Pending) :
    j ≠ i ∧ (s.locals j).Pending := by
  by_cases hj : j = i
  case pos => subst hj; rw [Function.update_self] at h; cases h
  case neg => exact ⟨hj, by simpa [hj] using h⟩

-- A call returns. Until then it may have stored its response, but has not overwritten another one.
theorem settles {client : StaticUpstreamClient} (h : Coherent calls s)
    (kept : ∀ {key reply}, s.shared.idempotentResp.lookup key = some reply →
      client.idempotentResp.lookup key = some reply)
    (free : ∀ {j key}, j ≠ i → (s.locals j).Pending → (calls j).slot = some key →
      client.idempotentResp.lookup key = none)
    (created : reply.statusCode = 201 →
      ∃ key, (calls i).slot = some key ∧ client.idempotentResp.lookup key = some reply)
    (catalogued : client.Catalogued) :
    Coherent calls ⟨client, Function.update s.locals i (.returned reply)⟩ := by
  constructor
  case fits => exact (Function.forall_update_iff ..).mpr ⟨trivial, fun j _ => h.fits j⟩
  case free =>
    intro j key hp
    exact free (pending_of_update hp).left (pending_of_update hp).right
  case alone =>
    intro j k hp hp'
    exact h.alone (pending_of_update hp).right (pending_of_update hp').right
  case created =>
    intro j reply' hl hs
    by_cases hj : j = i
    case pos =>
      subst hj
      obtain rfl : reply = reply' := by simpa using hl
      exact created hs
    case neg =>
      obtain ⟨key, hk, hl⟩ := h.created (by simpa [hj] using hl) hs
      exact ⟨key, hk, kept hl⟩
  case catalogued => exact catalogued

theorem returns (h : Coherent calls s) (created : reply.statusCode = 201 →
      ∃ key, (calls i).slot = some key ∧ s.shared.idempotentResp.lookup key = some reply) :
    Coherent calls ⟨s.shared, Function.update s.locals i (.returned reply)⟩ :=
  h.settles id (fun _ => h.free) created h.catalogued

theorem stores {client : StaticUpstreamClient} (h : Coherent calls s) (hp : (s.locals i).Pending)
    (hk : (calls i).slot = some key)
    (hs : client.idempotentResp = s.shared.idempotentResp.insert key reply)
    (catalogued : client.Catalogued) :
    Coherent calls ⟨client, Function.update s.locals i (.returned reply)⟩ := by
  refine h.settles ?kept ?free (fun _ => ⟨key, hk, by simp [hs]⟩) catalogued
  case kept =>
    intro key' reply' hl
    have other : key' ≠ key := by
      rintro rfl
      simp [h.free hp hk] at hl
    rw [hs, HashMap.lookup_insert, if_neg other, hl]
  case free =>
    intro j key' hj hp' hk'
    have other : key' ≠ key := by
      rintro rfl
      exact hj <| h.alone hp' hp <| hk'.trans hk.symm
    rw [hs, HashMap.lookup_insert, if_neg other, h.free hp' hk']

theorem waits {pc : Pc} (h : Coherent calls s) (hp : pc.Pending) (hf : (calls i).Fits pc)
    (free : ∀ {key}, (calls i).slot = some key → s.shared.idempotentResp.lookup key = none)
    (alone : ∀ {j}, (s.locals j).Pending → (calls j).slot = (calls i).slot → j = i) :
    Coherent calls ⟨s.shared, Function.update s.locals i pc⟩ := by
  constructor
  case fits => exact (Function.forall_update_iff ..).mpr ⟨hf, fun j _ => h.fits j⟩
  case free =>
    intro j key hp
    by_cases hj : j = i
    case pos => subst hj; exact free
    case neg => exact h.free (by simpa [hj] using hp)
  case alone =>
    intro j k hpj hpk he
    by_cases hj : j = i
    case pos =>
      subst hj
      by_cases hk : k = j
      case pos => exact hk.symm
      case neg => exact (alone (by simpa [hk] using hpk) he.symm).symm
    case neg =>
      have waiting : (s.locals j).Pending := by simpa [hj] using hpj
      by_cases hk : k = i
      case pos => subst hk; exact alone waiting he
      case neg => exact h.alone waiting (by simpa [hk] using hpk) he
  case created =>
    intro j reply hl
    have hj : j ≠ i := by
      rintro rfl
      simp only [Function.update_self] at hl
      subst hl
      cases hp
    exact h.created (by simpa [hj] using hl)
  case catalogued => exact h.catalogued

theorem next (h : Coherent calls s) (e : ι × UpstreamEnv) (hg : exclusive calls s e) :
    Coherent calls (s.next (upstream calls) e.1 e.2) := by
  obtain ⟨i, env⟩ := e
  have hf := h.fits i
  have hstep := StaticUpstreamClient.step_cases s.shared env hf
  unfold State.next
  simp only [upstream]
  generalize hl : s.locals i = pc at hf hstep
  generalize StaticUpstreamClient.step s.shared (calls i) env pc = r at hstep
  cases hstep
  case refused hr      => exact h.returns fun hs => absurd hs hr
  case replayed hk he  => exact h.returns fun _ => ⟨_, hk, he⟩
  case stays           => exact h.returns <| h.created hl
  case advances pc' hp' hf' hp =>
    rw [← hl] at hp
    exact h.waits hp' hf' (h.free hp) fun hj he => h.alone hj hp he
  case proceeds key pc' hk hn hp hf' =>
    refine h.waits hp hf' (fun hk' => by rwa [← Option.some.inj (hk.symm.trans hk')]) ?_
    intro j hj he
    obtain ⟨ho, hkey⟩ := UpstreamRequest.eq_of_slot (he.trans hk) hk
    exact absurd hkey <| hg hl j hj ho
  case storesAgent record =>
    exact h.stores (hl ▸ .storingAgent) hf rfl h.catalogued.storeAgent
  case storesPassport record =>
    obtain ⟨hk, hi⟩ := hf
    have hn := h.free (hl ▸ .storingPassport) hk
    refine h.stores (hl ▸ .storingPassport) hk rfl <| h.catalogued.storePassport hi ?_
    exact Finmap.lookup_eq_none.mp hn

end Coherent

theorem run_replies_identical [DecidableEq ι]
    (r : Run (upstream calls) (exclusive calls) (idle ι opaBaseUrl) s) :
    (∀ i j reply reply', (calls i).operation = (calls j).operation →
      (calls i).idempotencyKey = (calls j).idempotencyKey →
      s.locals i = .returned reply → reply.statusCode = 201 →
      s.locals j = .returned reply' → reply'.statusCode = 201 → reply = reply') ∧
    (∀ agentId, (s.shared.passportIdsOf agentId).Nodup) ∧
    (∀ agentId agentId' id, id ∈ s.shared.passportIdsOf agentId →
      id ∈ s.shared.passportIdsOf agentId' → agentId = agentId') := by
  have h : Coherent calls s := r.invariant (fun h _ hg => h.next _ hg) .init
  refine ⟨?_, h.catalogued.nodup, fun _ _ _ => h.catalogued.owner⟩
  intro i j reply reply' ho hk hi hs hj hs'
  obtain ⟨key, hk₁, hl⟩ := h.created hi hs
  obtain ⟨key', hk₂, hl'⟩ := h.created hj hs'
  have : key = key' := by
    rw [UpstreamRequest.slot_of_operation ho hk, hk₂] at hk₁
    exact (Option.some.inj hk₁).symm
  subst this
  exact Option.some.inj <| hl.symm.trans hl'

end Run

section Sample

def sampleCall (path idempotencyKey : String) (body : Json) : Call where
  method         := asBytes "POST"
  path           := asBytes path
  rawQuery       := []
  body           := some body
  agentId        := asBytes "operator"
  requestId      := asBytes "req-1"
  identity       := asBytes "subject"
  idempotencyKey := asBytes idempotencyKey
  authorization  := asBytes "Bearer token"
  contentType    := asBytes "application/json"
  traceparent    := ""

def sampleIssueBody : Json :=
  .object
    [("agent_id", .string "agt-a"), ("passport_type", .string "standard"),
      ("requested_scopes", .array
        [.object [("action_class", .string "READ"), ("resource_pattern", .string "*")]]),
      ("ttl_seconds", .number 3600), ("issued_by", .string "owner-1"), ("reason", .string "demo")]

inductive Caller
  | registering
  | first
  | second
  deriving DecidableEq

instance : Fintype Caller where
  elems    := {.registering, .first, .second}
  complete := fun c => by cases c <;> decide

-- An agent is registered, and a passport is requested twice with the same key.
def sampleCalls : Caller → Call
  | .registering    => sampleCall "/v1/identity/agents" "a" <|
      .object [("agent_type", .string "demo.service"), ("owner_id", .string "owner-1")]
  | .first | .second => sampleCall "/v1/passports" "p" sampleIssueBody

def sampleEnv (now : Calendar.Instant) : UpstreamEnv where
  now    := now
  getenv := fun _ => ""
  opa    := .error ""

-- The two requests overlap, and a second passes between their readings of the clock.
def overlapping : List (Caller × UpstreamEnv) :=
  [(.registering, sampleEnv 0), (.registering, sampleEnv 0), (.first, sampleEnv 0),
    (.second, sampleEnv 0), (.first, sampleEnv 0), (.second, sampleEnv 1000000000),
    (.first, sampleEnv 1000000000), (.second, sampleEnv 1000000000)]

def overlapped : State Caller StaticUpstreamClient Pc :=
  Transition.exec (upstream sampleCalls).interleaved (idle Caller "") overlapping

def expiresAt : Pc → String
  | .returned reply => ((reply.body.field "passport").field "expires_at").asString
  | _               => ""

def statusOf : Pc → Nat
  | .returned reply => reply.statusCode
  | _               => 0

-- The second request is sent a second after the first one.
def consecutive : List (Caller × UpstreamEnv) :=
  [(.registering, sampleEnv 0), (.registering, sampleEnv 0), (.first, sampleEnv 0),
    (.first, sampleEnv 0), (.first, sampleEnv 0), (.second, sampleEnv 1000000000)]

def repeated : State Caller StaticUpstreamClient Pc :=
  Transition.exec (upstream sampleCalls).interleaved (idle Caller "") consecutive

theorem run_replies_identical_repeated :
    ∃ reply, repeated.locals .first = .returned reply ∧ reply.statusCode = 201 ∧
      repeated.locals .second = .returned reply := by
  have r : Run (upstream sampleCalls) (exclusive sampleCalls) (idle Caller "") repeated :=
    .ofSchedule _ (by decide +kernel)
  obtain ⟨reply, hl⟩ : ∃ reply, repeated.locals .first = .returned reply := ⟨_, rfl⟩
  obtain ⟨reply', hl'⟩ : ∃ reply, repeated.locals .second = .returned reply := ⟨_, rfl⟩
  have hs : statusOf (repeated.locals .first) = 201 := by decide +kernel
  have hs' : statusOf (repeated.locals .second) = 201 := by decide +kernel
  rw [hl] at hs
  rw [hl'] at hs'
  have he := (run_replies_identical r).left .first .second reply reply' rfl rfl hl hs hl' hs'
  exact ⟨reply, hl, hs, he ▸ hl'⟩

theorem overlapping_replies_differ :
    Nonempty (Run (upstream sampleCalls) .any (idle Caller "") overlapped) ∧
    sampleCalls .first = sampleCalls .second ∧
    statusOf (overlapped.locals .first) = 201 ∧ statusOf (overlapped.locals .second) = 201 ∧
    expiresAt (overlapped.locals .first) ≠ expiresAt (overlapped.locals .second) ∧
    overlapped.shared.passportIdsOf (asBytes "agt-a") = [asBytes "ppt-p", asBytes "ppt-p"] := by
  refine ⟨⟨.ofSchedule overlapping (by decide +kernel)⟩, rfl, ?_, ?_, ?_, ?_⟩
  all_goals decide +kernel

end Sample

end Gateway
