import AreFoundation.RestBff.Theorems.Registration

namespace RestBff

open S0Delegate

-- An envelope with the scopes and the caps of another one.
structure Agrees (envelope e : Json) : Prop where
  scopes : (envelope.field "admitted_scopes").elements = (e.field "admitted_scopes").elements
  caps   : ∀ k, (envelope.field "admitted_behavioral_caps").field k =
             (e.field "admitted_behavioral_caps").field k

-- An envelope that has no scopes and repeats its caps at the top level.
structure Flat (e : Json) : Prop where
  scopes : (e.field "admitted_scopes").elements = []
  caps   : ∀ k, (e.field "admitted_behavioral_caps").field k =
             ((e.field k).asNumber?.map .number).getD .null

def agentIdOf (doc : Json) : String :=
  ((doc.field "agent").field "agent_id").asString

-- Identifiers that the path for the envelope of an agent can contain.
structure Segment (id : String) : Prop where
  ne      : Go.trimSpace id ≠ ""
  segment : '/' ∉ (Go.trimSpace id).toList

-- The storage and the registry answer.
structure Env.Answers (env : Env) : Prop where
  storage  : ¬env.storageFails
  registry : env.registry.failed = none
  read     : env.registry.read

def Response.Yields (response : Response) (e : Json) : Prop :=
  response.status = .ok ∧ Agrees (response.body.field "admission_envelope") e

section Documents

open AgentRegistry AgentRegistry.Grpc

theorem caps_admissionEnvelopeToMap {e : AdmissionEnvelopeMessage} {k : String} :
    ((admissionEnvelopeToMap e).field "admitted_behavioral_caps").field k =
      ((e.admittedBehavioralCaps.get? k).map .number).getD .null := by
  by_cases hs : e.admittedBehavioralCaps.size > 0
  case pos => simp [admissionEnvelopeToMap, hs, Json.field_object_map]
  case neg =>
    have he : e.admittedBehavioralCaps.entries = [] := by
      simpa [OrderedMap.size] using hs
    have hg : e.admittedBehavioralCaps.get? k = none := by simp [OrderedMap.get?, he]
    by_cases hg' : e.signature = []
    all_goals simp [admissionEnvelopeToMap, hs, hg, hg', Json.field]

theorem scopes_admissionEnvelopeToMap {e : AdmissionEnvelopeMessage} (h : e.admittedScopes = []) :
    ((admissionEnvelopeToMap e).field "admitted_scopes").elements = [] := by
  simp [admissionEnvelopeToMap, h, Json.elements]

theorem asNumber?_get?_toMap {j : Json} {k : String} :
    (j.toMap.get? k).bind Json.asNumber? = (j.field k).asNumber? := by
  rw [← Json.get?_toMap]
  cases j.toMap.get? k <;> rfl

theorem admission_registerRequest [Format] {metadata admission : OrderedMap String Json} :
    (registerRequest t o metadata admission).admission = .ok
      (if admission.size > 0 then
        some <| (registerRequest t o metadata admission).snapshot (Json.ofMap admission).toMap
      else
        none) := by
  have hz : ({} : OrderedMap String ℚ).size = 0 := rfl
  by_cases hs : admission.size > 0
  all_goals simp [registerRequest, RegisterAgentRequest.admission, RegisterAgentRequest.hasAdmission,
    hz, hs, Json.ofMap, Json.asStruct?]

theorem get?_registeredCaps [Format] {metadata admission : OrderedMap String Json} {e : Json} :
    (mergeBehavioralCaps <|
      (registerRequest t o metadata admission).snapshot e.toMap).get? k = (e.field k).asNumber? :=
  get?_mergeBehavioralCaps.trans asNumber?_get?_toMap

theorem agrees_envelope_iff [Format] {metadata admission : OrderedMap String Json}
    {env : RegisterEnv} {e : Json} :
    Agrees (admissionEnvelopeToMap <| toProtoAdmissionEnvelope <|
        env.envelope <| (registerRequest t o metadata admission).snapshot e.toMap) e ↔ Flat e := by
  have hc k := (caps_admissionEnvelopeToMap (k := k) (e := toProtoAdmissionEnvelope <|
    env.envelope <| (registerRequest t o metadata admission).snapshot e.toMap)).trans <|
      congrArg (fun cap => (cap.map Json.number).getD .null) get?_registeredCaps
  constructor
  case mp =>
    intro h
    exact ⟨h.scopes.symm.trans <| scopes_admissionEnvelopeToMap rfl,
      fun k => (h.caps k).symm.trans <| hc k⟩
  case mpr =>
    intro h
    exact ⟨(scopes_admissionEnvelopeToMap rfl).trans h.scopes.symm,
      fun k => (hc k).trans (h.caps k).symm⟩

end Documents

namespace World

variable {cfg : Config} {env : Env} {w w' : World Memory} {id : String} {e : Json}

-- The envelope that is kept for an agent.
def envelope? (w : World Memory) (cfg : Config) (agentId : String) : Option Json :=
  if cfg.reg then
    (w.registry.admissionEnvelopes.lookup agentId).map fun e =>
      admissionEnvelopeToMap (AgentRegistry.Grpc.toProtoAdmissionEnvelope e)
  else
    (w.repo.getAdmissionEnvelope agentId).map .ofMap

theorem getAdmissionEnvelope_yields_iff (ha : env.Answers) (hn : agentId ≠ "") :
    (w.getAdmissionEnvelope cfg rid env agentId).Yields e ↔
      ∃ envelope, w.envelope? cfg agentId = some envelope ∧ Agrees envelope e := by
  by_cases hd : cfg.reg
  case pos =>
    cases hl : w.registry.admissionEnvelopes.lookup agentId
    all_goals simp [getAdmissionEnvelope, envelope?, hd, getAdmissionEnvelopeJson,
      S0Delegate.getAdmissionEnvelope, AgentRegistry.Grpc.getAdmissionEnvelope,
      AgentRegistry.Registry.getAdmissionEnvelope, ha.registry, ha.read, hn, hl, Response.Yields,
      AgentRegistry.Grpc.mapError, DelegateError.isNotFound, jsonError]
  case neg =>
    have hr : Repository.getAdmissionEnvelope w.repo agentId =
        w.repo.getAdmissionEnvelope agentId := rfl
    cases hl : w.repo.getAdmissionEnvelope agentId
    all_goals simp [getAdmissionEnvelope, envelope?, hd, ha.storage, hr, hl, Response.Yields,
      jsonError]

theorem getAgent_yields_iff (ha : env.Answers) :
    (w.getAgent cfg rid env (id ++ "/admission-envelope")).Yields e ↔
      Segment id ∧ ∃ envelope, w.envelope? cfg (Go.trimSpace id) = some envelope ∧
        Agrees envelope e := by
  have hn : id ++ "/admission-envelope" ≠ "" := by simp
  unfold getAgent
  rw [if_neg hn, if_pos (Go.hasSuffix_append ..), Go.trimSuffix_append]
  dsimp only
  split
  case isTrue hs =>
    refine iff_of_false (fun h => nomatch h.left) fun ⟨h, _⟩ => ?_
    exact hs.elim h.ne h.segment
  case isFalse hs =>
    rw [not_or] at hs
    rw [getAdmissionEnvelope_yields_iff ha hs.left, and_iff_right ⟨hs.left, hs.right⟩]

def Holds (w : World Memory) (cfg : Config) (agentId : String) (e : Json) : Prop :=
  ∃ envelope, w.envelope? cfg agentId = some envelope ∧ Agrees envelope e

-- A retry has to find an envelope that agrees with its own. An agent is only found under its
-- identifier if that has no space around it, and the registry makes caps of all numbers.
def Keeps (w : World Memory) (cfg : Config) (idem : String) (admission : OrderedMap String Json) :
    Prop :=
  match w.registered? idem with
  | some prev =>
    Segment (agentIdOf prev) ∧ w.Holds cfg (Go.trimSpace <| agentIdOf prev) (.ofMap admission)
  | none =>
    if cfg.reg then
      admission.size > 0 ∧ Flat (.ofMap admission)
    else
      Segment (localAgentId idem) ∧
        if Go.trimSpace (localAgentId idem) = localAgentId idem then
          admission.size > 0
        else
          w.Holds cfg (Go.trimSpace <| localAgentId idem) (.ofMap admission)

section Serve

variable [Format] [Sha256]

-- What a registration that is acknowledged can have done.
inductive Registers (cfg : Config) (w : World Memory) (idem : String) (payload : RegisterPayload)
    (env : RegistryEnv) (doc : Json) : World Memory → Prop
  | replayed (hr : w.registered? idem = some doc) : Registers cfg w idem payload env doc w
  | locally (hr : w.registered? idem = none) (hd : ¬cfg.reg)
    (he : doc = localAgentBody (localAgentId idem) payload.agentType payload.ownerId "ACTIVE") :
    Registers cfg w idem payload env doc
      { w with
        repo := w.repo.recordRegister (registerKey idem) (localAgentId idem) doc payload.localRec }
  | delegated (hr : w.registered? idem = none) (hd : cfg.reg)
    (h : S0Delegate.register w.registry payload.agentType payload.ownerId payload.metadata
      payload.admission env = (.ok (doc, agentId), c)) :
    Registers cfg w idem payload env doc
      { w with repo := w.repo.recordRegister (registerKey idem) agentId doc record, registry := c }

variable {e₁ e₂ e₃ : Env}

theorem finishingRegister_created
    (h : w.step cfg env (.registerAgent rid idem body) (.finishingRegister agentId doc record) =
      (w', .returned ⟨.created, doc'⟩)) (hr : w.registered? idem = none) :
    doc' = doc ∧
      w' = { w with repo := w.repo.recordRegister (registerKey idem) agentId doc record } := by
  have hc := h ▸ step_cases cfg env w (.registerAgent rid idem body)
    (.finishingRegister agentId doc record)
  cases hc
  case registerCached hr' => cases hr.symm.trans hr'
  case registerRecorded hr _ hf =>
    obtain rfl := Memory.eq_recordRegister hr hf
    exact ⟨rfl, rfl⟩

-- A request that has finished does nothing more.
theorem finishingRegister_settled :
    (fun s => s.1.step cfg e₃ (.registerAgent rid idem body) s.2)
      (w.step cfg e₂ (.registerAgent rid idem body) (.finishingRegister agentId doc record)) =
      w.step cfg e₂ (.registerAgent rid idem body) (.finishingRegister agentId doc record) := by
  have hc := step_cases cfg e₂ w (.registerAgent rid idem body)
    (.finishingRegister agentId doc record)
  generalize w.step cfg e₂ (.registerAgent rid idem body) _ = r at hc ⊢
  cases hc
  case stay hn => exact absurd trivial hn
  all_goals exact step_returned

theorem registering_created
    (h : (fun s => s.1.step cfg e₃ (.registerAgent rid idem body) s.2)
      (w.step cfg e₂ (.registerAgent rid idem body) (.registering payload)) =
      (w', .returned ⟨.created, doc⟩)) (hr : w.registered? idem = none) (hd : cfg.reg) :
    Registers cfg w idem payload e₂.registry doc w' := by
  have hc := step_cases cfg e₂ w (.registerAgent rid idem body) (.registering payload)
  generalize w.step cfg e₂ (.registerAgent rid idem body) (.registering payload) = r at h hc
  cases hc
  case stay hn        => exact absurd trivial hn
  case registerFailed =>
    simp only [step_returned, Prod.mk.injEq, Pc.returned.injEq] at h
    exact absurd (congrArg Response.status h.right) (upstreamHttp_ne_created _)
  case registered hg  =>
    obtain ⟨rfl, rfl⟩ := finishingRegister_created h hr
    exact .delegated hr hd hg

theorem serve_registerAgent (hq : request = .registerAgent rid idem body)
    (hp : registerPayload? rid idem body = .ok payload)
    (h : w.serve cfg request [e₁, e₂, e₃] = (w', .returned ⟨.created, doc⟩)) :
    Registers cfg w idem payload e₂.registry doc w' := by
  simp only [serve, List.foldl_cons, List.foldl_nil] at h
  have hc := step_cases cfg e₁ w request .start
  generalize w.step cfg e₁ request .start = r at h hc
  cases hc
  case stay hn             => exact absurd (hq ▸ trivial) hn
  case read hr             => exact (hq ▸ hr : Request.Reads (.registerAgent ..)).elim
  case refused hp'         => cases hq; cases hp.symm.trans hp'
  case lookupFailed        => simp [step_returned, storageError, jsonError] at h
  case conflicting hs      =>
    simp only [step_returned, Prod.mk.injEq, Pc.returned.injEq] at h
    rw [h.right] at hs
    cases hs
  case replayed hr _       =>
    cases hq
    simp only [step_returned, Prod.mk.injEq, Pc.returned.injEq, Response.mk.injEq] at h
    obtain ⟨rfl, _, rfl⟩ := h
    exact .replayed hr
  case delegated hp' hr hd =>
    cases hq
    cases Except.ok.inj <| hp.symm.trans hp'
    exact registering_created h hr hd
  case accepted hp' hr hd  =>
    cases hq
    cases Except.ok.inj <| hp.symm.trans hp'
    obtain ⟨rfl, rfl⟩ := finishingRegister_created (finishingRegister_settled.symm.trans h) hr
    exact .locally hr hd rfl
  all_goals cases hq

end Serve

theorem envelope?_recordRegister (hd : ¬cfg.reg) {record : AgentRec} :
    { w with repo := w.repo.recordRegister key id doc record }.envelope? cfg agentId =
      if agentId = id then
        if record.admissionEnvelope.size = 0 then none else some (.ofMap record.admissionEnvelope)
      else
        w.envelope? cfg agentId := by
  simp only [envelope?, hd, Memory.getAdmissionEnvelope, Memory.recordRegister,
    HashMap.lookup_insert]
  by_cases he : agentId = id
  case pos => by_cases hs : record.admissionEnvelope.size = 0 <;> simp [he, hs]
  case neg => simp [he]

theorem holds_locally_iff (hd : ¬cfg.reg) {payload : RegisterPayload} :
    { w with repo := w.repo.recordRegister key id doc payload.localRec }.Holds cfg agentId
        (.ofMap payload.admission) ↔
      if agentId = id then payload.admission.size > 0
      else w.Holds cfg agentId (.ofMap payload.admission) := by
  unfold Holds
  rw [envelope?_recordRegister hd]
  split
  case isFalse => rfl
  case isTrue  =>
    have hr : payload.localRec.admissionEnvelope = payload.admission := rfl
    by_cases hs : payload.admission.size = 0
    case pos => simp [hr, hs]
    case neg => simpa [hr, hs, Nat.pos_iff_ne_zero] using ⟨rfl, fun _ => rfl⟩

-- The registry keeps an envelope only if there is something in it.
theorem holds_delegated_iff [Format] {payload : RegisterPayload} {env : RegistryEnv} {m : Memory}
    (hd : cfg.reg)
    (h : S0Delegate.register w.registry payload.agentType payload.ownerId payload.metadata
      payload.admission env = (.ok (doc, agentId), c))
    (hk : ∀ id ∈ w.registry.admissionEnvelopes, id ∈ w.registry.agents) :
    { w with repo := m, registry := c }.Holds cfg env.register.agentId
        (.ofMap payload.admission) ↔
      payload.admission.size > 0 ∧ Flat (.ofMap payload.admission) := by
  obtain ⟨a, snapshot, hs, _, _, hg⟩ := register_ok h
  rw [admission_registerRequest, Except.ok.injEq] at hs
  simp only [Holds, envelope?, hd, if_true, hg.envelopes, ← hs]
  by_cases hn : payload.admission.size > 0
  case neg =>
    have hl : w.registry.admissionEnvelopes.lookup env.register.agentId = none :=
      Finmap.lookup_eq_none.mpr fun hm => hg.fresh (hk _ hm)
    simp [hn, hl]
  case pos =>
    simpa [hn] using agrees_envelope_iff

theorem serve_register_envelope_iff [Format] [Sha256] {e₁ e₂ e₃ : Env}
    (hp : registerPayload? rid idem body = .ok payload)
    (hi : PlainId e₂.registry.register.agentId)
    (hk : ∀ id ∈ w.registry.admissionEnvelopes, id ∈ w.registry.agents)
    (h : w.serve cfg (.registerAgent rid idem body) [e₁, e₂, e₃] = (w', .returned ⟨.created, doc⟩))
    (ha : env.Answers) :
    (w'.getAgent cfg rid' env (agentIdOf doc ++ "/admission-envelope")).Yields
        (.ofMap payload.admission) ↔
      w.Keeps cfg idem payload.admission := by
  rw [getAgent_yields_iff ha, Keeps]
  cases serve_registerAgent rfl hp h
  case replayed hr => rw [hr]; rfl
  case locally hr hd he =>
    have hi : agentIdOf doc = localAgentId idem := he ▸ rfl
    rw [hr, if_neg hd, hi]
    exact and_congr_right fun _ => holds_locally_iff hd
  case delegated hr hd hg =>
    obtain ⟨a, _, _, rfl, _, ha⟩ := register_ok hg
    have hi' : agentIdOf (agentBody (AgentRegistry.Grpc.toProtoAgent a)) =
        e₂.registry.register.agentId := ha.agentId
    rw [hr, if_pos hd, ← holds_delegated_iff hd hg hk, hi', hi.trimmed]
    exact and_iff_right ⟨hi.trimmed.symm ▸ hi.ne, hi.trimmed.symm ▸ hi.segment⟩

end World

namespace Sample

open scoped Sha256.Standard

def admission : Json :=
  .object
    [("admitted_scopes", .array [.string "data/*"]),
      ("admitted_behavioral_caps", .object [("rate", .number 5)])]

def admitted : Json :=
  .object
    [("agent_type", .string "AUTONOMOUS"), ("owner_id", .string ownerId),
      ("admission_envelope", admission)]

def initial : World Memory :=
  ⟨{}, {}, .new false false⟩

def registeredWith (reg : Bool) : World Memory × Pc :=
  initial.serve ⟨reg, false, false⟩ (.registerAgent "r" "k" admitted) [env "1", env "2", env "3"]

theorem serve_register_envelope_locally :
    ((registeredWith false).1.getAgent ⟨false, false, false⟩ "r" (env "4")
      ("agt-k" ++ "/admission-envelope")).Yields (.ofMap admission.toMap) := by
  have hp : registerPayload? "r" "k" (some admitted) =
      .ok ⟨"AUTONOMOUS", ownerId, {}, admission.toMap⟩ := rfl
  have hi : PlainId (env "2").registry.register.agentId := by decide +kernel
  have hs : initial.serve ⟨false, false, false⟩ (.registerAgent "r" "k" admitted)
      [env "1", env "2", env "3"] = ((registeredWith false).1, .returned
        ⟨.created, localAgentBody "agt-k" "AUTONOMOUS" ownerId "ACTIVE"⟩) := rfl
  have ha : (env "4").Answers := ⟨by decide, rfl, rfl⟩
  have hk : ∀ id ∈ initial.registry.admissionEnvelopes, id ∈ initial.registry.agents :=
    fun _ h => absurd h Finmap.notMem_empty
  refine (World.serve_register_envelope_iff hp hi hk hs ha).mpr ⟨⟨?_, ?_⟩, ?_⟩
  case refine_3 =>
    rw [if_pos (by decide +kernel)]
    decide +kernel
  all_goals decide +kernel

-- The registry is not told about the scopes and the caps.
theorem envelope_lost :
    (∃ doc, (registeredWith true).2 = .returned ⟨.created, doc⟩ ∧ agentIdOf doc = "agent-2") ∧
    (∃ envelope, (registeredWith true).1.getAgent ⟨true, false, false⟩ "r" (env "4")
        ("agent-2" ++ "/admission-envelope") =
        ⟨.ok, .object [("agent_id", .string "agent-2"), ("admission_envelope", envelope)]⟩ ∧
      envelope.field "admitted_scopes" = .null ∧
      envelope.field "admitted_behavioral_caps" = .null) :=
  ⟨⟨_, rfl, rfl⟩, _, rfl, rfl, rfl⟩

end Sample

end RestBff
