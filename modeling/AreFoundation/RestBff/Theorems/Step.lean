import AreFoundation.RestBff.Api
import AreFoundation.RestBff.Theorems.Repository

namespace RestBff

open S0Delegate

section Documents

theorem agentFields?_localAgentBody {agentId agentType ownerId status : String} :
    agentFields? (localAgentBody agentId agentType ownerId status) = some (agentType, ownerId) := by
  simp [agentFields?, localAgentBody, Json.asStruct?, Json.asText?]

theorem agentFields?_agentBody {a : AgentRegistry.Grpc.AgentMessage} :
    agentFields? (agentBody a) = some (a.agentType, a.ownerId) := by
  simp [agentFields?, agentBody, agentToMap, Json.asStruct?, Json.asText?]

theorem registerBodyConflict_iff {body : Json} (h : agentFields? body = some (t, o)) :
    registerBodyConflict body t' o' ↔
      (Go.trimSpace t, Go.trimSpace o) ≠ (Go.trimSpace t', Go.trimSpace o') := by
  simp [registerBodyConflict, h, Prod.ext_iff, imp_iff_not_or]

theorem upstreamHttp_ne_created (err : DelegateError) : upstreamHttp err ≠ .created := by
  cases err
  case notFound => nofun
  case status st =>
    simp only [upstreamHttp]
    split <;> nofun

theorem asStruct?_metadata (a : AgentRegistry.Grpc.AgentMessage) :
    ∃ metadata, ((agentToMap a).field "metadata").asStruct? = some metadata := by
  by_cases hm : a.metadata.size > 0
  case pos =>
    simp only [agentToMap, hm, if_true]
    exact ⟨_, rfl⟩
  case neg =>
    refine ⟨.null, ?_⟩
    by_cases he : a.externalId = "" <;> by_cases hp : a.passportId = ""
    all_goals
      simp only [agentToMap, hm, if_false, he, hp, ne_eq, not_true_eq_false, not_false_eq_true,
        if_true]
      rfl

theorem agentRecFromRegisterResponseBody_agentBody {a : AgentRegistry.Grpc.AgentMessage}
    {t o : String} :
    ∃ record, agentRecFromRegisterResponseBody (agentBody a) t o = some record := by
  obtain ⟨metadata, hm⟩ := asStruct?_metadata a
  have hb : (agentBody a).asStruct? = some (agentBody a) := rfl
  have ha : ((agentBody a).field "agent").asStruct? = some (agentToMap a) := rfl
  have ht : ((agentToMap a).field "agent_type").asText? = some a.agentType := rfl
  have ho : ((agentToMap a).field "owner_id").asText? = some a.ownerId := rfl
  have hs : ((agentToMap a).field "status").asText? = some a.status := rfl
  simp only [agentRecFromRegisterResponseBody, hb, ha, ht, ho, hs, hm, Option.bind_eq_bind,
    Option.bind_some]
  exact ⟨_, rfl⟩

open AgentRegistry in
theorem register_ok [Format] {c : Registry}
    (h : S0Delegate.register c t o metadata admission env = (.ok (doc, agentId), c')) :
    ∃ a snapshot, (registerRequest t o metadata admission).admission = .ok snapshot ∧
      doc = agentBody (Grpc.toProtoAgent a) ∧ agentId = Go.trimSpace env.register.agentId ∧
      c.Registered t o snapshot env.register a c' := by
  unfold S0Delegate.register at h
  split at h
  case h_1 => cases h
  case h_2 =>
    split at h
    case h_1 => cases h
    case h_2 message _ hr =>
      cases h
      obtain ⟨a, snapshot, hs, rfl, hg⟩ := Grpc.registerAgent_ok hr
      exact ⟨a, snapshot, hs, rfl, hg.agentId ▸ rfl, hg⟩

-- The registry has rewritten the type.
theorem agentFields?_of_register [Format] {c : AgentRegistry.Registry}
    (h : S0Delegate.register c t o metadata admission env = (.ok (doc, agentId), c')) :
    agentFields? doc = some (Go.toUpper (Go.trimSpace t), o) := by
  obtain ⟨a, _, _, rfl, _, hg⟩ := register_ok h
  rw [agentFields?_agentBody, AgentRegistry.Grpc.toProtoAgent, hg.agentType, hg.ownerId]

open PassportIssuance PassportIssuance.Grpc in
-- An outcome of a call of the engine: it is refused on the way, or the service has answered.
inductive IssueCall [Sha256] (c : Service) (req : IssuePassportRequest) (env : EngineEnv) :
    Except DelegateError Json × Service → Prop
  | refused : IssueCall c req env (.error err, c)
  | failed (hp : parsePassportType req.passportType = .ok pType)
    (h : c.issuePassport (req.toInput pType env.server) env.server.issue = (.error err, c')) :
    IssueCall c req env (.error err', c')
  | issued (hp : parsePassportType req.passportType = .ok pType)
    (h : c.issuePassport (req.toInput pType env.server) env.server.issue = (.ok p, c')) :
    IssueCall c req env (.ok <| passportBody <| passportToProto p, c')

theorem issuePassportJson_cases [Sha256] (c : PassportIssuance.Service)
    (req : PassportIssuance.Grpc.IssuePassportRequest) (env : EngineEnv) :
    IssueCall c req env (issuePassportJson c req env) := by
  unfold issuePassportJson PassportIssuance.Grpc.issuePassport
  split
  case h_1 => exact .refused
  case h_2 =>
    cases hp : PassportIssuance.Grpc.parsePassportType req.passportType
    case error => exact .refused
    case ok pType =>
      by_cases hs : req.requestedScopes = []
      case pos =>
        simp only [hs, if_true]
        exact .refused
      case neg =>
        simp only [hs, if_false]
        rcases h : c.issuePassport (req.toInput pType env.server) env.server.issue with ⟨_ | _, _⟩
        case error => exact .failed hp h
        case ok    => exact .issued hp h

theorem exists_of_forM_error {xs : List α} {check : α → Except ε PUnit}
    (h : xs.forM check = .error err) : ∃ x ∈ xs, check x = .error err := by
  induction xs
  case nil => cases h
  case cons x xs hi =>
    change (check x >>= fun _ => xs.forM check) = _ at h
    cases hx : check x
    case error =>
      rw [hx] at h
      exact ⟨x, List.mem_cons_self, hx.trans h⟩
    case ok =>
      rw [hx] at h
      obtain ⟨y, hy, he⟩ := hi h
      exact ⟨y, List.mem_cons_of_mem x hy, he⟩

theorem checkScopeRow_error_status {row : Json} (h : checkScopeRow rid row = .error response) :
    response.status = .badRequest := by
  unfold checkScopeRow at h
  split at h
  case isTrue  => cases h; rfl
  case isFalse =>
    split at h
    case isTrue  => cases h; rfl
    case isFalse => cases h

-- A body for a passport is refused, or it names an agent and scopes.
inductive Requests : Except Response IssuePayload → Prop
  | refused (hs : response.status = .badRequest) : Requests (.error response)
  | complete (ha : Go.trimSpace payload.agentId ≠ "") (hr : payload.scopeRows ≠ []) :
    Requests (.ok payload)

theorem issuePayload?_cases (rid : String) (body : Option Json) :
    Requests (issuePayload? rid body) := by
  unfold issuePayload?
  split
  case h_1 => exact .refused rfl
  case h_2 =>
    dsimp only
    split
    case h_1 => exact .refused rfl
    case h_2 =>
      split
      case isTrue     => exact .refused rfl
      case isFalse hn =>
        cases hm : (List.forM _ (checkScopeRow rid) : Except Response PUnit)
        case error =>
          obtain ⟨_, _, he⟩ := exists_of_forM_error hm
          exact .refused <| checkScopeRow_error_status he
        case ok    => exact .complete (hn ∘ .inl) fun he => hn <| .inr <| .inr <| .inl he

theorem issuePayload?_error_status (h : issuePayload? rid body = .error response) :
    response.status = .badRequest := by
  cases h ▸ issuePayload?_cases rid body
  case refused hs => exact hs

theorem issuePayload?_ok (h : issuePayload? rid body = .ok payload) :
    Go.trimSpace payload.agentId ≠ "" ∧ payload.scopeRows ≠ [] := by
  cases h ▸ issuePayload?_cases rid body
  case complete ha hr => exact ⟨ha, hr⟩

end Documents

def Request.Reads : Request → Prop
  | .registerAgent _ _ _ | .issuePassport _ _ _ => False
  | _                                           => True

-- The points at which a request has work to do.
def Request.Handles : Request → Pc → Prop
  | .registerAgent _ _ _, .registering _ | .registerAgent _ _ _, .finishingRegister _ _ _ => True
  | .issuePassport _ _ _, .findingAgent _ | .issuePassport _ _ _, .issuing _              => True
  | .issuePassport _ _ _, .finishingPassport _ _ | _, .start                              => True
  | _, _                                                                                  => False

namespace World

variable [Repository ρ] [Format] [Sha256]

-- Everything that a step of a handler can do.
inductive Step (cfg : Config) (env : Env) (w : World ρ) : Request → Pc → World ρ × Pc → Prop
  | stay (h : ¬request.Handles pc) : Step cfg env w request pc (w, pc)
  | read (h : request.Reads) : Step cfg env w request .start (w, .returned response)
  | refused (hp : registerPayload? rid idem body = .error response) :
    Step cfg env w (.registerAgent rid idem body) .start (w, .returned response)
  | lookupFailed (hf : env.storageFails) :
    Step cfg env w (.registerAgent rid idem body) .start (w, .returned <| storageError rid)
  | conflicting (hp : registerPayload? rid idem body = .ok payload)
    (hr : Repository.getRegisterIdem w.repo (registerKey idem) = some prev)
    (hc : registerBodyConflict prev payload.agentType payload.ownerId)
    (hs : response.status = .conflict) :
    Step cfg env w (.registerAgent rid idem body) .start (w, .returned response)
  | replayed (hp : registerPayload? rid idem body = .ok payload)
    (hr : Repository.getRegisterIdem w.repo (registerKey idem) = some prev)
    (hc : ¬registerBodyConflict prev payload.agentType payload.ownerId) :
    Step cfg env w (.registerAgent rid idem body) .start (w, .returned ⟨.created, prev⟩)
  | delegated (hp : registerPayload? rid idem body = .ok payload)
    (hr : Repository.getRegisterIdem w.repo (registerKey idem) = none) (hd : cfg.reg) :
    Step cfg env w (.registerAgent rid idem body) .start (w, .registering payload)
  | accepted (hp : registerPayload? rid idem body = .ok payload)
    (hr : Repository.getRegisterIdem w.repo (registerKey idem) = none) (hd : ¬cfg.reg) :
    Step cfg env w (.registerAgent rid idem body) .start
      (w, .finishingRegister (localAgentId idem)
        (localAgentBody (localAgentId idem) payload.agentType payload.ownerId "ACTIVE")
        payload.localRec)
  | registerFailed
    (h : S0Delegate.register w.registry payload.agentType payload.ownerId payload.metadata
      payload.admission env.registry = (.error err, c)) :
    Step cfg env w (.registerAgent rid idem body) (.registering payload)
      ({ w with registry := c }, .returned <| s0DelegateError rid err)
  | registered
    (h : S0Delegate.register w.registry payload.agentType payload.ownerId payload.metadata
      payload.admission env.registry = (.ok (doc, agentId), c)) :
    Step cfg env w (.registerAgent rid idem body) (.registering payload)
      ({ w with registry := c }, .finishingRegister agentId doc record)
  | registerUnfinished (hf : env.storageFails) :
    Step cfg env w (.registerAgent rid idem body) (.finishingRegister agentId doc record)
      (w, .returned <| storageError rid)
  | registerCached (hr : Repository.getRegisterIdem w.repo (registerKey idem) = some prev) :
    Step cfg env w (.registerAgent rid idem body) (.finishingRegister agentId doc record)
      (w, .returned ⟨.created, prev⟩)
  | registerRecorded (hr : Repository.getRegisterIdem w.repo (registerKey idem) = none)
    (hf : Repository.finishRegister w.repo (registerKey idem) agentId doc record = (doc, rp))
    (hd : Repository.RecordsRegister w.repo (registerKey idem) doc rp) :
    Step cfg env w (.registerAgent rid idem body) (.finishingRegister agentId doc record)
      ({ w with repo := rp }, .returned ⟨.created, doc⟩)
  | issueRefused (hs : response.status ≠ .created) :
    Step cfg env w (.issuePassport rid idem body) .start (w, .returned response)
  | issueReplayed (hr : Repository.getPassportIdem w.repo (passportKey idem) = some prev) :
    Step cfg env w (.issuePassport rid idem body) .start (w, .returned ⟨.created, prev⟩)
  | issueAccepted (hp : issuePayload? rid body = .ok payload) :
    Step cfg env w (.issuePassport rid idem body) .start (w, .findingAgent payload)
  | agentMissing (hs : response.status ≠ .created) :
    Step cfg env w (.issuePassport rid idem body) (.findingAgent payload) (w, .returned response)
  | agentFound (hd : cfg.pass) :
    Step cfg env w (.issuePassport rid idem body) (.findingAgent payload) (w, .issuing payload)
  | agentFoundLocally (hd : ¬cfg.pass) :
    Step cfg env w (.issuePassport rid idem body) (.findingAgent payload)
      (w, .finishingPassport payload.agentId (payload.localBody idem))
  | issueFailed (h : issuePassportJson w.engine payload.toRequest env.engine = (.error err, c)) :
    Step cfg env w (.issuePassport rid idem body) (.issuing payload)
      ({ w with engine := c }, .returned <| s0DelegateError rid err)
  | issued (h : issuePassportJson w.engine payload.toRequest env.engine = (.ok doc, c)) :
    Step cfg env w (.issuePassport rid idem body) (.issuing payload)
      ({ w with engine := c }, .finishingPassport payload.agentId doc)
  | issueUnfinished (hs : response.status ≠ .created) :
    Step cfg env w (.issuePassport rid idem body) (.finishingPassport agentId doc)
      (w, .returned response)
  | issueCached (hr : Repository.getPassportIdem w.repo (passportKey idem) = some prev) :
    Step cfg env w (.issuePassport rid idem body) (.finishingPassport agentId doc)
      (w, .returned ⟨.created, prev⟩)
  | issueRecorded (hr : Repository.getPassportIdem w.repo (passportKey idem) = none)
    (hf : Repository.finishPassport w.repo (passportKey idem) agentId doc = (.ok doc, rp))
    (hd : Repository.RecordsPassport w.repo (passportKey idem) agentId doc rp) :
    Step cfg env w (.issuePassport rid idem body) (.finishingPassport agentId doc)
      ({ w with repo := rp }, .returned ⟨.created, doc⟩)

variable {cfg : Config} {env : Env} {w : World ρ} {rid idem : String} {body : Option Json}

theorem registerAgent_cases :
    Step cfg env w (.registerAgent rid idem body) .start
      (w, w.registerAgent cfg rid idem body env) := by
  unfold registerAgent
  split
  case h_1 hp => exact .refused hp
  case h_2 payload hp =>
    split
    case isTrue hf => exact .lookupFailed hf
    case isFalse   =>
      split
      case h_1 prev hr =>
        split
        case isTrue hc  => exact .conflicting hp hr hc rfl
        case isFalse hc => exact .replayed hp hr hc
      case h_2 hr =>
        split
        case isTrue hd  => exact .delegated hp hr hd
        case isFalse hd => exact .accepted hp hr hd

theorem callRegister_cases (payload : RegisterPayload) :
    Step cfg env w (.registerAgent rid idem body) (.registering payload)
      (w.callRegister rid env payload) := by
  unfold callRegister
  split
  case h_1 h => exact .registerFailed h
  case h_2 doc agentId registry h =>
    obtain ⟨a, _, _, rfl, _⟩ := register_ok h
    obtain ⟨record, hr⟩ := agentRecFromRegisterResponseBody_agentBody
      (a := AgentRegistry.Grpc.toProtoAgent a) (t := payload.agentType) (o := payload.ownerId)
    rw [hr]
    exact .registered h

theorem finishRegister_cases [LawfulRepository ρ] (agentId : String) (doc : Json)
    (record : AgentRec) :
    Step cfg env w (.registerAgent rid idem body) (.finishingRegister agentId doc record)
      (w.finishRegister rid idem env agentId doc record) := by
  unfold finishRegister
  split
  case isTrue hf => exact .registerUnfinished hf
  case isFalse   =>
    cases hr : Repository.getRegisterIdem w.repo (registerKey idem)
    case some prev =>
      rw [LawfulRepository.finishRegister_of_some hr]
      exact .registerCached hr
    case none =>
      obtain ⟨rp, hf, hd⟩ := LawfulRepository.finishRegister_of_none hr agentId doc record
      rw [hf]
      exact .registerRecorded hr hf hd

theorem issuePassport_cases :
    Step cfg env w (.issuePassport rid idem body) .start
      (w, w.issuePassport rid idem body env) := by
  unfold issuePassport
  split
  case isTrue  => exact .issueRefused nofun
  case isFalse =>
    split
    case isTrue  => exact .issueRefused nofun
    case isFalse =>
      split
      case h_1 prev hr => exact .issueReplayed hr
      case h_2 hr      =>
        split
        case h_1 response hp => exact .issueRefused (issuePayload?_error_status hp ▸ nofun)
        case h_2 payload hp  => exact .issueAccepted hp

theorem findAgent_cases (payload : IssuePayload) :
    Step cfg env w (.issuePassport rid idem body) (.findingAgent payload)
      (w, w.findAgent cfg rid idem env payload) := by
  unfold findAgent
  split
  case h_1 => exact .agentMissing nofun
  case h_2 => exact .agentMissing nofun
  case h_3 =>
    split
    case isTrue hd  => exact .agentFound hd
    case isFalse hd => exact .agentFoundLocally hd

theorem callIssue_cases (payload : IssuePayload) :
    Step cfg env w (.issuePassport rid idem body) (.issuing payload)
      (w.callIssue rid env payload) := by
  unfold callIssue
  split
  case h_1 h => exact .issueFailed h
  case h_2 h => exact .issued h

theorem finishPassport_cases [LawfulRepository ρ] (agentId : String) (doc : Json) :
    Step cfg env w (.issuePassport rid idem body) (.finishingPassport agentId doc)
      (w.finishPassport rid idem env agentId doc) := by
  unfold finishPassport
  split
  case isTrue  => exact .issueUnfinished nofun
  case isFalse =>
    cases hr : Repository.getPassportIdem w.repo (passportKey idem)
    case some prev =>
      rw [LawfulRepository.finishPassport_of_some hr]
      exact .issueCached hr
    case none =>
      rcases LawfulRepository.finishPassport_of_none hr agentId doc with hf | ⟨rp, hf, hd⟩
      case inl =>
        rw [hf]
        exact .issueUnfinished nofun
      case inr =>
        rw [hf]
        exact .issueRecorded hr hf hd

theorem step_cases [LawfulRepository ρ] (cfg : Config) (env : Env) (w : World ρ)
    (request : Request) (pc : Pc) : Step cfg env w request pc (w.step cfg env request pc) := by
  unfold step
  split
  case h_1  => exact registerAgent_cases
  case h_2  => exact callRegister_cases _
  case h_3  => exact finishRegister_cases ..
  case h_4  => exact .read trivial
  case h_5  => exact issuePassport_cases
  case h_6  => exact findAgent_cases _
  case h_7  => exact callIssue_cases _
  case h_8  => exact finishPassport_cases ..
  case h_9  => exact .read trivial
  case h_10 => exact .read trivial
  case h_11 => exact .read trivial
  case h_12 =>
    refine .stay ?_
    cases request <;> cases pc <;> grind [Request.Handles]

theorem step_start :
    w.step cfg env (.issuePassport rid idem body) .start = (w, w.issuePassport rid idem body env) :=
  rfl

theorem step_findingAgent {payload : IssuePayload} :
    w.step cfg env (.issuePassport rid idem body) (.findingAgent payload) =
      (w, w.findAgent cfg rid idem env payload) :=
  rfl

theorem step_issuing {payload : IssuePayload} :
    w.step cfg env (.issuePassport rid idem body) (.issuing payload) =
      w.callIssue rid env payload :=
  rfl

theorem step_finishingPassport {agentId : String} {doc : Json} :
    w.step cfg env (.issuePassport rid idem body) (.finishingPassport agentId doc) =
      w.finishPassport rid idem env agentId doc :=
  rfl

theorem step_returned :
    w.step cfg env request (.returned response) = (w, .returned response) := by
  cases request <;> rfl

theorem Step.extends (h : Step cfg env w request pc r) : Repository.Extends w.repo r.1.repo := by
  cases h
  case registerRecorded hr _ hd => exact hd.extends hr
  case issueRecorded hr _ hd    => exact hd.extends hr
  all_goals exact .refl _

end World

end RestBff
