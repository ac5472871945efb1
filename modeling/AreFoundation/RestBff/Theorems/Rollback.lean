import AreFoundation.RestBff.Theorems.Passports

namespace RestBff

open S0Delegate
open PassportIssuance (IssueInput)
open PassportIssuance.Grpc (IssuePassportRequest parsePassportType)
open PassportIssuance.Service (Issues Supersedes DependencyFails Revokes)

-- The call gets through to the service of the engine with this input.
structure Reaches (req : IssuePassportRequest) (env : EngineEnv) (input : IssueInput) : Prop where
  answers : env.failed = none
  parsed  : ∃ pType, parsePassportType req.passportType = .ok pType ∧
              input = req.toInput pType env.server

section Engine

variable {req : IssuePassportRequest} {env : EngineEnv} {input input' : IssueInput}

theorem Reaches.unique (h : Reaches req env input) (h' : Reaches req env input') :
    input = input' := by
  obtain ⟨_, _, hp, rfl⟩ := h
  obtain ⟨_, _, hp', rfl⟩ := h'
  cases hp.symm.trans hp'
  rfl

variable [Sha256] {c : PassportIssuance.Service}

theorem issuePassportJson_of_not_reaches (h : ∀ input, ¬Reaches req env input) :
    ∃ err, issuePassportJson c req env = (.error err, c) := by
  unfold issuePassportJson
  split
  case h_1    => exact ⟨_, rfl⟩
  case h_2 hf =>
    unfold PassportIssuance.Grpc.issuePassport
    cases hp : parsePassportType req.passportType
    case error => exact ⟨_, rfl⟩
    case ok    => exact absurd ⟨hf, _, hp, rfl⟩ (h _)

theorem issuePassportJson_of_issues (h : Reaches req env input) (hs : req.requestedScopes ≠ [])
    (hi : Issues c input env.server.issue) :
    ∃ doc c', issuePassportJson c req env = (.ok doc, c') ∧
      env.server.issue.passportId ∈ c'.passports := by
  obtain ⟨hf, _, hp, rfl⟩ := h
  obtain ⟨_, _, c', hc, hm⟩ := PassportIssuance.Service.issuePassport_of_issues hi
  simp only [issuePassportJson, hf, PassportIssuance.Grpc.issuePassport, hp, hs, if_false, hc]
  exact ⟨_, c', rfl, hm⟩

theorem issuePassportJson_of_not_issues (h : Reaches req env input) (hs : req.requestedScopes ≠ [])
    (hi : ¬Issues c input env.server.issue) :
    ∃ err c', issuePassportJson c req env = (.error err, c') ∧
      c'.activeByAgent = c.activeByAgent ∧ (c'.passports = c.passports ↔
        ¬(Supersedes c input env.server.issue ∧ DependencyFails c input env.server.issue ∧
          Revokes c input env.server.issue)) := by
  obtain ⟨hf, _, hp, rfl⟩ := h
  obtain ⟨_, c', hc, ha, hr⟩ := PassportIssuance.Service.issuePassport_of_not_issues hi
  simp only [issuePassportJson, hf, PassportIssuance.Grpc.issuePassport, hp, hs, if_false, hc]
  exact ⟨_, c', rfl, ha, hr⟩

end Engine

namespace World

variable [Format] [Sha256] {cfg : Config} {w : World Memory} {payload : IssuePayload}
variable {e₁ e₂ e₃ e₄ : Env} {rid idem : String} {body : Option Json}

-- The request gets to the point where the engine is called.
structure Calls (w : World Memory) (rid idem : String) (body : Option Json) (e₁ e₂ : Env)
    (payload : IssuePayload) : Prop where
  key     : idem ≠ ""
  storage : ¬e₁.storageFails
  fresh   : w.issued? idem = none
  decoded : issuePayload? rid body = .ok payload
  known   : agentExists w.registry payload.agentId e₂.registry = .ok true

-- The engine issues a passport that cannot be stored, or it revokes the current passport of the agent
-- and then fails.
def LeavesBehind (w : World Memory) (payload : IssuePayload) (e₃ e₄ : Env) : Prop :=
  ∃ input, Reaches payload.toRequest e₃.engine input ∧
    ((Issues w.engine input e₃.engine.server.issue ∧
        (e₄.storageFails ∨ payload.agentId ∉ w.repo.agents)) ∨
      (Supersedes w.engine input e₃.engine.server.issue ∧
        DependencyFails w.engine input e₃.engine.server.issue ∧
        Revokes w.engine input e₃.engine.server.issue))

theorem serve_of_calls (hr : cfg.reg) (hp : cfg.pass) (h : w.Calls rid idem body e₁ e₂ payload) :
    w.serve cfg (.issuePassport rid idem body) [e₁, e₂, e₃, e₄] =
      (fun s => s.1.step cfg e₄ (.issuePassport rid idem body) s.2) (w.callIssue rid e₃ payload) := by
  have hf : Repository.getPassportIdem w.repo (passportKey idem) = none := h.fresh
  have h₁ : w.issuePassport rid idem body e₁ = .findingAgent payload := by
    simp [issuePassport, h.key, h.storage, hf, h.decoded]
  have h₂ : w.findAgent cfg rid idem e₂ payload = .issuing payload := by
    simp [findAgent, existsAgentForPassport, hr, hp, h.known, Except.toOption]
  simp only [serve, List.foldl_cons, List.foldl_nil, step_start, step_findingAgent, step_issuing,
    h₁, h₂]

omit [Format] [Sha256] in
theorem issuePassport_cases_of_reg (w : World Memory) (rid idem : String) (body : Option Json)
    (e₁ e₂ : Env) (hr : cfg.reg) :
    (∃ response, w.issuePassport rid idem body e₁ = .returned response) ∨
    ∃ payload, w.issuePassport rid idem body e₁ = .findingAgent payload ∧
      ((∃ response, w.findAgent cfg rid idem e₂ payload = .returned response) ∨
        w.Calls rid idem body e₁ e₂ payload) := by
  unfold issuePassport
  split
  case isTrue     => exact .inl ⟨_, rfl⟩
  case isFalse hk =>
    split
    case isTrue     => exact .inl ⟨_, rfl⟩
    case isFalse hs =>
      split
      case h_1    => exact .inl ⟨_, rfl⟩
      case h_2 hf =>
        split
        case h_1            => exact .inl ⟨_, rfl⟩
        case h_2 payload hd =>
          refine .inr ⟨payload, rfl, ?_⟩
          unfold findAgent existsAgentForPassport
          rw [if_pos hr]
          match hn : agentExists w.registry payload.agentId e₂.registry with
          | .error _  => exact .inl ⟨_, rfl⟩
          | .ok false => exact .inl ⟨_, rfl⟩
          | .ok true  => exact .inr ⟨hk, hs, hf, hd, hn⟩

theorem serve_of_not_calls (e₃ e₄ : Env) (hr : cfg.reg)
    (h : ∀ payload, ¬w.Calls rid idem body e₁ e₂ payload) :
    ∃ response, w.serve cfg (.issuePassport rid idem body) [e₁, e₂, e₃, e₄] =
      (w, .returned response) := by
  simp only [serve, List.foldl_cons, List.foldl_nil, step_start]
  rcases issuePassport_cases_of_reg w rid idem body e₁ e₂ hr
    with ⟨response, h₁⟩ | ⟨payload, h₁, ⟨response, h₂⟩ | hc⟩
  case inl     => exact ⟨response, by simp only [h₁, step_returned]⟩
  case inr.inl => exact ⟨response, by simp only [h₁, step_findingAgent, h₂, step_returned]⟩
  case inr.inr => exact absurd hc (h payload)

theorem serve_of_error (e₄ : Env) (hr : cfg.reg) (hp : cfg.pass)
    (h : w.Calls rid idem body e₁ e₂ payload)
    (hc : issuePassportJson w.engine payload.toRequest e₃.engine = (.error err, c)) :
    ∃ response, w.serve cfg (.issuePassport rid idem body) [e₁, e₂, e₃, e₄] =
      ({ w with engine := c }, .returned response) ∧ response.status ≠ .created := by
  rw [serve_of_calls hr hp h]
  simp only [callIssue, hc, step_returned]
  exact ⟨_, rfl, upstreamHttp_ne_created err⟩

theorem serve_of_ok (e₄ : Env) (hr : cfg.reg) (hp : cfg.pass)
    (h : w.Calls rid idem body e₁ e₂ payload)
    (hc : issuePassportJson w.engine payload.toRequest e₃.engine = (.ok doc, c)) :
    ∃ m response, w.serve cfg (.issuePassport rid idem body) [e₁, e₂, e₃, e₄] =
      ({ w with repo := m, engine := c }, .returned response) ∧
      (response.status ≠ .created ↔ e₄.storageFails ∨ payload.agentId ∉ w.repo.agents) := by
  have hf : w.repo.passportIdem.lookup (passportKey idem) = none := h.fresh
  rw [serve_of_calls hr hp h]
  simp only [callIssue, hc, step_finishingPassport, finishPassport]
  by_cases hs : e₄.storageFails
  case pos =>
    rw [if_pos hs]
    exact ⟨w.repo, _, rfl, iff_of_true nofun (.inl hs)⟩
  case neg =>
    rw [if_neg hs, Memory.repository_finishPassport]
    by_cases ha : payload.agentId ∈ w.repo.agents
    case pos =>
      rw [Memory.finishPassport_of_mem hf ha]
      exact ⟨_, _, rfl, iff_of_false (not_not.mpr rfl) (not_or.mpr ⟨hs, not_not.mpr ha⟩)⟩
    case neg =>
      rw [Memory.finishPassport_of_not_mem hf ha]
      exact ⟨_, _, rfl, iff_of_true nofun (.inr ha)⟩

-- The left side for a request whose outcome is known.
theorem unchanged_iff (h : w.serve cfg request envs = (w', .returned response)) :
    (∀ w' response, w.serve cfg request envs = (w', .returned response) →
      response.status ≠ .created → w'.engine.passports = w.engine.passports ∧
        w'.engine.activeByAgent = w.engine.activeByAgent) ↔
    (response.status ≠ .created → w'.engine.passports = w.engine.passports ∧
      w'.engine.activeByAgent = w.engine.activeByAgent) := by
  rw [h]
  constructor
  case mp  => exact fun hu => hu w' response rfl
  case mpr => rintro hu _ _ ⟨⟩; exact hu

omit [Format] [Sha256] in
theorem Calls.unique (h : w.Calls rid idem body e₁ e₂ payload)
    (h' : w.Calls rid idem body e₁ e₂ payload') : payload = payload' :=
  Except.ok.inj <| h.decoded.symm.trans h'.decoded

theorem unchanged_iff_of_calls (hr : cfg.reg) (hp : cfg.pass)
    (hf : e₃.engine.server.issue.passportId ∉ w.engine.passports)
    (hc : w.Calls rid idem body e₁ e₂ payload) :
    (∀ w' response, w.serve cfg (.issuePassport rid idem body) [e₁, e₂, e₃, e₄] =
        (w', .returned response) → response.status ≠ .created →
      w'.engine.passports = w.engine.passports ∧
      w'.engine.activeByAgent = w.engine.activeByAgent) ↔
    ¬w.LeavesBehind payload e₃ e₄ := by
  have hs : payload.toRequest.requestedScopes ≠ [] := by
    simpa [IssuePayload.toRequest, buildIssueRequest] using (issuePayload?_ok hc.decoded).right
  by_cases hx : ∃ input, Reaches payload.toRequest e₃.engine input
  case neg =>
    obtain ⟨err, he⟩ := issuePassportJson_of_not_reaches (c := w.engine) (not_exists.mp hx)
    obtain ⟨response, h, _⟩ := serve_of_error e₄ hr hp hc he
    rw [unchanged_iff h]
    exact iff_of_true (fun _ => ⟨rfl, rfl⟩) fun ⟨input, hi, _⟩ => hx ⟨input, hi⟩
  case pos =>
    obtain ⟨input, hx⟩ := hx
    by_cases hi : Issues w.engine input e₃.engine.server.issue
    case pos =>
      obtain ⟨doc, c, he, hm⟩ := issuePassportJson_of_issues hx hs hi
      obtain ⟨m, response, h, hst⟩ := serve_of_ok e₄ hr hp hc he
      rw [unchanged_iff h, hst]
      constructor
      case mp =>
        rintro hu ⟨input', hx', hb⟩
        cases hx.unique hx'
        cases hb
        case inl hb => exact hf ((hu hb.right).left ▸ hm)
        case inr hb => exact hi.dependencies hb.right.left
      case mpr => exact fun hl hu => absurd ⟨input, hx, .inl ⟨hi, hu⟩⟩ hl
    case neg =>
      obtain ⟨err, c, he, ha, hn⟩ := issuePassportJson_of_not_issues hx hs hi
      obtain ⟨response, h, hst⟩ := serve_of_error e₄ hr hp hc he
      rw [unchanged_iff h]
      constructor
      case mp =>
        rintro hu ⟨input', hx', hb⟩
        cases hx.unique hx'
        cases hb
        case inl hb => exact hi hb.left
        case inr hb => exact hn.mp (hu hst).left hb
      case mpr => exact fun hl _ => ⟨hn.mpr fun hb => hl ⟨input, hx, .inr hb⟩, ha⟩

theorem failed_issue_unchanged_iff (hr : cfg.reg) (hp : cfg.pass)
    (hf : e₃.engine.server.issue.passportId ∉ w.engine.passports) :
    (∀ w' response, w.serve cfg (.issuePassport rid idem body) [e₁, e₂, e₃, e₄] =
        (w', .returned response) → response.status ≠ .created →
      w'.engine.passports = w.engine.passports ∧
      w'.engine.activeByAgent = w.engine.activeByAgent) ↔
    ¬∃ payload, w.Calls rid idem body e₁ e₂ payload ∧ w.LeavesBehind payload e₃ e₄ := by
  by_cases hc : ∃ payload, w.Calls rid idem body e₁ e₂ payload
  case neg =>
    have hc := not_exists.mp hc
    obtain ⟨response, hs⟩ := serve_of_not_calls e₃ e₄ hr hc
    rw [unchanged_iff hs]
    exact iff_of_true (fun _ => ⟨rfl, rfl⟩) fun ⟨payload, h, _⟩ => hc payload h
  case pos =>
    obtain ⟨payload, hc⟩ := hc
    rw [unchanged_iff_of_calls hr hp hf hc]
    refine not_congr ⟨fun hb => ⟨payload, hc, hb⟩, fun ⟨_, h, hb⟩ => ?_⟩
    exact hc.unique h ▸ hb

end World

namespace Sample

open scoped Sha256.Standard

-- Another client has registered an agent.
def elsewhere : World Memory where
  repo     := {}
  registry := (({} : AgentRegistry.Registry).registerWithAdmission "AUTONOMOUS" ownerId "" {} none
    ⟨0, "agent-2", "envelope-2", true⟩).2
  engine   := .new false false

def requested (w : World Memory) (n : String) : World Memory × Pc :=
  w.serve ⟨true, true, false⟩ (issuance "data/x") [env "4", env "5", env n, env "7"]

theorem failed_issue_leaves_passport :
    statusOf (requested elsewhere "6").2 = some .notFound ∧
    "passport-6" ∉ elsewhere.engine.passports ∧
    ((requested elsewhere "6").1.engine.passports.lookup "passport-6").map (·.status) =
      some .active ∧
    (requested elsewhere "6").1.engine.activeByAgent.lookup "agent-2" = some "passport-6" := by
  decide +kernel

-- When the request is made again, the passport is in the way.
theorem failed_issue_unchanged_again :
    ∃ w' response, requested (requested elsewhere "6").1 "8" = (w', .returned response) ∧
      response.status ≠ .created ∧
      w'.engine.passports = (requested elsewhere "6").1.engine.passports ∧
      w'.engine.activeByAgent = (requested elsewhere "6").1.engine.activeByAgent := by
  have ha : (requested elsewhere "6").1.engine.activeByAgent.lookup "agent-2" ≠ none := by
    decide +kernel
  have unchanged : ∀ w' response,
      requested (requested elsewhere "6").1 "8" = (w', .returned response) →
      response.status ≠ .created →
      w'.engine.passports = (requested elsewhere "6").1.engine.passports ∧
      w'.engine.activeByAgent = (requested elsewhere "6").1.engine.activeByAgent := by
    refine (World.failed_issue_unchanged_iff rfl rfl (by decide +kernel)).mpr ?_
    rintro ⟨payload, hc, input, ⟨_, pType, _, rfl⟩, hb⟩
    cases hc.decoded
    cases hb
    case inl hb => exact hb.left.free.elim ha Bool.false_ne_true
    case inr hb => exact Bool.false_ne_true hb.left.forced
  exact ⟨_, _, rfl, nofun, unchanged _ _ rfl nofun⟩

end Sample

end RestBff
