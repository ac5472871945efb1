import AreFoundation.RestBff.Theorems.Rollback

open Interleaving

namespace PassportIssuance

-- The credential store signs with other bytes.
def IssueEnv.resigned (env : IssueEnv) (bytes : List UInt8) : IssueEnv :=
  { env with sign := env.sign.map ({ · with signature := bytes }) }

def Passport.resigned (p : Passport) (bytes : List UInt8) : Passport :=
  { p with signature := bytes }

namespace Service

-- What the answers of the service depend on.
structure SameIndex (s s' : Service) : Prop where
  activeByAgent : s'.activeByAgent = s.activeByAgent
  policyBundles : s'.policyBundles = s.policyBundles

-- The second call, for which other bytes are signed, has the same outcome.
structure Resigned (bytes : List UInt8) (r r' : Except ServiceError Passport × Service) : Prop where
  result : r'.1 = r.1.map (·.resigned bytes)
  index  : SameIndex r.2 r'.2

variable {s s' : Service} {input : IssueInput} {env : IssueEnv} {bytes : List UInt8}

theorem SameIndex.policyAtIssuance (h : SameIndex s s') :
    s'.policyAtIssuance input (env.resigned bytes) = s.policyAtIssuance input env := by
  simp only [Service.policyAtIssuance, h.policyBundles]
  rfl

theorem SameIndex.recordPassport (h : SameIndex s s') {p : Passport} :
    SameIndex (s.recordPassport p) (s'.recordPassport (p.resigned bytes)) :=
  ⟨congrArg (·.insert p.agentId p.passportId) h.activeByAgent, h.policyBundles⟩

variable [Sha256]

theorem SameIndex.issueNew (h : SameIndex s s') :
    Resigned bytes (s.issueNew input env) (s'.issueNew input (env.resigned bytes)) := by
  unfold Service.issueNew
  cases hs : env.sign
  case none =>
    have hs' : (env.resigned bytes).sign = none := by simp [IssueEnv.resigned, hs]
    rw [hs']
    exact ⟨rfl, h⟩
  case some signed =>
    have hs' : (env.resigned bytes).sign = some { signed with signature := bytes } := by
      simp [IssueEnv.resigned, hs]
    have h' : SameIndex
        (s.recordSignature ⟨signed.publicKey, input.payload env.now, signed.signature⟩)
        (s'.recordSignature ⟨signed.publicKey, input.payload (env.resigned bytes).now, bytes⟩) :=
      ⟨h.activeByAgent, h.policyBundles⟩
    rw [hs']
    dsimp only
    rw [h'.policyAtIssuance]
    split
    case h_1 => exact ⟨rfl, h'⟩
    case h_2 => exact ⟨rfl, h'.recordPassport⟩

theorem SameIndex.issuePassport (h : SameIndex s s') :
    Resigned bytes (s.issuePassport input env) (s'.issuePassport input (env.resigned bytes)) := by
  have hc : (env.resigned bytes).agentStatus = env.agentStatus := rfl
  unfold Service.issuePassport
  rw [h.activeByAgent, hc]
  cases input.check env.agentStatus
  case error => exact ⟨rfl, h⟩
  case ok    =>
    cases s.activeByAgent.lookup input.agentId
    case none      => exact h.issueNew
    case some id =>
      by_cases hf : input.forceReissue
      case pos =>
        simp only [hf, if_true]
        exact SameIndex.issueNew ⟨h.activeByAgent, h.policyBundles⟩
      case neg =>
        simp only [hf]
        exact ⟨rfl, h⟩

end Service

end PassportIssuance

namespace RestBff

open S0Delegate PassportIssuance PassportIssuance.Grpc
open PassportIssuance.Service (Issues SameIndex)

def Env.resigned (env : Env) (bytes : List UInt8) : Env :=
  { env with engine := { env.engine with
      server := { env.engine.server with issue := env.engine.server.issue.resigned bytes } } }

-- What a document shows of a signature.
def shown (bytes : List UInt8) : Option String :=
  if bytes = [] then none else some (Go.jsonText bytes)

def Env.shownSignature (env : Env) : Option (Option String) :=
  env.engine.server.issue.sign.map (shown ·.signature)

theorem shown_eq_iff {bytes bytes' : List UInt8} :
    shown bytes = shown bytes' ↔
      (bytes = [] ↔ bytes' = []) ∧ (bytes ≠ [] → Go.jsonText bytes = Go.jsonText bytes') := by
  by_cases h : bytes = [] <;> by_cases h' : bytes' = []
  all_goals simp [shown, h, h']

theorem passportBody_resigned {p : Passport} {bytes : List UInt8}
    (h : shown p.signature = shown bytes) :
    passportBody (passportToProto <| p.resigned bytes) = passportBody (passportToProto p) := by
  have ⟨hn, ht⟩ := shown_eq_iff.mp h
  by_cases hs : p.signature = []
  case pos => simp [passportBody, passportToMap, passportToProto, Passport.resigned, hs, hn.mp hs]
  case neg =>
    simp only [passportBody, passportToMap, passportToProto, Passport.resigned, ne_eq, hs,
      mt hn.mpr hs, not_false_eq_true, if_true, ht hs]
    rfl

-- The engine is about to be called, and it will issue a passport.
def World.Signs [Format] (w : World ρ) (env : Env) : Pc → Prop
  | .issuing payload =>
    ∃ input, Reaches payload.toRequest env.engine input ∧
      Issues w.engine input env.engine.server.issue
  | _ => False

-- The states of the engine may differ in the signatures that have been produced.
structure World.Alike (w w' : World ρ) : Prop where
  repo     : w'.repo = w.repo
  registry : w'.registry = w.registry
  index    : SameIndex w.engine w'.engine

section Step

variable [Sha256] {env : Env} {bytes : List UInt8}

theorem issuePassportJson_resigned {c c' : Service} (req : IssuePassportRequest)
    (h : SameIndex c c')
    (hs : ∀ input, Reaches req env.engine input → Issues c input env.engine.server.issue →
      (env.resigned bytes).shownSignature = env.shownSignature) :
    (issuePassportJson c' req (env.resigned bytes).engine).1 =
      (issuePassportJson c req env.engine).1 ∧
    SameIndex (issuePassportJson c req env.engine).2
      (issuePassportJson c' req (env.resigned bytes).engine).2 := by
  have hf' : (env.resigned bytes).engine.failed = env.engine.failed := rfl
  have hi pType : req.toInput pType (env.resigned bytes).engine.server =
      req.toInput pType env.engine.server := rfl
  unfold issuePassportJson
  rw [hf']
  cases hf : env.engine.failed
  case some => exact ⟨rfl, h⟩
  case none =>
    unfold Grpc.issuePassport
    cases hp : parsePassportType req.passportType
    case error => exact ⟨rfl, h⟩
    case ok pType =>
      by_cases hr : req.requestedScopes = []
      case pos =>
        simp [hr, h]
      case neg =>
        simp only [hr, if_false, hi]
        have hq : Service.Resigned bytes
            (c.issuePassport (req.toInput pType env.engine.server) env.engine.server.issue)
            (c'.issuePassport (req.toInput pType env.engine.server)
              (env.resigned bytes).engine.server.issue) := h.issuePassport
        have hc := c.issuePassport_cases (req.toInput pType env.engine.server)
          env.engine.server.issue
        generalize hr : c.issuePassport (req.toInput pType env.engine.server) _ = r at hq hc
        generalize c'.issuePassport (req.toInput pType env.engine.server) _ = r' at hq
        obtain ⟨out, c₁⟩ := r
        obtain ⟨out', c₁'⟩ := r'
        obtain ⟨rfl, hx⟩ := hq
        cases out
        case error => exact ⟨rfl, hx⟩
        case ok p  =>
          have hs := hs _ ⟨hf, pType, hp, rfl⟩ (Service.issues_of_ok hr)
          obtain ⟨signed, _, hg, rfl⟩ := hc.eq_toPassport
          have ht : some (shown bytes) = some (shown signed.signature) := by
            simpa [Env.shownSignature, Env.resigned, IssueEnv.resigned, hg] using hs
          exact ⟨congrArg Except.ok <| passportBody_resigned (Option.some.inj ht).symm, hx⟩

end Step

namespace World

variable {cfg : Config} {env : Env} {w w' : World ρ}

theorem Alike.callRegister [Format] (h : Alike w w') {payload : RegisterPayload} :
    (w'.callRegister rid (env.resigned bytes) payload).2 = (w.callRegister rid env payload).2 ∧
      Alike (w.callRegister rid env payload).1
        (w'.callRegister rid (env.resigned bytes) payload).1 := by
  have hr : (env.resigned bytes).registry = env.registry := rfl
  unfold World.callRegister
  rw [h.registry, hr]
  rcases S0Delegate.register w.registry payload.agentType payload.ownerId payload.metadata
    payload.admission env.registry with ⟨_ | _, _⟩
  all_goals exact ⟨rfl, h.repo, rfl, h.index⟩

theorem Alike.finishRegister [Repository ρ] (h : Alike w w') :
    (w'.finishRegister rid idem (env.resigned bytes) agentId doc record).2 =
        (w.finishRegister rid idem env agentId doc record).2 ∧
      Alike (w.finishRegister rid idem env agentId doc record).1
        (w'.finishRegister rid idem (env.resigned bytes) agentId doc record).1 := by
  have hs : (env.resigned bytes).storageFails = env.storageFails := rfl
  unfold World.finishRegister
  rw [h.repo, hs]
  split
  case isTrue  => exact ⟨rfl, h⟩
  case isFalse => exact ⟨rfl, rfl, h.registry, h.index⟩

theorem Alike.callIssue [Format] [Sha256] {payload : IssuePayload} (h : Alike w w')
    (hs : w.Signs env (.issuing payload) →
      (env.resigned bytes).shownSignature = env.shownSignature) :
    (w'.callIssue rid (env.resigned bytes) payload).2 = (w.callIssue rid env payload).2 ∧
      Alike (w.callIssue rid env payload).1 (w'.callIssue rid (env.resigned bytes) payload).1 := by
  obtain ⟨he, hx⟩ := issuePassportJson_resigned payload.toRequest h.index
    fun input hr hi => hs ⟨input, hr, hi⟩
  unfold World.callIssue
  rcases hc : issuePassportJson w.engine payload.toRequest env.engine with ⟨_ | _, _⟩
  all_goals
    rcases hc' : issuePassportJson w'.engine payload.toRequest (env.resigned bytes).engine
      with ⟨_, _⟩
    rw [hc, hc'] at he hx
    cases he
    exact ⟨rfl, h.repo, h.registry, hx⟩

theorem Alike.finishPassport [Repository ρ] (h : Alike w w') :
    (w'.finishPassport rid idem (env.resigned bytes) agentId doc).2 =
        (w.finishPassport rid idem env agentId doc).2 ∧
      Alike (w.finishPassport rid idem env agentId doc).1
        (w'.finishPassport rid idem (env.resigned bytes) agentId doc).1 := by
  have hs : (env.resigned bytes).storageFails = env.storageFails := rfl
  unfold World.finishPassport
  rw [h.repo, hs]
  split
  case isTrue  => exact ⟨rfl, h⟩
  case isFalse =>
    rcases Repository.finishPassport w.repo (passportKey idem) agentId doc with ⟨(_ | _) | _, _⟩
    all_goals exact ⟨rfl, rfl, h.registry, h.index⟩

theorem Alike.evaluateScope [Repository ρ] (h : Alike w w') :
    w'.evaluateScope rid body (env.resigned bytes) = w.evaluateScope rid body env := by
  have hs : (env.resigned bytes).storageFails = env.storageFails := rfl
  simp only [World.evaluateScope, h.repo, hs]

-- Where the engine is not called, the handlers do not even look at its state.
theorem Alike.step [Repository ρ] [Format] [Sha256] (h : Alike w w') (cfg : Config)
    (request : Request)
    (hs : w.Signs env pc → (env.resigned bytes).shownSignature = env.shownSignature) :
    (w'.step cfg (env.resigned bytes) request pc).2 = (w.step cfg env request pc).2 ∧
      Alike (w.step cfg env request pc).1 (w'.step cfg (env.resigned bytes) request pc).1 := by
  unfold World.step
  split
  case h_2  => exact h.callRegister
  case h_3  => exact h.finishRegister
  case h_7  => exact h.callIssue hs
  case h_8  => exact h.finishPassport
  case h_11 => exact ⟨congrArg Pc.returned h.evaluateScope, h⟩
  all_goals
    obtain ⟨m, c, s⟩ := w
    obtain ⟨m', c', s'⟩ := w'
    obtain ⟨rfl, rfl, hx⟩ := h
    exact ⟨rfl, rfl, rfl, hx⟩

end World

open World

section Run

variable [DecidableEq ι] [Repository ρ] [Format] [Sha256] {cfg : Config} {requests : ι → Request}
variable {s₀ s s' : State ι (World ρ) Pc}

-- A step of two runs: the outside decides the same in both, except for the bytes of a signature.
structure Twin (_ : State ι (World ρ) Pc × State ι (World ρ) Pc)
    (e : (ι × Env) × (ι × Env)) : Prop where
  request : e.2.1 = e.1.1
  other   : ∃ bytes, e.2.2 = e.1.2.resigned bytes

-- The signatures of a passport that is issued look the same in a document.
structure Unnoticed (s : State ι (World ρ) Pc × State ι (World ρ) Pc)
    (e : (ι × Env) × (ι × Env)) : Prop extends Twin s e where
  shown : s.1.shared.Signs e.1.2 (s.1.locals e.1.1) →
            e.2.2.shownSignature = e.1.2.shownSignature

theorem alike_next (h : Alike s.shared s'.shared) (hl : s'.locals = s.locals)
    (hs : s.shared.Signs e (s.locals i) →
      (e.resigned bytes).shownSignature = e.shownSignature) :
    (s'.next (server cfg requests) i (e.resigned bytes)).locals =
        (s.next (server cfg requests) i e).locals ∧
      Alike (s.next (server cfg requests) i e).shared
        (s'.next (server cfg requests) i (e.resigned bytes)).shared := by
  have ⟨he, ha⟩ := h.step cfg (requests i) hs
  simp only [State.next, server, hl]
  exact ⟨congrArg _ he, ha⟩

-- The responses are part of the local states. Any repository may be used, and the runs may start in
-- any state.
theorem run_responses_eq
    (r : Transition.Run (server cfg requests).interleaved.pair Unnoticed (s₀, s₀) (s, s')) :
    s'.locals = s.locals := by
  have step {s : State ι (World ρ) Pc × State ι (World ρ) Pc} {e}
      (h : s.2.locals = s.1.locals ∧ Alike s.1.shared s.2.shared) (c : Unnoticed s e) :
      ((server cfg requests).interleaved.pair.step s e).2.locals =
          ((server cfg requests).interleaved.pair.step s e).1.locals ∧
        Alike ((server cfg requests).interleaved.pair.step s e).1.shared
          ((server cfg requests).interleaved.pair.step s e).2.shared := by
    obtain ⟨⟨i, e⟩, ⟨j, e'⟩⟩ := e
    obtain ⟨⟨hi, bytes, he⟩, hs⟩ := c
    dsimp only at hi he
    subst hi he
    exact alike_next h.right h.left hs
  exact (r.invariant (P := fun s => s.2.locals = s.1.locals ∧ Alike s.1.shared s.2.shared)
    (fun h _ c => step h c) ⟨rfl, rfl, rfl, rfl, rfl⟩).left

end Run

namespace Sample

open scoped Sha256.Standard

def resign (bytes : List UInt8) (e : Endpoint × Env) : Endpoint × Env :=
  (e.1, e.2.resigned bytes)

-- No character starts with the first of the bytes.
def garbled : List (Endpoint × Env) :=
  issuing.map (resign [0xff])

def reissued (sched : List (Endpoint × Env)) : State Endpoint (World Memory) Pc :=
  Transition.exec (server ⟨true, true, false⟩ endpoints).interleaved
    (idle Endpoint {} (.new false false)) sched

-- The engine has stored two different signatures, which are shown alike.
theorem run_responses_eq_garbled :
    (reissued garbled).shared.engine.credentials ≠
      (reissued <| garbled.map (resign [0xfe])).shared.engine.credentials ∧
    (reissued <| garbled.map (resign [0xfe])).locals = (reissued garbled).locals := by
  have shown : ∀ e ∈ garbled, (e.2.resigned [0xfe]).shownSignature = e.2.shownSignature := by
    decide +kernel
  have r : Transition.Run (server ⟨true, true, false⟩ endpoints).interleaved.pair Unnoticed
      (idle Endpoint {} (.new false false), idle Endpoint {} (.new false false))
      (reissued garbled, reissued <| garbled.map (resign [0xfe])) := by
    refine .ofSchedules garbled (fun _ e he => ⟨⟨rfl, _, rfl⟩, fun _ => shown e he⟩) ?_ ?_
    all_goals decide +kernel
  exact ⟨by decide +kernel, run_responses_eq r⟩

theorem signature_in_response :
    Nonempty (Transition.Run (server ⟨true, true, false⟩ endpoints).interleaved.pair Twin
      (idle Endpoint {} (.new false false), idle Endpoint {} (.new false false))
      (issued, reissued <| issuing.map (resign [0x78]))) ∧
    (∃ response, issued.locals .issue = .returned response ∧
      (response.body.field "passport").field "signature" = .string "sig") ∧
    (∃ response, (reissued <| issuing.map (resign [0x78])).locals .issue = .returned response ∧
      (response.body.field "passport").field "signature" = .string "x") := by
  refine ⟨⟨.ofSchedules issuing (fun _ _ _ => ⟨rfl, _, rfl⟩) ?_ ?_⟩, ⟨_, rfl, rfl⟩, ⟨_, rfl, rfl⟩⟩
  all_goals decide +kernel

end Sample

end RestBff
