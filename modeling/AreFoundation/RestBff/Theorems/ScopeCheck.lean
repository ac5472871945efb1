import AreFoundation.RestBff.Theorems.Passports
import AreFoundation.ScopeEvaluator.GrpcPassport
import AreFoundation.ScopeEvaluator.Theorems.Decision

namespace RestBff

open S0Delegate
open PassportIssuance.Grpc (PassportMessage PassportScope)
open ScopeEvaluator (EvaluateScopeRequest ScopeEvaluatorService ScopeEntry ScopeError globMatch)
open ScopeEvaluator.GrpcPassportClient (passportFromProto)
open Interleaving

-- The scope check finds this passport only, under its identifier or as the passport of the agent.
def LooksAt [Repository ρ] (rp : ρ) (agentId passportId : String) (p : PassportMessage) : Prop :=
  if Go.trimSpace passportId ≠ "" then
    Repository.getPassportBody rp passportId = some (passportBody p)
  else
    Repository.listPassportBodiesByAgent rp agentId = [passportBody p]

-- A scope of the passport with the action whose pattern, read as a text that may end with a star,
-- covers the resource.
structure Accepts (p : PassportMessage) (agentId actionClass resource : String) : Prop where
  agentId : p.agentId = agentId
  scope   : ∃ scope ∈ p.scopeSet, scope.actionClass = actionClass ∧
              resourcePatternMatches scope.resourcePattern resource

-- A scope that gives the right without further conditions, where the pattern is read as a glob.
structure Grants (scope : PassportScope) (actionClass resource : String) (now : Int) : Prop where
  alive         : now < scope.expiresTs
  actionClass   : scope.actionClass = actionClass
  resource      : globMatch scope.resourcePattern resource = .ok true
  unconstrained : scope.contextConstraints = ∅

section

variable [Repository ρ] {rp : ρ} {p : PassportMessage} {actionClass resource : String}

theorem covers_passportToMap_iff :
    Covers (passportToMap p) actionClass resource ↔
      ∃ scope ∈ p.scopeSet, scope.actionClass = actionClass ∧
        resourcePatternMatches scope.resourcePattern resource := by
  have hs : ((passportToMap p).field "scope_set").elements = p.scopeSet.map scopeToMap := rfl
  have hr (scope : PassportScope) : (scopeToMap scope).isObject ∧
      ((scopeToMap scope).field "action_class").asString = scope.actionClass ∧
      ((scopeToMap scope).field "resource_pattern").asString = scope.resourcePattern :=
    ⟨rfl, rfl, rfl⟩
  simp [Covers, hs, hr]

theorem passportMatches_passportToMap_iff (hs : p.status = "ACTIVE") :
    passportMatches agentId actionClass resource (passportToMap p) ↔
      Accepts p agentId actionClass resource := by
  have ha : (passportToMap p).field "agent_id" = .string p.agentId := rfl
  have hs : (passportToMap p).field "status" = .string "ACTIVE" := hs ▸ rfl
  constructor
  case mp =>
    intro h
    have he : p.agentId = agentId := by
      simp only [passportMatches, Bool.and_eq_true, Json.isString_iff] at h
      exact Json.string.inj <| ha.symm.trans h.left.left
    exact ⟨he, covers_passportToMap_iff.mp <| (passportMatches_iff (he ▸ ha) hs).mp h⟩
  case mpr =>
    intro ⟨he, h⟩
    exact (passportMatches_iff (he ▸ ha) hs).mpr <| covers_passportToMap_iff.mpr h

theorem scopeAllows_iff (hs : p.status = "ACTIVE") (hl : LooksAt rp agentId passportId p) :
    (scopeAllows rp agentId passportId actionClass resource).1 ↔
      Accepts p agentId actionClass resource := by
  have hp : publicPassportFromBody (passportBody p) = passportToMap p := rfl
  rw [← passportMatches_passportToMap_iff hs, scopeAllows]
  unfold LooksAt at hl
  split
  case isTrue hn =>
    rw [if_pos hn] at hl
    simp only [hl, hp]
    split <;> simp_all
  case isFalse hn =>
    rw [if_neg hn] at hl
    simp only [hl, hp, List.any_cons, List.any_nil, Bool.or_false]
    split <;> simp_all

end

section

open ScopeEvaluator.ScopeEvaluatorService

variable {svc : ScopeEvaluatorService} {clock : Clock} {request : EvaluateScopeRequest}
variable {fetched : Except ScopeError ScopeEvaluator.Passport} {p : PassportMessage}

-- What the evaluator needs to find in a passport to decide in favour of a request.
structure Decisive (request : EvaluateScopeRequest) (p : PassportMessage) (now : Int) : Prop where
  agentId     : request.agentId ≠ ""
  actionClass : request.actionClass ≠ ""
  resource    : request.resource ≠ ""
  alive       : now < p.expiresTs
  scope       : ∃ scope ∈ p.scopeSet, Grants scope request.actionClass request.resource now

theorem exists_covers_iff (hc : request.context = ∅) :
    (∃ scope ∈ (passportFromProto p).scopes, scope.Covers request now) ↔
      ∃ scope ∈ p.scopeSet, Grants scope request.actionClass request.resource now := by
  constructor
  case mp =>
    intro ⟨_, hm, h⟩
    obtain ⟨scope, hs, rfl⟩ := List.mem_map.mp hm
    exact ⟨scope, hs, h.alive, h.actionClass, h.resource, h.context.elim id (·.trans hc)⟩
  case mpr =>
    intro ⟨scope, hm, h⟩
    exact ⟨_, List.mem_map_of_mem hm, h.alive, h.actionClass, h.resource, .inl h.unconstrained⟩

theorem evaluateScope_inScope_iff (hi : request.evaluationId ≠ "") (hc : request.context = ∅)
    (hp : (svc.getOrFetchPassport request.agentId clock.monotonic fetched).1 =
      .ok (passportFromProto p, cacheHit)) :
    (∃ resp, (svc.evaluateScope request clock fetched).1 = .ok resp ∧ resp.inScope) ↔
      Decisive request p clock.millis := by
  by_cases hr : request.Complete
  case pos =>
    obtain ⟨resp, he, hd⟩ := evaluateScope_decides hr hp
    have hx : resp.scopeMatches ≠ [] ↔
        ∃ scope ∈ (passportFromProto p).scopes, scope.Covers request clock.millis := by
      rw [hd.scopeMatches]
      simp [List.filter_eq_nil_iff]
    constructor
    case mp =>
      intro ⟨resp', he', hs⟩
      cases Except.ok.inj <| he.symm.trans he'
      obtain ⟨ha, hm⟩ := hd.inScope.mp hs
      exact ⟨hr.agentId, hr.actionClass, hr.resource, ha, (exists_covers_iff hc).mp <| hx.mp hm⟩
    case mpr =>
      intro h
      exact ⟨resp, he, hd.inScope.mpr ⟨h.alive, hx.mpr <| (exists_covers_iff hc).mpr h.scope⟩⟩
  case neg =>
    constructor
    case mp =>
      intro ⟨resp, he, _⟩
      unfold evaluateScope at he
      split at he
      case isTrue     => cases he
      case isFalse hn =>
        simp only [not_or] at hn
        exact absurd ⟨hn.1, hn.2.1, hn.2.2.1, hn.2.2.2⟩ hr
    case mpr => exact fun h => absurd ⟨hi, h.agentId, h.actionClass, h.resource⟩ hr

theorem scopeAllows_inScope_iff [Repository ρ] {rp : ρ} (hs : p.status = "ACTIVE")
    (hl : LooksAt rp request.agentId passportId p) (hi : request.evaluationId ≠ "")
    (hc : request.context = ∅)
    (hp : (svc.getOrFetchPassport request.agentId clock.monotonic fetched).1 =
      .ok (passportFromProto p, cacheHit)) :
    ((scopeAllows rp request.agentId passportId request.actionClass request.resource).1 →
      ∃ resp, (svc.evaluateScope request clock fetched).1 = .ok resp ∧ resp.inScope) ↔
    (Accepts p request.agentId request.actionClass request.resource →
      Decisive request p clock.millis) :=
  imp_congr (scopeAllows_iff hs hl) (evaluateScope_inScope_iff hi hc hp)

end

section Named

-- A passport that is listed for the agent has a scope for the action on the resource.
structure Memory.Entitles (m : Memory) (id a actionClass resource : String) : Prop where
  listed : id ∈ m.passportIdsOf a
  covers : ∃ doc, m.passports.lookup id = some doc ∧
             Covers (publicPassportFromBody doc) actionClass resource

variable {m : Memory} {id a actionClass resource : String}

theorem agentId_of_passportMatches {passport : Json}
    (h : passportMatches a actionClass resource passport) :
    passport.field "agent_id" = .string a := by
  simp only [passportMatches, Bool.and_eq_true, Json.isString_iff] at h
  exact h.left.left

theorem passportMatches_of_listed (h : m.Indexed) (hi : id ∈ m.passportIdsOf a)
    (hd : m.passports.lookup id = some doc) :
    passportMatches a actionClass resource (publicPassportFromBody doc) ↔
      Covers (publicPassportFromBody doc) actionClass resource := by
  obtain ⟨doc', hd', hc⟩ := h.indexed hi
  cases Option.some.inj <| hd.symm.trans hd'
  exact passportMatches_iff hc.agentId hc.status

-- The agent in the body of a passport is the one that the passport is listed for.
theorem scopeAllows_named_iff (h : m.Indexed) (hn : Go.trimSpace id ≠ "") :
    (scopeAllows m a id actionClass resource).1 ↔ m.Entitles id a actionClass resource := by
  have hb : Repository.getPassportBody m id = m.passports.lookup id := rfl
  simp only [scopeAllows, hn, ne_eq, not_false_eq_true, if_true, hb]
  constructor
  case mp =>
    intro hs
    split at hs
    case h_1 => cases hs
    case h_2 doc hd =>
      split at hs
      case isFalse => cases hs
      case isTrue hf =>
        obtain ⟨a', hc, hi⟩ := h.certified hd
        cases Json.string.inj <| hc.agentId.symm.trans (agentId_of_passportMatches hf)
        exact ⟨hi, doc, hd, (passportMatches_of_listed h hi hd).mp hf⟩
  case mpr =>
    rintro ⟨hi, doc, hd, hv⟩
    simp [hd, (passportMatches_of_listed h hi hd).mpr hv]

theorem scopeAllows_unnamed_iff (h : m.Indexed) (hn : Go.trimSpace passportId = "") :
    (scopeAllows m a passportId actionClass resource).1 ↔
      ∃ id, m.Entitles id a actionClass resource := by
  have hs : (scopeAllows m a passportId actionClass resource).1 ↔
      ∃ doc ∈ Repository.listPassportBodiesByAgent m a,
        passportMatches a actionClass resource (publicPassportFromBody doc) := by
    simp only [scopeAllows, hn, ne_eq, not_true_eq_false, if_false]
    split <;> simp_all
  rw [hs]
  constructor
  case mp =>
    rintro ⟨doc, hl, hf⟩
    obtain ⟨id, hi, hd⟩ := List.mem_filterMap.mp hl
    exact ⟨id, hi, doc, hd, (passportMatches_of_listed h hi hd).mp hf⟩
  case mpr =>
    rintro ⟨id, hi, doc, hd, hv⟩
    exact ⟨doc, List.mem_filterMap.mpr ⟨id, hi, hd⟩, (passportMatches_of_listed h hi hd).mpr hv⟩

variable [DecidableEq ι] [Format] [Sha256] {cfg : Config} {requests : ι → Request}
variable {g : Guard ι (World Memory) Pc Env} {s : State ι (World Memory) Pc}
variable {registry : AgentRegistry.Registry} {engine : PassportIssuance.Service}

-- No assumption is made on whether the services are called.
theorem run_scopeAllows_named (r : Run (server cfg requests) g (idle ι registry engine) s)
    (a actionClass resource : String) :
    (∀ passportId, Go.trimSpace passportId ≠ "" →
      (scopeAllows s.shared.repo a passportId actionClass resource).1 →
      (scopeAllows s.shared.repo a "" actionClass resource).1) ∧
    ((scopeAllows s.shared.repo a "" actionClass resource).1 →
      ∃ passportId ∈ s.shared.repo.passportIdsOf a,
        (scopeAllows s.shared.repo a passportId actionClass resource).1) := by
  have hm := run_indexed r
  have hu : (scopeAllows s.shared.repo a "" actionClass resource).1 ↔
      ∃ id, s.shared.repo.Entitles id a actionClass resource := scopeAllows_unnamed_iff hm rfl
  rw [hu]
  refine ⟨fun id hn hs => ⟨id, (scopeAllows_named_iff hm hn).mp hs⟩, fun ⟨id, hs⟩ => ?_⟩
  obtain ⟨_, _, hc⟩ := hm.indexed hs.listed
  exact ⟨id, hs.listed, (scopeAllows_named_iff hm hc.plainId).mpr hs⟩

end Named

namespace Sample

open ScopeEvaluator.ScopeEvaluatorService

-- A passport for everything below a path, which expires after 2 seconds.
def stored : PassportMessage where
  passportId          := "passport-1"
  agentId             := "agent-1"
  passportType        := "STANDARD"
  scopeSet            := [⟨"scope-1", "READ", "data/*", ∅, 0, 2000, false⟩]
  status              := "ACTIVE"
  issuedBy            := "authority"
  credentialId        := "cred-local"
  publicKeyPem        := "pub-local"
  signature           := []
  issuedTs            := 0
  expiresTs           := 2000
  revokedTs           := 0
  revocationReason    := ""
  supersededBy        := ""
  policyIdAtIssuance  := ""
  policyVerAtIssuance := ""

def repository : Memory :=
  ({} : Memory).recordPassport (passportKey "k") "agent-1" (passportBody stored)

def evaluation (resource : String) : EvaluateScopeRequest where
  evaluationId := "e"
  agentId      := "agent-1"
  actionClass  := "READ"
  resource     := resource

def evaluator : ScopeEvaluatorService :=
  .new 500 60 5

theorem scopeAllows_inScope_stored :
    ∃ resp, (evaluator.evaluateScope (evaluation "data/x") ⟨1000, 0⟩
      (.ok <| passportFromProto stored)).1 = .ok resp ∧ resp.inScope := by
  have hl : LooksAt repository (evaluation "data/x").agentId "passport-1" stored := rfl
  have hd : Decisive (evaluation "data/x") stored 1000 :=
    ⟨by decide, by decide, by decide, by decide, _, .head _, by decide, rfl, by decide +kernel, rfl⟩
  exact (scopeAllows_inScope_iff rfl hl (by decide) rfl rfl).mpr (fun _ => hd) (by decide +kernel)

-- The star is taken to cover several segments, and an expired passport is accepted.
theorem scopeAllows_beyond_evaluator :
    LooksAt repository "agent-1" "passport-1" stored ∧ LooksAt repository "agent-1" "" stored ∧
    (scopeAllows repository "agent-1" "passport-1" "READ" "data/x/y").1 ∧
    (scopeAllows repository "agent-1" "" "READ" "data/x/y").1 ∧
    (evaluator.evaluateScope (evaluation "data/x/y") ⟨1000, 0⟩
      (.ok <| passportFromProto stored)).1.toOption.map (·.inScope) = some false ∧
    (scopeAllows repository "agent-1" "passport-1" "READ" "data/x").1 ∧
    (evaluator.evaluateScope (evaluation "data/x") ⟨3000, 0⟩
      (.ok <| passportFromProto stored)).1.toOption.map (·.inScope) = some false := by
  refine ⟨rfl, rfl, ?_⟩
  decide +kernel

open scoped Sha256.Standard

-- An agent is registered and gets a passport.
def enrolment : Bool → Request
  | false => registration "AUTONOMOUS"
  | true  => .issuePassport "r" "k" (issueBody "agt-k" "data/*")

def enrolled : State Bool (World Memory) Pc :=
  Transition.exec (server ⟨false, false, false⟩ enrolment).interleaved
    (idle Bool {} (.new false false))
    [(false, env "1"), (false, env "2"), (true, env "3"), (true, env "4"), (true, env "5")]

theorem run_scopeAllows_named_enrolled :
    (scopeAllows enrolled.shared.repo "agt-k" "" "READ" "data/x").1 ∧
    ∃ passportId ∈ enrolled.shared.repo.passportIdsOf "agt-k",
      (scopeAllows enrolled.shared.repo "agt-k" passportId "READ" "data/x").1 := by
  have r : Run (server ⟨false, false, false⟩ enrolment) .any (idle Bool {} (.new false false))
      enrolled := .ofSchedule _ (by decide +kernel)
  obtain ⟨hn, hu⟩ := run_scopeAllows_named r "agt-k" "READ" "data/x"
  have hs := hn "ppt-k" (by decide +kernel) (by decide +kernel)
  exact ⟨hs, hu hs⟩

end Sample

end RestBff
