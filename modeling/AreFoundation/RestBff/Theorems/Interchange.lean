import AreFoundation.RestBff.Postgres
import AreFoundation.RestBff.Theorems.Passports

open Transition

namespace RestBff

open S0Delegate

-- A column of a table and a map that agree still do so after the same insertion.
theorem select_insert_eq {key : α → String} {t : Table.Keyed key} {m : HashMap String β} {f : α → β}
    (h : ∀ k, (t.select k).map f = m.lookup k) (hn : t.select (key row) = none) (k : String) :
    ((t.insert row hn).select k).map f = (m.insert (key row) (f row)).lookup k := by
  rw [Table.Keyed.select_insert, HashMap.lookup_insert]
  split
  case isTrue  => rfl
  case isFalse => exact h k

-- The tables hold what the maps hold. The identifiers that are assigned locally determine the keys of
-- the requests, which is why the clauses for conflicts are never used.
structure Mirrors (p : Postgres) (m : Memory) : Prop where
  agents       : ∀ a, p.agents.select a = (m.agents.lookup a).map (·.toRow a)
  registerIdem : ∀ key, p.getRegisterIdem key = m.getRegisterIdem key
  passportIdem : ∀ key, p.getPassportIdem key = m.getPassportIdem key
  passports    : ∀ id, p.getPassportBody id = m.getPassportBody id
  listed       : ∀ a, (p.passports.rows.filter (·.agentId = a)).map (·.responseBody) =
                   m.listPassportBodiesByAgent a
  indexed      : ∀ {a id}, id ∈ m.passportIdsOf a → id ∈ m.passports
  agentKeys    : ∀ {idem}, localAgentId idem ∈ m.agents → registerKey idem ∈ m.registerIdem
  passportKeys : ∀ {idem}, localPassportId idem ∈ m.passports → passportKey idem ∈ m.passportIdem

namespace Mirrors

variable {p : Postgres} {m : Memory} {a idem : String} {doc : Json} {record : AgentRec}

theorem init : Mirrors {} {} where
  agents _       := rfl
  registerIdem _ := rfl
  passportIdem _ := rfl
  passports _    := rfl
  listed _       := rfl
  indexed h      := by simp [Memory.passportIdsOf] at h
  agentKeys h    := absurd h Finmap.notMem_empty
  passportKeys h := absurd h Finmap.notMem_empty

theorem getAgent (h : Mirrors p m) (a : String) :
    p.getAgent a = (m.getAgent a).map ({ · with admissionEnvelope := {} }) := by
  rw [Postgres.getAgent, h.agents, Option.map_map]
  rfl

theorem getAdmissionEnvelope (h : Mirrors p m) (a : String) :
    p.getAdmissionEnvelope a = m.getAdmissionEnvelope a := by
  unfold Postgres.getAdmissionEnvelope Memory.getAdmissionEnvelope
  rw [h.agents]
  cases m.agents.lookup a
  case none        => rfl
  case some record => by_cases hs : record.admissionEnvelope.size = 0 <;> simp [AgentRec.toRow, hs]

theorem listPassportBodiesByAgent (h : Mirrors p m) (a : String) :
    (p.listPassportBodiesByAgent a).Perm (m.listPassportBodiesByAgent a) := by
  rw [← h.listed]
  exact (List.perm_insertionSort _ _).map _

theorem select_registerIdem (h : Mirrors p m) (hn : m.registerIdem.lookup key = none) :
    p.registerIdem.select key = none :=
  Option.map_eq_none_iff.mp <| (h.registerIdem key).trans hn

theorem select_passportIdem (h : Mirrors p m) (hn : m.passportIdem.lookup key = none) :
    p.passportIdem.select key = none :=
  Option.map_eq_none_iff.mp <| (h.passportIdem key).trans hn

end Mirrors

theorem Memory.listPassportBodiesByAgent_recordPassport {m : Memory} {id a : String}
    (hc : Certifies doc id a) (hn : id ∉ m.passports)
    (hi : ∀ {a id}, id ∈ m.passportIdsOf a → id ∈ m.passports)
    (a' : String) :
    (m.recordPassport key a doc).listPassportBodiesByAgent a' =
      m.listPassportBodiesByAgent a' ++ if a' = a then [doc] else [] := by
  have old : (m.passportIdsOf a').filterMap (m.passports.insert id doc).lookup =
      (m.passportIdsOf a').filterMap m.passports.lookup := by
    refine List.filterMap_congr fun id' hi' => Finmap.lookup_insert_of_ne _ ?_
    rintro rfl
    exact hn <| hi hi'
  unfold listPassportBodiesByAgent
  rw [passportIdsOf_recordPassport hc.decoded hc.id_ne, passports_recordPassport hc.decoded hc.id_ne]
  split
  case isTrue he =>
    subst he
    rw [List.filterMap_append, old]
    simp
  case isFalse => rw [old, List.append_nil]

namespace Mirrors

variable {p : Postgres} {m : Memory} {a idem : String} {doc : Json} {record : AgentRec}

theorem finishRegister (h : Mirrors p m) (idem : String) (doc : Json) (record : AgentRec) :
    ∃ out p' m', p.finishRegister (registerKey idem) (localAgentId idem) doc record = (out, p') ∧
      m.finishRegister (registerKey idem) (localAgentId idem) doc record = (out, m') ∧
      Mirrors p' m' := by
  cases hk : m.registerIdem.lookup (registerKey idem)
  case some prev =>
    exact ⟨prev, p, m, Postgres.finishRegister_of_some <| (h.registerIdem _).trans hk,
      Memory.finishRegister_of_some hk, h⟩
  case none =>
    have hp := h.select_registerIdem hk
    have ha : m.agents.lookup (localAgentId idem) = none :=
      Finmap.lookup_eq_none.mpr fun ha => Finmap.lookup_eq_none.mp hk <| h.agentKeys ha
    have ha' : p.agents.select (record.toRow <| localAgentId idem).agentId = none := by
      rw [h.agents]
      exact Option.map_eq_none_iff.mpr ha
    refine ⟨doc, _, _, Postgres.finishRegister_of_none hp, Memory.finishRegister_of_none hk, ?_⟩
    rw [Table.Keyed.insertOrIgnore_of_none ha']
    exact
      { h with
        agents := by
          intro a
          simp only [Table.Keyed.select_insert, Memory.recordRegister, HashMap.lookup_insert,
            h.agents]
          by_cases he : a = localAgentId idem <;> simp [he, AgentRec.toRow]
        registerIdem := select_insert_eq h.registerIdem hp
        agentKeys := by
          intro idem' hm
          simp only [Memory.recordRegister, Finmap.mem_insert] at hm ⊢
          exact hm.imp (fun he => congrArg registerKey <| localAgentId_injective he) h.agentKeys }

theorem recordPassport (h : Mirrors p m) (hc : Certifies doc (localPassportId idem) a)
    (hk : m.passportIdem.lookup (passportKey idem) = none) :
    Mirrors
      { p with
        passportIdem := p.passportIdem.insert ⟨passportKey idem, doc⟩ (h.select_passportIdem hk)
        passports    := p.recordPassport a doc }
      (m.recordPassport (passportKey idem) a doc) := by
  have hn : localPassportId idem ∉ m.passports :=
    fun hp => Finmap.lookup_eq_none.mp hk <| h.passportKeys hp
  have hs : p.passports.select (localPassportId idem) = none :=
    Option.map_eq_none_iff.mp <| (h.passports _).trans <| Finmap.lookup_eq_none.mpr hn
  rw [Postgres.recordPassport_of_none hc.decoded hc.id_ne hs]
  constructor
  case agents => simpa using h.agents
  case registerIdem =>
    intro key
    rw [Memory.getRegisterIdem, Memory.recordPassport_registerIdem]
    exact h.registerIdem key
  case passportIdem =>
    intro key
    rw [Memory.getPassportIdem, Memory.recordPassport_passportIdem]
    exact select_insert_eq h.passportIdem (h.select_passportIdem hk) key
  case passports =>
    intro id
    rw [Memory.getPassportBody, Memory.passports_recordPassport hc.decoded hc.id_ne]
    exact select_insert_eq h.passports hs id
  case listed =>
    intro a'
    rw [Memory.listPassportBodiesByAgent_recordPassport hc hn h.indexed, ← h.listed]
    by_cases he : a' = a <;> simp [Table.Keyed.insert, he, eq_comm]
  case indexed =>
    intro a' id hi
    rw [Memory.passportIdsOf_recordPassport hc.decoded hc.id_ne] at hi
    rw [Memory.passports_recordPassport hc.decoded hc.id_ne, Finmap.mem_insert]
    split at hi
    case isFalse => exact .inr <| h.indexed hi
    case isTrue  =>
      cases List.mem_append.mp hi
      case inl hi => exact .inr <| h.indexed hi
      case inr hi => exact .inl <| List.mem_singleton.mp hi
  case agentKeys =>
    intro idem' ha
    rw [Memory.recordPassport_agents] at ha
    rw [Memory.recordPassport_registerIdem]
    exact h.agentKeys ha
  case passportKeys =>
    intro idem' hm
    rw [Memory.passports_recordPassport hc.decoded hc.id_ne, Finmap.mem_insert] at hm
    rw [Memory.recordPassport_passportIdem, Finmap.mem_insert]
    exact hm.imp (fun he => congrArg passportKey <| localPassportId_injective he) h.passportKeys

theorem finishPassport (h : Mirrors p m) (hc : Certifies doc (localPassportId idem) a) :
    ∃ out p' m', p.finishPassport (passportKey idem) a doc = (out, p') ∧
      m.finishPassport (passportKey idem) a doc = (out, m') ∧ Mirrors p' m' := by
  cases hk : m.passportIdem.lookup (passportKey idem)
  case some prev =>
    exact ⟨.ok prev, p, m, Postgres.finishPassport_of_some <| (h.passportIdem _).trans hk,
      Memory.finishPassport_of_some hk, h⟩
  case none =>
    have hp := h.select_passportIdem hk
    cases ha : m.agents.lookup a
    case none =>
      have ha' : p.agents.select a = none := by rw [h.agents, ha, Option.map_none]
      exact ⟨_, p, m, Postgres.finishPassport_of_unknown hp ha',
        Memory.finishPassport_of_not_mem hk <| Finmap.lookup_eq_none.mp ha, h⟩
    case some record =>
      have ha' : p.agents.select a = some (record.toRow a) := by rw [h.agents, ha, Option.map_some]
      exact ⟨_, _, _, Postgres.finishPassport_of_known hp ha',
        Memory.finishPassport_of_mem hk <| Finmap.mem_iff.mpr ⟨record, ha⟩, h.recordPassport hc hk⟩

end Mirrors

-- The body of a list of passports.
def listing (agentId : String) (passports : List Json) (requestId : String) : Json :=
  .object
    [("agent_id", .string agentId), ("passports", .array passports),
      ("request_id", .string requestId)]

inductive SameUpToOrder : Json → Json → Prop
  | refl : SameUpToOrder body body
  | listing : passports.Perm passports' →
    SameUpToOrder (listing agentId passports requestId) (listing agentId passports' requestId)

-- Responses agree completely, except that the order of listed passports is left open.
def Request.Agree : Request → Response → Response → Prop
  | .listPassportsByAgent _ _, r, r' => r.status = r'.status ∧ SameUpToOrder r.body r'.body
  | _, r, r'                         => r = r'

-- Neither of the services is called, and the storage does not fail.
def localMode : Config where
  reg  := false
  pass := false

-- The points that the two handlers of a request have reached, with the number of steps after which
-- they will have returned.
inductive Lockstep (request : Request) : Nat → Pc → Pc → Prop
  | start : Lockstep request (n + 3) .start .start
  | finishingRegister (h : request = .registerAgent rid idem body) :
    Lockstep request (n + 1) (.finishingRegister (localAgentId idem) doc record)
      (.finishingRegister (localAgentId idem) doc record)
  | findingAgent (h : request = .issuePassport rid idem body)
    (ha : Go.trimSpace payload.agentId ≠ "") :
    Lockstep request (n + 2) (.findingAgent payload) (.findingAgent payload)
  | finishingPassport (h : request = .issuePassport rid idem body)
    (hc : Certifies doc (localPassportId idem) a) :
    Lockstep request (n + 1) (.finishingPassport a doc) (.finishingPassport a doc)
  | returned : request.Agree r r' → Lockstep request n (.returned r) (.returned r')

namespace World

variable {w : World Memory} {w' : World Postgres} {env : Env} {rid idem : String}
variable {body : Option Json}

section Handlers

theorem registerAgent_eq (h : Mirrors w'.repo w.repo) (cfg : Config) :
    w'.registerAgent cfg rid idem body env = w.registerAgent cfg rid idem body env := by
  have hr : Repository.getRegisterIdem w'.repo = Repository.getRegisterIdem w.repo :=
    funext h.registerIdem
  simp only [registerAgent, hr]

theorem issuePassport_eq (h : Mirrors w'.repo w.repo) :
    w'.issuePassport rid idem body env = w.issuePassport rid idem body env := by
  have hp : Repository.getPassportIdem w'.repo = Repository.getPassportIdem w.repo :=
    funext h.passportIdem
  simp only [issuePassport, hp]

theorem getAgent_eq (h : Mirrors w'.repo w.repo) (suffix : String) :
    w'.getAgent localMode rid env suffix = w.getAgent localMode rid env suffix := by
  have he : Repository.getAdmissionEnvelope w'.repo = Repository.getAdmissionEnvelope w.repo :=
    funext h.getAdmissionEnvelope
  have ha a : Repository.getAgent w'.repo a =
      (Repository.getAgent w.repo a).map ({ · with admissionEnvelope := {} }) := h.getAgent a
  simp only [getAgent, getAdmissionEnvelope, localMode, he, ha, Bool.false_eq_true, if_false]
  cases Repository.getAgent w.repo (Go.trimSpace <| Go.trimSuffix suffix ":check") <;> rfl

theorem findAgent_eq (h : Mirrors w'.repo w.repo) (payload : IssuePayload) :
    w'.findAgent localMode rid idem env payload = w.findAgent localMode rid idem env payload := by
  have ha a : Repository.getAgent w'.repo a =
      (Repository.getAgent w.repo a).map ({ · with admissionEnvelope := {} }) := h.getAgent a
  simp only [findAgent, existsAgentForPassport, localMode, ha, Option.isSome_map,
    Bool.false_eq_true, if_false]

theorem verifyPassport_eq (h : Mirrors w'.repo w.repo) :
    w'.verifyPassport rid body env = w.verifyPassport rid body env := by
  have hp : Repository.getPassportBody w'.repo = Repository.getPassportBody w.repo :=
    funext h.passports
  simp only [verifyPassport, passportVerified, hp]

theorem evaluateScope_eq (h : Mirrors w'.repo w.repo) :
    w'.evaluateScope rid body env = w.evaluateScope rid body env := by
  have hp : Repository.getPassportBody w'.repo = Repository.getPassportBody w.repo :=
    funext h.passports
  have hl a found : (Repository.listPassportBodiesByAgent w'.repo a).any found =
      (Repository.listPassportBodiesByAgent w.repo a).any found :=
    (h.listPassportBodiesByAgent a).any_eq
  simp only [evaluateScope, scopeAllows, hp, hl]

theorem listPassportsByAgent_agree (h : Mirrors w'.repo w.repo) (suffix : String) :
    Request.Agree (.listPassportsByAgent rid suffix) (w.listPassportsByAgent rid env suffix)
      (w'.listPassportsByAgent rid env suffix) := by
  unfold listPassportsByAgent
  dsimp only
  split
  case isTrue  => exact ⟨rfl, .refl⟩
  case isFalse =>
    split
    case isTrue  => exact ⟨rfl, .refl⟩
    case isFalse =>
      have hl := (h.listPassportBodiesByAgent (Go.trimSpace suffix)).symm
      exact ⟨rfl, .listing <| (hl.map _).filter _⟩

end Handlers

section Step

variable [Format] [Sha256]

theorem start_lockstep (h : Mirrors w'.repo w.repo) (env : Env) (request : Request) :
    Lockstep request (n + 2) (w.step localMode env request .start).2
      (w'.step localMode env request .start).2 := by
  cases request
  case registerAgent rid idem body =>
    have hc : Step localMode env w (.registerAgent rid idem body) .start
        (w, w.registerAgent localMode rid idem body env) := registerAgent_cases
    simp only [step, registerAgent_eq h]
    generalize w.registerAgent localMode rid idem body env = pc at hc
    cases hc
    case delegated hd _ _ => cases hd
    case accepted         => exact .finishingRegister rfl
    case read h           => cases h
    case stay h           => exact absurd trivial h
    all_goals exact .returned rfl
  case issuePassport rid idem body =>
    have hc : Step localMode env w (.issuePassport rid idem body) .start
        (w, w.issuePassport rid idem body env) := issuePassport_cases
    simp only [step, issuePassport_eq h]
    generalize w.issuePassport rid idem body env = pc at hc
    cases hc
    case issueAccepted hp => exact .findingAgent rfl (issuePayload?_ok hp).left
    case read h           => cases h
    case stay h           => exact absurd trivial h
    all_goals exact .returned rfl
  case getAgent             => exact .returned (getAgent_eq h _).symm
  case listPassportsByAgent => exact .returned (listPassportsByAgent_agree h _)
  case verifyPassport       => exact .returned (verifyPassport_eq h).symm
  case evaluateScope        => exact .returned (evaluateScope_eq h).symm

theorem findAgent_lockstep (h : Mirrors w'.repo w.repo) (env : Env) {payload : IssuePayload}
    (ha : Go.trimSpace payload.agentId ≠ "") :
    Lockstep (.issuePassport rid idem body) (n + 1) (w.findAgent localMode rid idem env payload)
      (w'.findAgent localMode rid idem env payload) := by
  have hc : Step localMode env w (.issuePassport rid idem body) (.findingAgent payload)
      (w, w.findAgent localMode rid idem env payload) := findAgent_cases payload
  rw [findAgent_eq h]
  generalize w.findAgent localMode rid idem env payload = pc at hc
  cases hc
  case agentFound hd     => cases hd
  case agentFoundLocally => exact .finishingPassport rfl (certifies_localBody ha)
  case agentMissing      => exact .returned rfl
  case stay h            => exact absurd trivial h

theorem step_lockstep (h : Mirrors w'.repo w.repo) (hs : env.storageFails = false)
    (hl : Lockstep request (n + 1) pc pc') :
    Lockstep request n (w.step localMode env request pc).2
        (w'.step localMode env request pc').2 ∧
      Mirrors (w'.step localMode env request pc').1.repo (w.step localMode env request pc).1.repo := by
  cases hl
  case start =>
    refine ⟨start_lockstep h env request, ?_⟩
    cases request <;> exact h
  case findingAgent he ha =>
    subst he
    exact ⟨findAgent_lockstep h env ha, h⟩
  case finishingRegister rid idem body doc record he =>
    subst he
    obtain ⟨out, p', m', hp, hm, h'⟩ := h.finishRegister idem doc record
    simp only [step, finishRegister, hs, Bool.false_eq_true, if_false,
      Memory.repository_finishRegister, Postgres.repository_finishRegister, hp, hm]
    exact ⟨.returned rfl, h'⟩
  case finishingPassport he hc =>
    subst he
    obtain ⟨out, p', m', hp, hm, h'⟩ := h.finishPassport hc
    simp only [step, finishPassport, hs, Bool.false_eq_true, if_false,
      Memory.repository_finishPassport, Postgres.repository_finishPassport, hp, hm]
    cases out
    case ok        => exact ⟨.returned rfl, h'⟩
    case error err => cases err <;> exact ⟨.returned rfl, h'⟩
  case returned ha =>
    cases request <;> exact ⟨.returned ha, h⟩

-- What has been served is the same, and so is what is left behind.
structure Served (request : Request) (s : World Memory × Pc) (s' : World Postgres × Pc) : Prop where
  responses : ∃ r r', s.2 = .returned r ∧ s'.2 = .returned r' ∧ request.Agree r r'
  mirrors   : Mirrors s'.1.repo s.1.repo

theorem foldl_served (envs : List Env) (h : Mirrors w'.repo w.repo)
    (hs : ∀ env ∈ envs, env.storageFails = false) (hl : Lockstep request envs.length pc pc') :
    Served request
      (envs.foldl (fun s env => s.1.step localMode env request s.2) (w, pc))
      (envs.foldl (fun s env => s.1.step localMode env request s.2) (w', pc')) := by
  induction envs generalizing w w' pc pc'
  case nil =>
    cases hl
    case returned r r' ha => exact ⟨⟨r, r', rfl, rfl, ha⟩, h⟩
  case cons env envs hi =>
    obtain ⟨hl', h'⟩ := step_lockstep h (hs env List.mem_cons_self) hl
    exact hi h' (fun env he => hs env <| List.mem_cons_of_mem _ he) hl'

theorem serve_served (h : Mirrors w'.repo w.repo) (request : Request) (hn : 3 ≤ envs.length)
    (hs : ∀ env ∈ envs, env.storageFails = false) :
    Served request (w.serve localMode request envs) (w'.serve localMode request envs) := by
  refine foldl_served envs h hs ?_
  obtain ⟨n, hn⟩ := Nat.exists_eq_add_of_le' hn
  rw [hn]
  exact .start

end Step

end World

section Run

variable [Format] [Sha256]

-- The two deployments, given the same requests one after the other. Every request is handled to its
-- end, for which three steps are enough.
def deployments : System (World Memory × World Postgres) (Request × List Env) where
  allows _ e := 3 ≤ e.2.length ∧ ∀ env ∈ e.2, env.storageFails = false
  step s e   := ((s.1.serve localMode e.1 e.2).1, (s.2.serve localMode e.1 e.2).1)

instance (s : World Memory × World Postgres) (e : Request × List Env) :
    Decidable (deployments.allows s e) :=
  inferInstanceAs <| Decidable (_ ∧ _)

variable {registry : AgentRegistry.Registry} {engine : PassportIssuance.Service}
variable {s : World Memory × World Postgres}

theorem run_interchangeable
    (r : Run deployments .any (⟨{}, registry, engine⟩, ⟨{}, registry, engine⟩) s)
    (request : Request) (envs : List Env) (h : deployments.allows s (request, envs)) :
    ∃ response response',
      (s.1.serve localMode request envs).2 = .returned response ∧
      (s.2.serve localMode request envs).2 = .returned response' ∧
      request.Agree response response' := by
  let P (s : World Memory × World Postgres) : Prop := Mirrors s.2.repo s.1.repo
  have hm : P s := by
    refine r.invariant (P := P) ?_ .init
    exact fun {s e} hm ha _ => (World.serve_served hm e.1 ha.left ha.right).mirrors
  exact (World.serve_served hm request h.left h.right).responses

end Run

namespace Sample

open scoped Sha256.Standard

def passportFor (idem : String) : Request :=
  .issuePassport "r" idem (issueBody "agt-k" "data/*")

def turns : List Env :=
  [env "1", env "2", env "3"]

-- The passports are not issued in the order of their identifiers.
def deployed : World Memory × World Postgres :=
  exec deployments (⟨{}, {}, .new false false⟩, ⟨{}, {}, .new false false⟩)
    [(registration "AUTONOMOUS", turns), (passportFor "2", turns), (passportFor "1", turns)]

theorem deployed_lists_agree : ∃ response response',
    (deployed.1.serve localMode (.listPassportsByAgent "r" "agt-k") turns).2 = .returned response ∧
    (deployed.2.serve localMode (.listPassportsByAgent "r" "agt-k") turns).2 = .returned response' ∧
    Request.Agree (.listPassportsByAgent "r" "agt-k") response response' ∧
    (response.body.field "passports").elements.length = 2 := by
  have r : Run deployments .any (⟨{}, {}, .new false false⟩, ⟨{}, {}, .new false false⟩) deployed :=
    .ofSchedule _ (by decide +kernel)
  obtain ⟨response, response', h, h', ha⟩ :=
    run_interchangeable r (.listPassportsByAgent "r" "agt-k") turns (by decide +kernel)
  refine ⟨response, response', h, h', ha, ?_⟩
  cases h
  decide +kernel

end Sample

end RestBff
