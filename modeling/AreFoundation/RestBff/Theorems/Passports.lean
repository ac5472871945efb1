import AreFoundation.PassportIssuance.Theorems.Binding
import AreFoundation.RestBff.Theorems.Registration

open Interleaving

namespace RestBff

open S0Delegate

-- A body with the active passport of an agent, in the form in which it is issued.
structure Certifies (doc : Json) (id a : String) : Prop where
  isObject   : (publicPassportFromBody doc).isObject
  passportId : (publicPassportFromBody doc).field "passport_id" = .string id
  agentId    : (publicPassportFromBody doc).field "agent_id" = .string a
  status     : (publicPassportFromBody doc).field "status" = .string "ACTIVE"
  plainId    : Go.trimSpace id ≠ ""
  plainAgent : Go.trimSpace a ≠ ""

-- A passport with a scope for the action on the resource, which need not be active.
def Covers (passport : Json) (actionClass resource : String) : Prop :=
  ∃ row ∈ (passport.field "scope_set").elements, row.isObject ∧
    (row.field "action_class").asString = actionClass ∧
    resourcePatternMatches (row.field "resource_pattern").asString resource

section Documents

theorem passportMatches_iff {passport : Json} (ha : passport.field "agent_id" = .string a)
    (hs : passport.field "status" = .string "ACTIVE") :
    passportMatches a actionClass resource passport ↔ Covers passport actionClass resource := by
  simp [passportMatches, Covers, ha, hs, and_assoc]

theorem localPassportId_injective : Function.Injective localPassportId :=
  fun _ _ h => (String.append_right_inj _).mp h

theorem trimSpace_localPassportId (idem : String) : Go.trimSpace (localPassportId idem) ≠ "" :=
  Go.trimSpace_ne_empty (c := 'p') (by simp [localPassportId]) (by decide)

theorem certifies_localBody {payload : IssuePayload} (h : Go.trimSpace payload.agentId ≠ "") :
    Certifies (payload.localBody idem) (localPassportId idem) payload.agentId where
  isObject   := rfl
  passportId := rfl
  agentId    := rfl
  status     := rfl
  plainId    := trimSpace_localPassportId idem
  plainAgent := h

theorem certifies_passportBody {p : PassportIssuance.Grpc.PassportMessage}
    (hs : p.status = "ACTIVE") (hi : Go.trimSpace p.passportId ≠ "")
    (ha : Go.trimSpace p.agentId ≠ "") :
    Certifies (passportBody p) p.passportId p.agentId where
  isObject   := rfl
  passportId := rfl
  agentId    := rfl
  status     := hs ▸ rfl
  plainId    := hi
  plainAgent := ha

theorem certifies_of_issued [Format] [Sha256] {payload : IssuePayload} {env : EngineEnv}
    (h : issuePassportJson c payload.toRequest env = (.ok doc, c'))
    (hp : PlainId env.server.issue.passportId) (ha : Go.trimSpace payload.agentId ≠ "") :
    Certifies doc env.server.issue.passportId payload.agentId ∧
      env.server.issue.passportId ∈ c'.passports := by
  have hc := issuePassportJson_cases c payload.toRequest env
  rw [h] at hc
  cases hc
  case issued h =>
    have hi := h ▸ c.issuePassport_cases _ _
    obtain ⟨_, _, _, rfl⟩ := hi.eq_toPassport
    refine ⟨certifies_passportBody rfl ?_ ha, Finmap.mem_iff.mpr ⟨_, hi.stored.left⟩⟩
    exact fun he => hp.ne (hp.trimmed.symm.trans he)

namespace Certifies

variable {doc : Json} {id a : String}

theorem decoded (h : Certifies doc id a) : passportIdFromBody doc = id := by
  have ho := h.isObject
  have hi := h.passportId
  unfold publicPassportFromBody at ho hi
  split at ho
  case h_2 => cases ho
  case h_1 fields =>
    dsimp only at hi
    split at ho
    case isFalse => cases ho
    case isTrue  =>
      rw [if_pos ho] at hi
      simp only [passportIdFromBody, Json.asStruct?, Option.bind_eq_bind, Option.bind_some]
      cases hp : (Json.object fields).field "passport"
      case object =>
        rw [hp] at hi
        simp [hi, Json.asText?]
      all_goals rw [hp] at ho; cases ho

theorem id_ne (h : Certifies doc id a) : id ≠ "" :=
  fun he => h.plainId (by rw [he]; rfl)

end Certifies

end Documents

namespace Repository

variable [Repository ρ] {rp rp' : ρ} {key id a : String} {doc : Json}

-- The bodies that are stored for keys and the passports describe each other.
structure Catalogued (rp : ρ) : Prop where
  stored : ∀ {key doc}, getPassportIdem rp key = some doc →
             ∃ id a, Certifies doc id a ∧ getPassportBody rp id = some doc ∧
               doc ∈ listPassportBodiesByAgent rp a
  keyed  : ∀ {id doc}, getPassportBody rp id = some doc →
             ∃ key, getPassportIdem rp key = some doc ∧ passportIdFromBody doc = id

-- No passport has been stored.
structure Blank (rp : ρ) : Prop where
  passportIdem : ∀ key, getPassportIdem rp key = none
  passportBody : ∀ id, getPassportBody rp id = none

theorem Blank.catalogued (h : Blank rp) : Catalogued rp where
  stored {key _} hd := nomatch (h.passportIdem key).symm.trans hd
  keyed {id _} hd   := nomatch (h.passportBody id).symm.trans hd

theorem Catalogued.recordsRegister (h : Catalogued rp) (hr : RecordsRegister rp key doc rp') :
    Catalogued rp' where
  stored := hr.passportIdem ▸ hr.passportBody ▸ hr.listed ▸ h.stored
  keyed  := hr.passportIdem ▸ hr.passportBody ▸ h.keyed

theorem Catalogued.recordsPassport (h : Catalogued rp) (hr : RecordsPassport rp key a doc rp')
    (hk : getPassportIdem rp key = none) (hc : Certifies doc id a)
    (hn : getPassportBody rp id = none) : Catalogued rp' where
  stored {key' doc'} hd := by
    have listed := hr.listed (hc.decoded ▸ hc.id_ne) (hc.decoded ▸ hn)
    rw [hr.passportIdem] at hd
    split at hd
    case isTrue =>
      cases hd
      refine ⟨id, a, hc, ?_, listed _ _ <| .inr ⟨rfl, rfl⟩⟩
      rw [hr.passportBody, if_pos ⟨hc.decoded.symm, hc.id_ne⟩]
    case isFalse =>
      obtain ⟨id', a', hc', hd', hl'⟩ := h.stored hd
      refine ⟨id', a', hc', ?_, listed _ _ <| .inl hl'⟩
      rw [hr.passportBody, if_neg, hd']
      rintro ⟨he, _⟩
      cases hn.symm.trans (he.trans hc.decoded ▸ hd')
  keyed {id' doc'} hd := by
    rw [hr.passportBody] at hd
    split at hd
    case isTrue he =>
      cases hd
      exact ⟨key, (hr.passportIdem key).trans (if_pos rfl), he.left.symm⟩
    case isFalse =>
      obtain ⟨key', hk', hi⟩ := h.keyed hd
      refine ⟨key', ?_, hi⟩
      rw [hr.passportIdem, if_neg, hk']
      rintro rfl
      cases hk.symm.trans hk'

-- The keys that bodies are stored for, with the identifiers in the bodies.
def recorded (rp : ρ) : Set (String × String) :=
  { x | ∃ doc, getPassportIdem rp x.1 = some doc ∧ passportIdFromBody doc = x.2 }

theorem RecordsPassport.mem_recorded (hr : RecordsPassport rp key a doc rp')
    (h : x ∈ recorded rp') : x ∈ recorded rp ∨ x = (key, passportIdFromBody doc) := by
  obtain ⟨doc', hd, hi⟩ := h
  rw [hr.passportIdem] at hd
  split at hd
  case isTrue he =>
    cases hd
    exact .inr <| Prod.ext he hi.symm
  case isFalse => exact .inl ⟨doc', hd, hi⟩

theorem RecordsRegister.recorded_eq (hr : RecordsRegister rp key doc rp') :
    recorded rp' = recorded rp := by
  simp only [recorded, hr.passportIdem]

end Repository

namespace Memory

-- The passports and the index of the passports of each agent describe each other.
structure Indexed (m : Memory) : Prop where
  certified  : ∀ {id doc}, m.passports.lookup id = some doc →
                 ∃ a, Certifies doc id a ∧ id ∈ m.passportIdsOf a
  indexed    : ∀ {id a}, id ∈ m.passportIdsOf a →
                 ∃ doc, m.passports.lookup id = some doc ∧ Certifies doc id a
  nodup      : ∀ a, (m.passportIdsOf a).Nodup
  registered : ∀ {a}, a ∈ m.byAgent → a ∈ m.agents

variable {m : Memory} {key id a : String} {doc : Json}

theorem blank_empty : Repository.Blank ({} : Memory) where
  passportIdem _ := rfl
  passportBody _ := rfl

theorem indexed_empty : ({} : Memory).Indexed where
  certified h  := by simp at h
  indexed h    := by simp [passportIdsOf] at h
  nodup _      := by simp [passportIdsOf]
  registered h := absurd h Finmap.notMem_empty

namespace Indexed

theorem recordRegister (h : m.Indexed) :
    (m.recordRegister key a responseBody record).Indexed where
  certified    := h.certified
  indexed      := h.indexed
  nodup        := h.nodup
  registered a := Finmap.mem_insert.mpr <| .inr <| h.registered a

theorem not_mem_ids (h : m.Indexed) (hn : id ∉ m.passports) : id ∉ m.passportIdsOf a := by
  intro hi
  obtain ⟨doc, hd, _⟩ := h.indexed hi
  exact hn <| Finmap.mem_iff.mpr ⟨doc, hd⟩

theorem recordPassport (h : m.Indexed) (hc : Certifies doc id a) (hn : id ∉ m.passports)
    (ha : a ∈ m.agents) : (m.recordPassport key a doc).Indexed where
  certified {id' doc'} hd := by
    rw [passports_recordPassport hc.decoded hc.id_ne, HashMap.lookup_insert] at hd
    split at hd
    case isTrue he =>
      cases hd
      exact ⟨a, he ▸ hc, by simp [passportIdsOf_recordPassport hc.decoded hc.id_ne, he]⟩
    case isFalse =>
      obtain ⟨a', hc', hi'⟩ := h.certified hd
      refine ⟨a', hc', ?_⟩
      rw [passportIdsOf_recordPassport hc.decoded hc.id_ne]
      split
      case isTrue he => exact List.mem_append_left _ (he ▸ hi')
      case isFalse   => exact hi'
  indexed {id' a'} hi := by
    rw [passportIdsOf_recordPassport hc.decoded hc.id_ne] at hi
    rw [passports_recordPassport hc.decoded hc.id_ne]
    have old (hi : id' ∈ m.passportIdsOf a') :
        ∃ doc', (m.passports.insert id doc).lookup id' = some doc' ∧ Certifies doc' id' a' := by
      obtain ⟨doc', hd', hc'⟩ := h.indexed hi
      have hne := HashMap.ne_of_lookup_of_not_mem hd' hn
      exact ⟨doc', by rw [Finmap.lookup_insert_of_ne _ hne, hd'], hc'⟩
    split at hi
    case isFalse   => exact old hi
    case isTrue he =>
      subst he
      rw [List.mem_append, List.mem_singleton] at hi
      cases hi
      case inl hi => exact old hi
      case inr he => exact ⟨doc, by rw [he, Finmap.lookup_insert], he ▸ hc⟩
  nodup a' := by
    rw [passportIdsOf_recordPassport hc.decoded hc.id_ne]
    split
    case isFalse => exact h.nodup a'
    case isTrue  =>
      refine List.nodup_append.mpr ⟨h.nodup a, List.nodup_singleton id, ?_⟩
      intro id' hi' id'' hi''
      rw [List.mem_singleton.mp hi'']
      exact fun he => h.not_mem_ids hn (he ▸ hi')
  registered {a'} ha' := by
    rw [byAgent_recordPassport hc.decoded hc.id_ne, Finmap.mem_insert] at ha'
    rw [recordPassport_agents]
    cases ha'
    case inl he  => exact he ▸ ha
    case inr ha' => exact h.registered ha'

theorem mem_ids_iff (h : m.Indexed) :
    id ∈ m.passportIdsOf a ↔ ∃ doc, m.passports.lookup id = some doc ∧
      (publicPassportFromBody doc).field "agent_id" = .string a ∧
      (publicPassportFromBody doc).field "passport_id" = .string id := by
  constructor
  case mp =>
    intro hi
    obtain ⟨doc, hd, hc⟩ := h.indexed hi
    exact ⟨doc, hd, hc.agentId, hc.passportId⟩
  case mpr =>
    intro ⟨doc, hd, ha, _⟩
    obtain ⟨a', hc, hi⟩ := h.certified hd
    exact Json.string.inj (ha.symm.trans hc.agentId) ▸ hi

end Indexed

end Memory

-- Requests to the same endpoint with the same key.
def Request.SameKey : Request → Request → Prop
  | .registerAgent _ idem _, .registerAgent _ idem' _ => idem = idem'
  | .issuePassport _ idem _, .issuePassport _ idem' _ => idem = idem'
  | _, _                                              => False

-- The key and the identifier of the body that a request is about to store.
def Request.held : Request → Pc → Option (String × String)
  | .issuePassport _ idem _, .finishingPassport _ doc =>
    some (passportKey idem, passportIdFromBody doc)
  | _, _ => none

-- What is known about a request for a passport at each of its points.
def Request.Issuing (cfg : Config) (request : Request) (pc : Pc) : Prop :=
  match request, pc with
  | .issuePassport _ _ _, .findingAgent payload     => Go.trimSpace payload.agentId ≠ ""
  | .issuePassport _ _ _, .issuing payload          => cfg.pass ∧ Go.trimSpace payload.agentId ≠ ""
  | .issuePassport _ _ _, .finishingPassport a doc  => ∃ id, Certifies doc id a
  | _, _                                            => True

namespace World

variable {cfg : Config} {env : Env} {id : String}

-- Where the identifiers in bodies come from.
def Origin (cfg : Config) (w : World ρ) (x : String × String) : Prop :=
  if cfg.pass then
    x.2 ∈ w.engine.passports
  else
    ∃ idem, x = (passportKey idem, localPassportId idem)

-- The identifier is new, unless it is determined by the key.
structure Assigns (cfg : Config) (env : Env) (request : Request) (w : World ρ)
    (x : String × String) : Prop where
  origin : w.Origin cfg x
  key    : ∃ rid idem body, request = .issuePassport rid idem body ∧ x.1 = passportKey idem
  fresh  : cfg.pass → x.2 = env.engine.server.issue.passportId

section Step

variable [Repository ρ] [Format] [Sha256] {w : World ρ}

theorem Step.issuing (h : Step cfg env w request pc r) (ha : Allowed cfg w env)
    (hi : request.Issuing cfg pc) : request.Issuing cfg r.2 := by
  cases h
  case stay                 => exact hi
  case issueAccepted hp     => exact (issuePayload?_ok hp).left
  case agentFound hd        => exact ⟨hd, hi⟩
  case agentFoundLocally    => exact ⟨_, certifies_localBody hi⟩
  case issued h             => exact ⟨_, (certifies_of_issued h ha.plainId hi.right).left⟩
  case read                 => cases request <;> trivial
  all_goals trivial

theorem Step.assigned (h : Step cfg env w request pc r) (ha : Allowed cfg w env)
    (hi : request.Issuing cfg pc) 
    (hx : x ∈ Repository.recorded r.1.repo ∨ request.held r.2 = some x) :
    x ∈ Repository.recorded w.repo ∨ request.held pc = some x ∨ Assigns cfg env request r.1 x := by
  cases h
  case stay => exact hx.imp_right .inl
  case agentFoundLocally hd =>
    refine hx.imp_right fun hx => .inr ?_
    cases hx
    refine ⟨?_, ⟨_, _, _, rfl, rfl⟩, fun hd' => absurd hd' hd⟩
    rw [Origin, if_neg hd]
    exact ⟨_, by rw [(certifies_localBody hi).decoded]⟩
  case issued h =>
    refine hx.imp_right fun hx => .inr ?_
    cases hx
    obtain ⟨hc, hm⟩ := certifies_of_issued h ha.plainId hi.right
    refine ⟨?_, ⟨_, _, _, rfl, rfl⟩, fun _ => hc.decoded⟩
    rw [Origin, if_pos hi.left]
    exact hc.decoded ▸ hm
  case registerRecorded hd => exact hx.elim (fun hx => .inl (hd.recorded_eq ▸ hx)) nofun
  case issueRecorded hd    =>
    refine hx.elim (fun hx => ?_) nofun
    exact (hd.mem_recorded hx).imp_right fun he => .inl (congrArg some he.symm)
  case read => exact hx.elim .inl (by cases request <;> nofun)
  all_goals exact hx.elim .inl nofun

theorem Step.mem_engine (h : Step cfg env w request pc r) (hm : id ∈ w.engine.passports) :
    id ∈ r.1.engine.passports := by
  have call {payload : IssuePayload} {out} {c}
      (h : issuePassportJson w.engine payload.toRequest env.engine = (out, c)) :
      id ∈ c.passports := by
    have hc := h ▸ issuePassportJson_cases w.engine payload.toRequest env.engine
    cases hc
    case refused => exact hm
    case failed h => exact (h ▸ w.engine.issuePassport_cases _ _).mem_passports hm
    case issued h => exact (h ▸ w.engine.issuePassport_cases _ _).mem_passports hm
  cases h
  case issueFailed h => exact call h
  case issued h      => exact call h
  all_goals exact hm

-- A body is about to be stored for a key that is in use, or with an identifier that is not.
def Fresh (w : World ρ) (request : Request) (pc : Pc) : Prop :=
  ∀ key id, request.held pc = some (key, id) → Repository.getPassportIdem w.repo key = none →
    Repository.getPassportBody w.repo id = none

theorem Step.catalogued (h : Step cfg env w request pc r) (hi : request.Issuing cfg pc)
    (hn : w.Fresh request pc) (hm : Repository.Catalogued w.repo) :
    Repository.Catalogued r.1.repo := by
  cases h
  case registerRecorded hd => exact hm.recordsRegister hd
  case issueRecorded hk _ hd =>
    obtain ⟨id, hc⟩ := hi
    exact hm.recordsPassport hd hk hc (hn _ id (by rw [← hc.decoded]; rfl) hk)
  all_goals exact hm

end Step

theorem Step.indexed [Format] [Sha256] {w : World Memory} (h : Step cfg env w request pc r)
    (hi : request.Issuing cfg pc) (hn : w.Fresh request pc) (hm : w.repo.Indexed) :
    r.1.repo.Indexed := by
  cases h
  case registerRecorded hr hf _ =>
    obtain rfl := Memory.eq_recordRegister hr hf
    exact hm.recordRegister
  case issueRecorded hr hf _ =>
    obtain ⟨id, hc⟩ := hi
    obtain ⟨ha, rfl⟩ := Memory.eq_recordPassport hr hf
    have hn := hn _ id (by rw [← hc.decoded]; rfl) hr
    exact hm.recordPassport hc (Finmap.lookup_eq_none.mp hn) ha
  all_goals exact hm

end World

namespace World

variable [Repository ρ] {cfg : Config} {env : Env} {w : World ρ} {id a : String} {doc : Json}

theorem acknowledged_start (request : Request) (w : World ρ) :
    Acknowledged request .start w := by
  cases request <;> trivial

theorem Acknowledged.body_eq (hk : request.SameKey request')
    (h : Acknowledged request (.returned ⟨.created, doc⟩) w)
    (h' : Acknowledged request' (.returned ⟨.created, doc'⟩) w) : doc = doc' := by
  unfold Request.SameKey at hk
  split at hk
  case h_1 => exact Option.some.inj <| (h rfl).symm.trans (hk ▸ h' rfl)
  case h_2 => exact Option.some.inj <| (h rfl).symm.trans (hk ▸ h' rfl)
  case h_3 => cases hk

theorem verifyPassport_of_certifies (hd : Repository.getPassportBody w.repo id = some doc)
    (hc : Certifies doc id a) (hb : body.bind Json.asStruct? = some payload)
    (hp : payload.field "passport_id" = .string id) (ha : payload.field "agent_id" = .string a) :
    (w.verifyPassport rid body env).body.field "verified" ≠ .bool false ∧
    (¬env.storageFails → (w.verifyPassport rid body env).body.field "verified" = .bool true) := by
  by_cases hs : env.storageFails
  case pos =>
    simp [verifyPassport, hb, hp, ha, hc.plainId, hc.plainAgent, hs, storageError, jsonError]
  case neg =>
    simp [verifyPassport, passportVerified, hb, hp, ha, hc.plainId, hc.plainAgent, hs, hd,
      hc.isObject, hc.agentId, hc.status]

theorem evaluateScope_of_scopeAllows (hs : ¬env.storageFails)
    (hb : body.bind Json.asStruct? = some payload) (ha : payload.field "agent_id" = .string a)
    (ha' : Go.trimSpace a ≠ "") (hac : payload.field "action_class" = .string actionClass)
    (hac' : Go.trimSpace actionClass ≠ "") (hr : payload.field "resource" = .string resource)
    (hr' : Go.trimSpace resource ≠ "")
    (h : (scopeAllows w.repo a (payload.field "passport_id").asString actionClass resource).1) :
    ((w.evaluateScope rid body env).body.field "decision").field "effect" = .string "ALLOW" := by
  simp [evaluateScope, hb, ha, hac, hr, ha', hac', hr', hs, h]

theorem scopeAllows_of_body (hd : Repository.getPassportBody w.repo id = some doc)
    (hc : Certifies doc id a) (hv : Covers (publicPassportFromBody doc) actionClass resource) (hp : passportId = id) :
    (scopeAllows w.repo a passportId actionClass resource).1 := by
  have hf := (passportMatches_iff hc.agentId hc.status).mpr hv
  simp [scopeAllows, hp, hc.plainId, hd, hf]

theorem scopeAllows_of_listed (hl : doc ∈ Repository.listPassportBodiesByAgent w.repo a)
    (hc : Certifies doc id a)
    (hv : Covers (publicPassportFromBody doc) actionClass resource) (hp : passportId = "") :
    (scopeAllows w.repo a passportId actionClass resource).1 := by
  have hf := (passportMatches_iff hc.agentId hc.status).mpr hv
  have ht : Go.trimSpace "" = "" := rfl
  have hx : ∃ doc ∈ Repository.listPassportBodiesByAgent w.repo a,
      passportMatches a actionClass resource (publicPassportFromBody doc) :=
    ⟨doc, hl, hf⟩
  simp [scopeAllows, hp, ht, hx]

end World

open World

section Run

variable [Repository ρ] {cfg : Config} {requests : ι → Request} {i j : ι} {w : World ρ} {e : Env}
variable {g : Guard ι (World ρ) Pc Env} {s s₁ s₂ : State ι (World ρ) Pc}

-- The keys and identifiers of bodies that are stored or about to be stored.
def assigned (requests : ι → Request) (s : State ι (World ρ) Pc) : Set (String × String) :=
  { x | x ∈ Repository.recorded s.shared.repo ∨ ∃ i, (requests i).held (s.locals i) = some x }

structure Coherent (cfg : Config) (requests : ι → Request) (s : State ι (World ρ) Pc) :
    Prop where
  catalogued : Repository.Catalogued s.shared.repo
  issuing    : ∀ i, (requests i).Issuing cfg (s.locals i)
  origin     : ∀ {x}, x ∈ assigned requests s → s.shared.Origin cfg x
  unique     : ∀ {key key' id}, (key, id) ∈ assigned requests s → (key', id) ∈ assigned requests s →
                 key = key'

theorem coherent_awaiting (hb : Repository.Blank w.repo) :
    Coherent cfg requests (w.awaiting ι) := by
  have none {x} : x ∉ assigned requests (w.awaiting ι) := by
    rintro (⟨doc, hd, _⟩ | ⟨i, hi⟩)
    case inl => cases (hb.passportIdem x.1).symm.trans hd
    case inr => cases hr : requests i <;> simp [awaiting, hr, Request.held] at hi
  refine ⟨hb.catalogued, fun i => ?_, fun h => absurd h none, fun h => absurd h none⟩
  cases hr : requests i <;> simp [awaiting, Request.Issuing]

theorem Coherent.fresh (h : Coherent cfg requests s) (i : ι) :
    s.shared.Fresh (requests i) (s.locals i) := by
  intro key id hx hk
  cases hd : Repository.getPassportBody s.shared.repo id
  case none     => rfl
  case some doc =>
    obtain ⟨key', hk', hi⟩ := h.catalogued.keyed hd
    cases h.unique (.inr ⟨i, hx⟩) (.inl ⟨doc, hk', hi⟩)
    cases hk.symm.trans hk'

variable [LawfulRepository ρ] [DecidableEq ι] [Format] [Sha256]

namespace Coherent

theorem mem_assigned_of_next (h : Coherent cfg requests s) (a : Allowed cfg s.shared e)
    (hx : x ∈ assigned requests (s.next (server cfg requests) i e)) :
    x ∈ assigned requests s ∨
      Assigns cfg e (requests i) (s.next (server cfg requests) i e).shared x := by
  have own (hx : x ∈ Repository.recorded (s.next (server cfg requests) i e).shared.repo ∨
      (requests i).held ((s.next (server cfg requests) i e).locals i) = some x) :
      x ∈ assigned requests s ∨
        Assigns cfg e (requests i) (s.next (server cfg requests) i e).shared x := by
    rw [s.next_locals_self] at hx
    rcases (step_cases cfg e s.shared (requests i) (s.locals i)).assigned a (h.issuing i) hx
      with hx | hx | hx
    case inl     => exact .inl <| .inl hx
    case inr.inl => exact .inl <| .inr ⟨i, hx⟩
    case inr.inr => exact .inr hx
  rcases hx with hx | ⟨j, hx⟩
  case inl => exact own <| .inl hx
  case inr =>
    by_cases hj : j = i
    case pos => exact own <| .inr (hj ▸ hx)
    case neg =>
      rw [s.next_locals_of_ne e hj] at hx
      exact .inl <| .inr ⟨j, hx⟩

theorem next (h : Coherent cfg requests s) (a : Allowed cfg s.shared e) :
    Coherent cfg requests (s.next (server cfg requests) i e) where
  catalogued := (step_cases cfg e s.shared (requests i) (s.locals i)).catalogued (h.issuing i)
    (h.fresh i) h.catalogued
  issuing := by
    have own := (step_cases cfg e s.shared (requests i) (s.locals i)).issuing a (h.issuing i)
    exact State.forall_next_locals own fun j _ => h.issuing j
  origin {x} hx := by
    cases h.mem_assigned_of_next a hx
    case inr hn => exact hn.origin
    case inl hx =>
      have ho := h.origin hx
      by_cases hp : cfg.pass
      case pos =>
        rw [Origin, if_pos hp] at ho ⊢
        exact (step_cases cfg e s.shared (requests i) (s.locals i)).mem_engine ho
      case neg =>
        rw [Origin, if_neg hp] at ho ⊢
        exact ho
  unique {key key' id} hx hx' := by
    -- An identifier of the engine is not in use yet, and other identifiers determine the key.
    have apart {key key'} (hx : (key, id) ∈ assigned requests s)
        (hn : Assigns cfg e (requests i) (s.next (server cfg requests) i e).shared (key', id)) :
        key = key' := by
      have ho := h.origin hx
      have ho' := hn.origin
      by_cases hp : cfg.pass
      case pos =>
        rw [Origin, if_pos hp] at ho
        exact absurd (hn.fresh hp ▸ ho) a.passportId
      case neg =>
        rw [Origin, if_neg hp] at ho ho'
        obtain ⟨_, he⟩ := ho
        obtain ⟨_, he'⟩ := ho'
        cases he
        cases localPassportId_injective (congrArg Prod.snd he')
        exact (congrArg Prod.fst he').symm
    rcases h.mem_assigned_of_next a hx with hx | hn <;>
      rcases h.mem_assigned_of_next a hx' with hx' | hn'
    case inl.inl => exact h.unique hx hx'
    case inl.inr => exact apart hx hn'
    case inr.inl => exact (apart hx' hn).symm
    case inr.inr =>
      obtain ⟨_, _, _, hr, hk⟩ := hn.key
      obtain ⟨_, _, _, hr', hk'⟩ := hn'.key
      cases hr.symm.trans hr'
      exact hk.trans hk'.symm

end Coherent

theorem run_coherent (r : Run (server cfg requests) g (w.awaiting ι) s)
    (hb : Repository.Blank w.repo) : Coherent cfg requests s :=
  r.invariant (P := Coherent cfg requests) (fun h a _ => h.next a) (coherent_awaiting hb)

-- No clock is read when a passport is verified or looked for a scope, so its expiry is irrelevant. Any
-- repository may be used, if no passport is in it at first.
theorem run_issued_passport_accepted
    (r : Run (server cfg requests) g (w.awaiting ι) s) (hw : Repository.Blank w.repo)
    (hi : requests i = .issuePassport rid idem body) (hl : s.locals i = .returned ⟨.created, doc⟩)
    (env : Env) :
    ∃ id a, Certifies doc id a ∧
      (∀ rid body payload, body.bind Json.asStruct? = some payload →
        payload.field "passport_id" = .string id → payload.field "agent_id" = .string a →
        (s.shared.verifyPassport rid body env).body.field "verified" ≠ .bool false ∧
        (¬env.storageFails →
          (s.shared.verifyPassport rid body env).body.field "verified" = .bool true)) ∧
      (∀ rid body payload actionClass resource, ¬env.storageFails →
        body.bind Json.asStruct? = some payload → payload.field "agent_id" = .string a →
        payload.field "passport_id" = .string id ∨ payload.field "passport_id" = .null →
        payload.field "action_class" = .string actionClass → Go.trimSpace actionClass ≠ "" →
        payload.field "resource" = .string resource → Go.trimSpace resource ≠ "" →
        Covers (publicPassportFromBody doc) actionClass resource →
        ((s.shared.evaluateScope rid body env).body.field "decision").field "effect" =
          .string "ALLOW") := by
  have ha := run_acknowledged (i := i) r (acknowledged_start _ _)
  rw [hi, hl] at ha
  obtain ⟨id, a, hc, hd, hx⟩ := (run_coherent r hw).catalogued.stored (ha rfl)
  refine ⟨id, a, hc, fun rid body payload hb hp ha => ?_, ?_⟩
  case refine_1 => exact verifyPassport_of_certifies hd hc hb hp ha
  case refine_2 =>
    intro rid body payload actionClass resource hs hb ha hp hac hac' hr hr' hv
    refine evaluateScope_of_scopeAllows hs hb ha hc.plainAgent hac hac' hr hr' ?_
    cases hp
    case inl hp => exact scopeAllows_of_body hd hc hv (hp ▸ rfl)
    case inr hp => exact scopeAllows_of_listed hx hc hv (hp ▸ rfl)

section Index

variable {g : Guard ι (World Memory) Pc Env} {s : State ι (World Memory) Pc}
variable {registry : AgentRegistry.Registry} {engine : PassportIssuance.Service}

theorem Coherent.indexed_next (h : Coherent cfg requests s) (hm : s.shared.repo.Indexed) :
    (s.next (server cfg requests) i e).shared.repo.Indexed :=
  (step_cases cfg e s.shared (requests i) (s.locals i)).indexed (h.issuing i) (h.fresh i) hm

theorem run_indexed (r : Run (server cfg requests) g (idle ι registry engine) s) :
    s.shared.repo.Indexed := by
  have h := r.invariant (P := fun s => Coherent cfg requests s ∧ s.shared.repo.Indexed)
    (fun h a _ => ⟨h.left.next a, h.left.indexed_next h.right⟩)
    ⟨coherent_awaiting Memory.blank_empty, Memory.indexed_empty⟩
  exact h.right

-- No assumption is made on whether the services are called.
theorem run_same_key_same_answer (r : Run (server cfg requests) g (idle ι registry engine) s) :
    (∀ i j doc doc', (requests i).SameKey (requests j) → s.locals i = .returned ⟨.created, doc⟩ →
      s.locals j = .returned ⟨.created, doc'⟩ → doc = doc') ∧
    ∀ a, (s.shared.repo.passportIdsOf a).Nodup ∧
      (∀ id, id ∈ s.shared.repo.passportIdsOf a ↔
        ∃ doc, s.shared.repo.passports.lookup id = some doc ∧
          (publicPassportFromBody doc).field "agent_id" = .string a ∧
          (publicPassportFromBody doc).field "passport_id" = .string id) ∧
      (a ∈ s.shared.repo.byAgent → a ∈ s.shared.repo.agents) := by
  have hm := run_indexed r
  refine ⟨fun i j doc doc' hk hi hj => ?_,
    fun a => ⟨hm.nodup a, fun _ => hm.mem_ids_iff, hm.registered⟩⟩
  have ha := run_acknowledged (i := i) r (acknowledged_start _ _)
  have ha' := run_acknowledged (i := j) r (acknowledged_start _ _)
  exact Acknowledged.body_eq hk (hi ▸ ha) (hj ▸ ha')

end Index

end Run

namespace Sample

open scoped Sha256.Standard

inductive Endpoint
  | register
  | issue
  | verify
  | evaluate
  deriving DecidableEq

def issueBody (agentId resource : String) : Json :=
  .object
    [("agent_id", .string agentId), ("passport_type", .string "STANDARD"),
      ("requested_scopes", .array
        [.object [("action_class", .string "READ"), ("resource_pattern", .string resource)]]),
      ("ttl_seconds", .number 300), ("issued_by", .string "authority"),
      ("reason", .string "initial")]

def issuance (resource : String) : Request :=
  .issuePassport "r" "k" (issueBody "agent-2" resource)

def endpoints : Endpoint → Request
  | .register => registration "AUTONOMOUS"
  | .issue    => issuance "data/x"
  | .verify   => .verifyPassport "r" <| some <| .object
    [("passport_id", .string "passport-6"), ("agent_id", .string "agent-2")]
  | .evaluate => .evaluateScope "r" <| some <| .object
    [("agent_id", .string "agent-2"), ("action_class", .string "READ"),
      ("resource", .string "data/x")]

-- The clock of the engine shows another time.
def envAt (now : Calendar.Instant) (n : String) : Env :=
  let server := (env n).engine.server
  { env n with engine := { server := { server with now, issue := { server.issue with now } } } }

def issuing : List (Endpoint × Env) :=
  [(.register, env "1"), (.register, env "2"), (.register, env "3"), (.issue, env "4"),
    (.issue, env "5"), (.issue, env "6"), (.issue, env "7")]

def issued : State Endpoint (World Memory) Pc :=
  Transition.exec (server ⟨true, true, false⟩ endpoints).interleaved
    (idle Endpoint {} (.new false false)) issuing

-- The passport is used more than 16 minutes after it has been issued for 5 minutes.
def late : List (Endpoint × Env) :=
  [(.verify, envAt 1000000000000 "8"), (.evaluate, envAt 1000000000000 "9")]

def used : State Endpoint (World Memory) Pc :=
  Transition.exec (server ⟨true, true, false⟩ endpoints).interleaved issued late

theorem run_issued_passport_accepted_issued :
    (issued.shared.verifyPassport "r" (some <| .object
      [("passport_id", .string "passport-6"), ("agent_id", .string "agent-2")])
      (envAt 1000000000000 "8")).body.field "verified" = .bool true := by
  have r : Run (server ⟨true, true, false⟩ endpoints) .any (idle Endpoint {} (.new false false))
      issued := .ofSchedule issuing (by decide +kernel)
  obtain ⟨id, a, hc, hv, _⟩ :=
    run_issued_passport_accepted (i := .issue) r Memory.blank_empty rfl rfl (envAt 1000000000000 "8")
  have hi : "passport-6" = id := Json.string.inj hc.passportId
  have ha : "agent-2" = a := Json.string.inj hc.agentId
  subst hi ha
  exact (hv "r" _ _ rfl rfl rfl).right (by decide)

theorem expired_passport_accepted :
    Nonempty (Run (server ⟨true, true, false⟩ endpoints) .any (idle Endpoint {} (.new false false))
      used) ∧
    (used.shared.engine.passports.lookup "passport-6").map (·.expiresTs) = some 300000000000 ∧
    (∃ response, used.locals .verify = .returned response ∧
      response.body.field "verified" = .bool true) ∧
    (∃ response, used.locals .evaluate = .returned response ∧
      (response.body.field "decision").field "effect" = .string "ALLOW") := by
  refine ⟨⟨.ofSchedule (issuing ++ late) (by decide +kernel)⟩, by decide +kernel, ⟨_, rfl, rfl⟩,
    ⟨_, rfl, rfl⟩⟩

end Sample

end RestBff
