import Mathlib.Data.Fintype.Basic
import AreFoundation.Library.Sha256
import AreFoundation.RestBff.Theorems.Step

open Interleaving

namespace RestBff

open S0Delegate

theorem registerKey_injective : Function.Injective registerKey :=
  fun _ _ h => (String.append_right_inj _).mp h

theorem localAgentId_injective : Function.Injective localAgentId :=
  fun _ _ h => (String.append_right_inj _).mp h

theorem registerPayload?_requestId (h : registerPayload? rid idem body = .ok payload)
    (rid' : String) : registerPayload? rid' idem body = .ok payload := by
  unfold registerPayload? at h ⊢
  split at h
  case isTrue => cases h
  case isFalse hi =>
    rw [if_neg hi]
    split at h
    case h_1 => cases h
    case h_2 hb =>
      dsimp only at h ⊢
      split at h
      case isTrue     => cases h
      case isFalse hn => rw [if_neg hn]; exact h

theorem registerPayload?_error_status (h : registerPayload? rid idem body = .error response) :
    response.status = .badRequest := by
  unfold registerPayload? at h
  split at h
  case isTrue  => cases h; rfl
  case isFalse =>
    split at h
    case h_1 => cases h; rfl
    case h_2 =>
      dsimp only at h
      split at h
      case isTrue  => cases h; rfl
      case isFalse => cases h

namespace World

variable [Repository ρ] {cfg : Config} {env : Env} {w w' : World ρ}

-- The body that has been stored for an idempotency key.
def registered? (w : World ρ) (idem : String) : Option Json :=
  Repository.getRegisterIdem w.repo (registerKey idem)

def issued? (w : World ρ) (idem : String) : Option Json :=
  Repository.getPassportIdem w.repo (passportKey idem)

-- The request is about to finish while a body for another type or owner is stored for its key.
def Disputed (w : World ρ) : Request → Pc → Bool
  | .registerAgent rid idem body, .finishingRegister _ _ _ =>
    match registerPayload? rid idem body, w.registered? idem with
    | .ok payload, some prev => registerBodyConflict prev payload.agentType payload.ownerId
    | _, _                   => false
  | _, _ => false

-- The registry does not rewrite the type, up to surrounding space.
def Verbatim (cfg : Config) (payload : RegisterPayload) : Prop :=
  cfg.reg → Go.toUpper (Go.trimSpace payload.agentType) = Go.trimSpace payload.agentType

-- The body that a request has been acknowledged with is the one that is stored for its key.
def Acknowledged (request : Request) (pc : Pc) (w : World ρ) : Prop :=
  match request, pc with
  | .registerAgent _ idem _, .returned response =>
    response.status = .created → w.registered? idem = some response.body
  | .issuePassport _ idem _, .returned response =>
    response.status = .created → w.issued? idem = some response.body
  | _, _ => True

-- What is known about a complete request to register an agent at each of its points.
def Consistent (cfg : Config) (request : Request) (pc : Pc) : Prop :=
  match request, pc with
  | .registerAgent rid idem body, .registering payload =>
    cfg.reg ∧ registerPayload? rid idem body = .ok payload
  | .registerAgent rid idem body, .finishingRegister _ doc _ =>
    ∃ payload t, registerPayload? rid idem body = .ok payload ∧
      agentFields? doc = some (t, payload.ownerId) ∧
      (Verbatim cfg payload → Go.trimSpace t = Go.trimSpace payload.agentType)
  | .registerAgent rid idem body, .returned response =>
    (response.status = .created → ∃ payload, registerPayload? rid idem body = .ok payload ∧
      (Verbatim cfg payload →
        ¬registerBodyConflict response.body payload.agentType payload.ownerId)) ∧
    (∀ payload, registerPayload? rid idem body = .ok payload → ¬cfg.reg → ¬cfg.storageMayFail →
      response.status = .created ∨ response.status = .conflict)
  | _, _ => True

theorem Acknowledged.mono (h : Acknowledged request pc w)
    (he : Repository.Extends w.repo w'.repo) :
    Acknowledged request pc w' := by
  unfold Acknowledged at h ⊢
  split at h
  case h_1 => exact fun hs => he.register <| h hs
  case h_2 => exact fun hs => he.passport <| h hs
  case h_3 => trivial

theorem registerAgent_of_registered (hp : registerPayload? rid idem body = .ok payload)
    (hf : ¬env.storageFails) (hr : w.registered? idem = some prev)
    (hc : ¬registerBodyConflict prev payload.agentType payload.ownerId) :
    w.registerAgent cfg rid idem body env = .returned ⟨.created, prev⟩ := by
  rw [registered?] at hr
  simp [registerAgent, hp, hf, hr, hc]

variable [Format] [Sha256]

theorem Step.acknowledged (h : Step cfg env w request pc r) (ha : Acknowledged request pc w) :
    Acknowledged request r.2 r.1 := by
  cases h
  case stay                  => exact ha
  case read hr               => cases request <;> trivial
  case refused hp            => exact fun hs => nomatch (registerPayload?_error_status hp).symm.trans hs
  case lookupFailed          => exact nofun
  case conflicting hs        => exact fun hs' => nomatch hs.symm.trans hs'
  case replayed hr _         => exact fun _ => hr
  case delegated             => trivial
  case accepted              => trivial
  case registerFailed        => exact fun hs => absurd hs (upstreamHttp_ne_created _)
  case registered            => trivial
  case registerUnfinished    => exact nofun
  case registerCached hr     => exact fun _ => hr
  case registerRecorded hd   => exact fun _ => by simp [registered?, hd.registerIdem]
  case issueRefused hs       => exact fun hs' => absurd hs' hs
  case issueReplayed hr      => exact fun _ => hr
  case issueAccepted         => trivial
  case agentMissing hs       => exact fun hs' => absurd hs' hs
  case agentFound            => trivial
  case agentFoundLocally     => trivial
  case issueFailed           => exact fun hs => absurd hs (upstreamHttp_ne_created _)
  case issued                => trivial
  case issueUnfinished hs    => exact fun hs' => absurd hs' hs
  case issueCached hr        => exact fun _ => hr
  case issueRecorded hd      => exact fun _ => by simp [issued?, hd.passportIdem]

theorem Step.consistent (h : Step cfg env w request pc r) (ha : Allowed cfg w env)
    (hd : ¬w.Disputed request pc) (hc : Consistent cfg request pc) :
    Consistent cfg request r.2 := by
  cases h
  case stay       => exact hc
  case read hr    => cases request <;> trivial
  case refused hp =>
    exact ⟨fun hs => (nomatch (registerPayload?_error_status hp).symm.trans hs),
      fun _ hp' => nomatch hp.symm.trans hp'⟩
  case lookupFailed hf  => exact ⟨nofun, fun _ _ _ hm => absurd (ha.storage hf) hm⟩
  case conflicting hs   => exact ⟨fun hs' => (nomatch hs.symm.trans hs'), fun _ _ _ _ => .inr hs⟩
  case replayed hp _ hn => exact ⟨fun _ => ⟨_, hp, fun _ => hn⟩, fun _ _ _ _ => .inl rfl⟩
  case delegated hp _ hr => exact ⟨hr, hp⟩
  case accepted hp _ _   => exact ⟨_, _, hp, agentFields?_localAgentBody, fun _ => rfl⟩
  case registerFailed =>
    exact ⟨fun hs => absurd hs (upstreamHttp_ne_created _), fun _ _ hr => absurd hc.left hr⟩
  case registered h =>
    refine ⟨_, _, hc.right, agentFields?_of_register h, fun hv => ?_⟩
    rw [hv hc.left, Go.trimSpace_trimSpace]
  case registerUnfinished hf => exact ⟨nofun, fun _ _ _ hm => absurd (ha.storage hf) hm⟩
  case registerCached hr =>
    obtain ⟨payload, _, hp, _⟩ := hc
    refine ⟨fun _ => ⟨payload, hp, fun _ hn => hd ?_⟩, fun _ _ _ _ => .inl rfl⟩
    simpa [Disputed, registered?, hp, hr] using hn
  case registerRecorded =>
    obtain ⟨payload, t, hp, hf, ht⟩ := hc
    refine ⟨fun _ => ⟨payload, hp, fun hv => ?_⟩, fun _ _ _ _ => .inl rfl⟩
    rw [registerBodyConflict_iff hf, ht hv]
    exact not_not.mpr rfl
  all_goals trivial

end World

section Run

variable [DecidableEq ι] [Repository ρ] [Format] [Sha256] {cfg : Config} {requests : ι → Request}
variable {g : Guard ι (World ρ) Pc Env} {s s₁ s₂ : State ι (World ρ) Pc} {w : World ρ} {i j : ι}

open World

theorem run_acknowledged [LawfulRepository ρ] (r : Run (server cfg requests) g s₁ s₂)
    (h : Acknowledged (requests i) (s₁.locals i) s₁.shared) :
    Acknowledged (requests i) (s₂.locals i) s₂.shared :=
  r.thread_invariant (A := Acknowledged (requests i))
    (fun h _ _ => (step_cases ..).acknowledged h) (fun h _ => h.mono (step_cases ..).extends) h

-- The request does not finish while a body for another type or owner is stored for its key.
def Undisputed (requests : ι → Request) (i : ι) : Guard ι (World ρ) Pc Env := fun s e =>
  e.1 = i → ¬s.shared.Disputed (requests i) (s.locals i)

instance (requests : ι → Request) (i : ι) (s : State ι (World ρ) Pc) (e : ι × Env) :
    Decidable (Undisputed requests i s e) :=
  inferInstanceAs <| Decidable (e.1 = i → ¬s.shared.Disputed (requests i) (s.locals i))

theorem run_consistent [LawfulRepository ρ] (hg : ∀ {s e}, g s e → Undisputed requests i s e)
    (r : Run (server cfg requests) g s₁ s₂) (h : Consistent cfg (requests i) (s₁.locals i)) :
    Consistent cfg (requests i) (s₂.locals i) :=
  r.thread_invariant (A := fun pc _ => Consistent cfg (requests i) pc)
    (fun h a c => (step_cases ..).consistent a (hg c rfl) h) (fun h _ => h) h

-- Any repository may be used, whatever it contains.
theorem run_conflicting_register_refused [LawfulRepository ρ]
    (r : Run (server ⟨false, false, false⟩ requests) (Undisputed requests i) (w.awaiting ι) s)
    (hi : requests i = .registerAgent rid idem body)
    (hp : registerPayload? rid idem body = .ok payload) (hl : s.locals i = .returned response)
    (hr : s.shared.registered? idem = some prev) (hf : agentFields? prev = some (t, o))
    (hne : (Go.trimSpace t, Go.trimSpace o) ≠
      (Go.trimSpace payload.agentType, Go.trimSpace payload.ownerId)) :
    response.status = .conflict := by
  have ha := run_acknowledged (i := i) r (by simp [awaiting, hi, Acknowledged])
  have hc := run_consistent (i := i) id r (by simp [awaiting, hi, Consistent])
  rw [hi, hl] at ha hc
  refine (hc.right payload hp nofun nofun).resolve_left fun hs => ?_
  obtain ⟨_, hp', hn⟩ := hc.left hs
  cases Except.ok.inj <| hp.symm.trans hp'
  cases Option.some.inj <| hr.symm.trans (ha hs)
  exact hn nofun <| (registerBodyConflict_iff hf).mpr hne

-- In addition, the look-up of the retry does not fail.
def Retried (requests : ι → Request) (i j : ι) : Guard ι (World ρ) Pc Env := fun s e =>
  Undisputed requests i s e ∧ (e.1 = j → ¬e.2.storageFails)

instance (requests : ι → Request) (i j : ι) (s : State ι (World ρ) Pc) (e : ι × Env) :
    Decidable (Retried requests i j s e) :=
  inferInstanceAs <| Decidable (Undisputed requests i s e ∧ (e.1 = j → ¬e.2.storageFails))

theorem run_register_replayed [LawfulRepository ρ]
    (r₁ : Run (server cfg requests) (Retried requests i j) (w.awaiting ι) s₁)
    (hi : requests i = .registerAgent rid idem body)
    (hj : requests j = .registerAgent rid' idem body)
    (hv : ∀ payload, registerPayload? rid idem body = .ok payload → Verbatim cfg payload)
    (hl : s₁.locals i = .returned ⟨.created, doc⟩) (hs : s₁.locals j = .start)
    (r₂ : Run (server cfg requests) (Retried requests i j) s₁ s₂) (ht : 0 < r₂.turns j) :
    s₂.locals j = .returned ⟨.created, doc⟩ := by
  have ha := run_acknowledged (i := i) r₁ (by simp [awaiting, hi, Acknowledged])
  have hc := run_consistent (i := i) And.left r₁ (by simp [awaiting, hi, Consistent])
  rw [hi, hl] at ha hc
  obtain ⟨payload, hp, hn⟩ := hc.left rfl
  refine r₂.settled (A := fun w => w.registered? idem = some doc) (P := (· = .start))
    (Q := (· = .returned ⟨.created, doc⟩)) (fun h _ => (step_cases ..).extends.register h) ?_
    (ha rfl) (.inl hs) (.inl ht)
  intro s e hr hl _ hg
  rcases hl with hl | hl
  case inl =>
    simp only [server, hl, hj, step]
    exact registerAgent_of_registered (registerPayload?_requestId hp rid') (hg.right rfl) hr
      (hn <| hv payload hp)
  case inr => simp [server, hl, hj, step]

end Run

section Once

variable [Format]

-- The request uses the key and has not found it, but has not returned yet.
def Request.Pending (idem : String) : Request → Pc → Bool
  | .registerAgent _ idem' _, .registering _ | .registerAgent _ idem' _, .finishingRegister _ _ _ =>
    idem' = idem
  | _, _ => false

def Request.LooksUp (idem : String) : Request → Pc → Bool
  | .registerAgent _ idem' _, .start => idem' = idem
  | _, _                             => false

def Request.Finishes (idem : String) : Request → Pc → Bool
  | .registerAgent _ idem' _, .finishingRegister _ _ _ => idem' = idem
  | _, _                                               => false

-- The agent that the registry creates for the key in a step of the request.
def World.created? (w : World ρ) (env : Env) (idem : String) : Request → Pc → Option String
  | .registerAgent _ idem' _, .registering payload =>
    if idem' = idem then
      (S0Delegate.register w.registry payload.agentType payload.ownerId payload.metadata
        payload.admission env.registry).1.toOption.map (·.2)
    else
      none
  | _, _ => none

open World

variable [Repository ρ] {cfg : Config} {env : Env} {w : World ρ} {idem : String}

section Step

variable [Sha256]

theorem World.Step.registered?_of_not_pending (h : Step cfg env w request pc r)
    (hp : ¬request.Pending idem pc) :
    r.1.registered? idem = w.registered? idem ∧ w.created? env idem request pc = none := by
  cases h
  case registerRecorded hd =>
    refine ⟨?_, rfl⟩
    have hn : registerKey idem ≠ registerKey _ :=
      fun he => hp <| decide_eq_true (registerKey_injective he).symm
    exact (hd.registerIdem _).trans (if_neg hn)
  case registerFailed => exact ⟨rfl, if_neg (hp ∘ decide_eq_true)⟩
  case registered     => exact ⟨rfl, if_neg (hp ∘ decide_eq_true)⟩
  case issueRecorded hd => exact ⟨congrFun hd.registerIdem _, rfl⟩
  case stay =>
    refine ⟨rfl, ?_⟩
    unfold created?
    split
    case h_1 => exact if_neg (hp ∘ decide_eq_true)
    case h_2 => rfl
  case read => exact ⟨rfl, by cases request <;> rfl⟩
  all_goals exact ⟨rfl, rfl⟩

theorem World.Step.start_of_pending (h : Step cfg env w request pc r)
    (hn : ¬request.Pending idem pc) (hp : request.Pending idem r.2) :
    pc = .start ∧ w.registered? idem = none ∧ ∃ rid body, request = .registerAgent rid idem body := by
  cases h
  case stay          => exact absurd hp hn
  case read          => cases request <;> cases hp
  case delegated hr _ => cases of_decide_eq_true hp; exact ⟨rfl, hr, _, _, rfl⟩
  case accepted hr _  => cases of_decide_eq_true hp; exact ⟨rfl, hr, _, _, rfl⟩
  case registered    => exact absurd hp hn
  all_goals cases hp

-- What a pending request does next if the key is not in use and the storage does not fail: it gives
-- up, it gets an agent, or it finishes.
inductive Proceeds (w : World ρ) (env : Env) (idem : String) (request : Request) :
    Pc → World ρ × Pc → Prop
  | failed (hc : w.created? env idem request (.registering payload) = none)
    (hr : r.1.registered? idem = none) (hp : ¬request.Pending idem r.2) :
    Proceeds w env idem request (.registering payload) r
  | created (hr : r.1.registered? idem = none) (hp : request.Pending idem r.2)
    (hn : ∀ payload, r.2 ≠ .registering payload) :
    Proceeds w env idem request (.registering payload) r
  | finished (hr : r.1.registered? idem ≠ none) (hp : ¬request.Pending idem r.2) :
    Proceeds w env idem request (.finishingRegister agentId doc record) r

theorem World.Step.proceeds (h : Step cfg env w request pc r) (hp : request.Pending idem pc)
    (hr : w.registered? idem = none)
    (hf : ∀ agentId doc record, pc = .finishingRegister agentId doc record → ¬env.storageFails) :
    Proceeds w env idem request pc r := by
  cases h
  case stay h =>
    unfold Request.Pending at hp
    split at hp
    case h_1 => exact absurd trivial h
    case h_2 => exact absurd trivial h
    case h_3 => cases hp
  case read               => cases request <;> cases hp
  case registerFailed h   => exact .failed (by simp [created?, h, Except.toOption]) hr nofun
  case registered         => exact .created hr hp nofun
  case registerUnfinished hs => exact absurd hs (hf _ _ _ rfl)
  case registerCached hr' =>
    cases of_decide_eq_true hp
    exact nomatch hr.symm.trans hr'
  case registerRecorded hd =>
    cases of_decide_eq_true hp
    exact .finished (by simp [registered?, hd.registerIdem]) nofun
  all_goals cases hp

end Step

variable [DecidableEq ι] {requests : ι → Request} {s s₁ s₂ : State ι (World ρ) Pc}

-- The agents that the registry creates for the key.
def createdFor (requests : ι → Request) (idem : String) (s : State ι (World ρ) Pc)
    (e : ι × Env) : Set String :=
  { id | s.shared.created? e.2 idem (requests e.1) (s.locals e.1) = some id }

-- The key is looked up only while no request that has not found it is still under way, and a request
-- with the key does not fail to finish.
def LookupsApart (requests : ι → Request) (idem : String) : Guard ι (World ρ) Pc Env :=
  fun s e =>
    ((requests e.1).LooksUp idem (s.locals e.1) → ∀ j, ¬(requests j).Pending idem (s.locals j)) ∧
    ((requests e.1).Finishes idem (s.locals e.1) → ¬e.2.storageFails)

instance [Fintype ι] (requests : ι → Request) (idem : String) (s : State ι (World ρ) Pc)
    (e : ι × Env) : Decidable (LookupsApart requests idem s e) :=
  inferInstanceAs <| Decidable ((_ → ∀ j, ¬(requests j).Pending idem (s.locals j)) ∧ (_ → _))

-- At most one request is under way, and it has created the only agent, unless the agent has been
-- stored for the key.
inductive Once (requests : ι → Request) (idem : String) (created : Set String)
    (s : State ι (World ρ) Pc) : Prop
  | free (hp : ∀ j, ¬(requests j).Pending idem (s.locals j)) (hc : created.Subsingleton)
    (hn : s.shared.registered? idem = none → created = ∅)
  | busy (i : ι) (hi : (requests i).Pending idem (s.locals i))
    (hp : ∀ j, j ≠ i → ¬(requests j).Pending idem (s.locals j)) (hc : created.Subsingleton)
    (hr : s.shared.registered? idem = none)
    (hn : ∀ payload, s.locals i = .registering payload → created = ∅)

omit [DecidableEq ι] [Repository ρ] in
theorem createdFor_eq_empty (h : s.shared.created? e.2 idem (requests e.1) (s.locals e.1) = none) :
    createdFor requests idem s e = ∅ := by
  simp [createdFor, h]

omit [DecidableEq ι] [Repository ρ] in
theorem createdFor_subsingleton : (createdFor requests idem s e).Subsingleton :=
  fun _ h _ h' => Option.some.inj <| h.symm.trans h'

variable [Sha256] {created : Set String} {k : ι} {e : Env}

theorem not_pending_next
    (hk : ¬(requests k).Pending idem ((s.next (server cfg requests) k e).locals k))
    (hj : j ≠ k → ¬(requests j).Pending idem (s.locals j)) :
    ¬(requests j).Pending idem ((s.next (server cfg requests) k e).locals j) := by
  by_cases he : j = k
  case pos => exact he ▸ hk
  case neg => exact s.next_locals_of_ne e he ▸ hj he

variable [LawfulRepository ρ]

-- A request for another key or one that has returned.
theorem Once.next_of_not_pending (h : Once requests idem created s)
    (hk : ¬(requests k).Pending idem (s.locals k))
    (hk' : ¬(requests k).Pending idem ((s.next (server cfg requests) k e).locals k)) :
    Once requests idem created (s.next (server cfg requests) k e) := by
  have hr : (s.next (server cfg requests) k e).shared.registered? idem =
      s.shared.registered? idem := (step_cases ..).registered?_of_not_pending hk |>.left
  cases h
  case free hp hc hn => exact .free (fun j => not_pending_next hk' fun _ => hp j) hc (hr ▸ hn)
  case busy i hi hp hc hn he =>
    have hl : (s.next (server cfg requests) k e).locals i = s.locals i :=
      s.next_locals_of_ne e fun h => hk (h ▸ hi)
    refine .busy i (hl ▸ hi) (fun j hj => not_pending_next hk' fun _ => hp j hj) hc (hr.trans hn) ?_
    exact fun payload => hl ▸ he payload

theorem Once.next_of_start (h : Once requests idem created s)
    (hp : ∀ j, ¬(requests j).Pending idem (s.locals j)) (hn : s.shared.registered? idem = none)
    (hk : (requests k).Pending idem ((s.next (server cfg requests) k e).locals k)) :
    Once requests idem created (s.next (server cfg requests) k e) := by
  cases h
  case busy i hi _ _ _ _ => exact absurd hi (hp i)
  case free hc he =>
    have hr : (s.next (server cfg requests) k e).shared.registered? idem =
        s.shared.registered? idem := (step_cases ..).registered?_of_not_pending (hp k) |>.left
    refine .busy k hk (fun j hj => ?_) hc (hr.trans hn) fun _ _ => he hn
    exact s.next_locals_of_ne e hj ▸ hp j

theorem Once.next_of_pending (h : Once requests idem created s)
    (hk : (requests k).Pending idem (s.locals k))
    (hf : ∀ agentId doc record, s.locals k = .finishingRegister agentId doc record →
      ¬e.storageFails) :
    Once requests idem (created ∪ createdFor requests idem s (k, e))
      (s.next (server cfg requests) k e) := by
  cases h
  case free hp _ _ => exact absurd hk (hp k)
  case busy i hi hp hc hr hn =>
    have hik : k = i := by
      by_contra he
      exact hp k he hk
    subst hik
    have hs := (step_cases cfg e s.shared ..).proceeds hk hr hf
    have self : (s.next (server cfg requests) k e).locals k = _ := s.next_locals_self k e
    have shared : (s.next (server cfg requests) k e).shared = _ := s.next_shared k e
    simp only [server] at self shared
    generalize s.shared.step cfg e (requests k) (s.locals k) = r at hs self shared
    generalize hl : s.locals k = pc at hs
    cases hs
    case failed hc' hr' hp' =>
      rw [hn _ hl, createdFor_eq_empty (hl ▸ hc'), Set.union_empty]
      exact .free (fun j => not_pending_next (self ▸ hp') (hp j)) Set.subsingleton_empty fun _ => rfl
    case created hr' hp' hn' =>
      rw [hn _ hl, Set.empty_union]
      refine .busy k (self ▸ hp') (fun j hj => ?_) createdFor_subsingleton (shared ▸ hr') ?_
      case _ => exact s.next_locals_of_ne e hj ▸ hp j hj
      case _ => exact fun payload he => absurd (self ▸ he) (hn' payload)
    case finished hr' hp' =>
      have unmade : createdFor requests idem s (k, e) = ∅ := by
        refine createdFor_eq_empty ?_
        simp only [hl]
        cases requests k <;> rfl
      rw [unmade, Set.union_empty]
      exact .free (fun j => not_pending_next (self ▸ hp') (hp j)) hc fun h => absurd h (shared ▸ hr')

theorem Once.next (h : Once requests idem created s) (c : LookupsApart requests idem s (k, e)) :
    Once requests idem (created ∪ createdFor requests idem s (k, e))
      (s.next (server cfg requests) k e) := by
  have hs := step_cases cfg e s.shared (requests k) (s.locals k)
  by_cases hk : (requests k).Pending idem (s.locals k)
  case pos =>
    refine h.next_of_pending hk fun agentId doc record hl => c.right ?_
    rw [hl] at hk ⊢
    revert hk
    cases requests k
    case registerAgent => exact id
    all_goals nofun
  case neg =>
    rw [createdFor_eq_empty (hs.registered?_of_not_pending hk).right, Set.union_empty]
    by_cases hk' : (requests k).Pending idem ((s.next (server cfg requests) k e).locals k)
    case neg => exact h.next_of_not_pending hk hk'
    case pos =>
      have self : (s.next (server cfg requests) k e).locals k = _ := s.next_locals_self k e
      obtain ⟨hl, hn, _, _, hq⟩ := hs.start_of_pending hk (self ▸ hk')
      exact h.next_of_start (c.left (by simp [Request.LooksUp, hl, hq])) hn hk'

theorem run_created_subsingleton
    (r : Run (server cfg requests) (LookupsApart requests idem) (w.awaiting ι) s) :
    (r.collect (createdFor requests idem)).Subsingleton := by
  have h : Once requests idem (r.collect (createdFor requests idem)) s := by
    refine r.invariant_fold (P := Once requests idem) (fun h _ c => h.next c) ?_
    exact .free (fun j => by simp [awaiting, Request.Pending]) Set.subsingleton_empty fun _ => rfl
  cases h
  case free hc _   => exact hc
  case busy hc _ _ => exact hc

end Once

namespace Sample

open World

open scoped Sha256.Standard

-- Nothing but texts is printed.
scoped instance printed : Format where
  sprint  := Json.asString
  marshal := Json.asString

inductive Client
  | first
  | second
  deriving DecidableEq

instance : Fintype Client where
  elems    := {.first, .second}
  complete := fun c => by cases c <;> decide

-- The identifiers that the services draw have short names here.
def env (n : String) : Env where
  registry := { register := ⟨0, "agent-" ++ n, "envelope-" ++ n, true⟩ }
  engine   :=
    { server :=
        { now      := 0
          scopeIds := fun _ => "scope"
          issue    :=
            { agentStatus        := some .active
              supersededTs       := 0
              passportId         := "passport-" ++ n
              now                := 0
              sign               := some ⟨"cred-local", "pub-local", [0x73, 0x69, 0x67]⟩
              activePolicyBundle := none } } }

def ownerId : String :=
  "00000000-0000-4000-8000-000000000001"

def registerBody (agentType : String) : Json :=
  .object [("agent_type", .string agentType), ("owner_id", .string ownerId)]

def registration (agentType : String) : Request :=
  .registerAgent "r" "k" (registerBody agentType)

def statusOf : Pc → Option HttpStatus
  | .returned response => some response.status
  | _                  => none

def start : State Client (World Memory) Pc :=
  idle Client {} (.new false false)

-- Clients that send the same key for agents of different types.
def rivals : Client → Request
  | .first  => registration "AUTONOMOUS"
  | .second => registration "SYSTEM"

def racing : List (Client × Env) :=
  [(.first, env "1"), (.second, env "2"), (.first, env "3"), (.second, env "4")]

def raced : State Client (World Memory) Pc :=
  Transition.exec (server ⟨false, false, false⟩ rivals).interleaved start racing

-- The second client has looked for the key before the first one has stored its body.
theorem conflicting_register_acknowledged :
    Nonempty (Run (server ⟨false, false, false⟩ rivals) .any start raced) ∧
    (raced.shared.registered? "k").bind agentFields? = some ("AUTONOMOUS", ownerId) ∧
    (registerPayload? "r" "k" (registerBody "SYSTEM")).toOption.map (·.agentType) =
      some "SYSTEM" ∧
    statusOf (raced.locals .second) = some .created := by
  refine ⟨⟨.ofSchedule _ ?_⟩, ?_, ?_, ?_⟩
  all_goals decide +kernel

def queued : State Client (World Memory) Pc :=
  Transition.exec (server ⟨false, false, false⟩ rivals).interleaved start
    [(.first, env "1"), (.first, env "2"), (.second, env "3")]

theorem run_conflicting_register_refused_queued :
    ∃ response, queued.locals .second = .returned response ∧ response.status = .conflict := by
  have r : Run (server ⟨false, false, false⟩ rivals) (Undisputed rivals .second) start queued :=
    .ofSchedule _ (by decide +kernel)
  exact ⟨_, rfl, run_conflicting_register_refused r rfl rfl rfl rfl rfl (by decide +kernel)⟩

def retrying (agentType : String) : Client → Request :=
  fun _ => registration agentType

def accepting : List (Client × Env) :=
  [(.first, env "1"), (.first, env "2"), (.first, env "3")]

def accepted (agentType : String) : State Client (World Memory) Pc :=
  Transition.exec (server ⟨true, true, false⟩ (retrying agentType)).interleaved start accepting

def retried (agentType : String) : State Client (World Memory) Pc :=
  Transition.exec (server ⟨true, true, false⟩ (retrying agentType)).interleaved
    (accepted agentType) [(.second, env "4")]

theorem run_register_replayed_retried :
    statusOf ((retried "AUTONOMOUS").locals .second) = some .created := by
  have r₁ : Run (server ⟨true, true, false⟩ (retrying "AUTONOMOUS"))
      (Retried (retrying "AUTONOMOUS") .first .second) start (accepted "AUTONOMOUS") :=
    .ofSchedule _ (by decide +kernel)
  have hv payload (h : registerPayload? "r" "k" (registerBody "AUTONOMOUS") = .ok payload) :
      Verbatim ⟨true, true, false⟩ payload :=
    fun _ => Except.ok.inj h ▸ (by decide +kernel)
  exact congrArg statusOf <| run_register_replayed r₁ rfl rfl hv rfl rfl
    (.ofSchedule [(.second, env "4")] (by decide +kernel))
    (Nat.lt_of_lt_of_eq (by decide) (Run.turns_ofSchedule _).symm)

-- The registry stores the type in upper case, and the retry is compared with that.
theorem retry_conflicts :
    Nonempty (Run (server ⟨true, true, false⟩ (retrying "autonomous")) .any start
      (retried "autonomous")) ∧
    statusOf ((retried "autonomous").locals .first) = some .created ∧
    statusOf ((retried "autonomous").locals .second) = some .conflict := by
  refine ⟨⟨.ofSchedule (accepting ++ [(.second, env "4")]) ?_⟩, ?_, ?_⟩
  all_goals decide +kernel

-- The second client gets the agent that has been created for the first one.
theorem run_created_subsingleton_retried :
    ∃ (s : State Client (World Memory) Pc)
      (r : Run (server ⟨true, true, false⟩ (retrying "AUTONOMOUS"))
        (LookupsApart (retrying "AUTONOMOUS") "k") start s),
      statusOf (s.locals .second) = some .created ∧
      r.collect (createdFor (retrying "AUTONOMOUS") "k") = {"agent-2"} := by
  refine ⟨_, .ofSchedule (accepting ++ [(.second, env "4")]) (by decide +kernel),
    by decide +kernel, ?_⟩
  apply Set.Subsingleton.eq_singleton_of_mem
  case hs => exact run_created_subsingleton _
  case hx =>
    rw [Transition.Run.collect, Transition.Run.fold_ofSchedule]
    exact .inl <| .inl <| .inr rfl

def overlapping : List (Client × Env) :=
  [(.first, env "1"), (.second, env "2"), (.first, env "3"), (.second, env "4")]

-- Both clients have looked for the key before an agent has been stored for it.
theorem two_agents_created :
    ∃ (s : State Client (World Memory) Pc)
      (r : Run (server ⟨true, true, false⟩ (retrying "AUTONOMOUS")) .any start s),
      "agent-3" ∈ r.collect (createdFor (retrying "AUTONOMOUS") "k") ∧
      "agent-4" ∈ r.collect (createdFor (retrying "AUTONOMOUS") "k") ∧
      "agent-3" ∈ s.shared.registry.agents ∧ "agent-4" ∈ s.shared.registry.agents := by
  refine ⟨_, .ofSchedule overlapping (by decide +kernel), ?_, ?_, ?_, ?_⟩
  case _ =>
    rw [Transition.Run.collect, Transition.Run.fold_ofSchedule]
    exact .inl <| .inr rfl
  case _ =>
    rw [Transition.Run.collect, Transition.Run.fold_ofSchedule]
    exact .inr rfl
  all_goals decide +kernel

end Sample

end RestBff
