import AreFoundation.RestBff.Theorems.Interchange

open Interleaving

namespace RestBff

open S0Delegate

-- A finished request gets the body that is stored for its key, and its own one if there is none.
class Replays (ρ : Type) [Repository ρ] : Prop where
  finishPassport : ∀ {rp rp' : ρ} {key agentId doc out},
    Repository.finishPassport rp key agentId doc = (.ok out, rp') →
      (Repository.getPassportIdem rp key).getD doc = out

instance [Repository ρ] [LawfulRepository ρ] : Replays ρ where
  finishPassport {rp rp' key agentId doc out} h := by
    cases hk : Repository.getPassportIdem rp key
    case some prev =>
      rw [LawfulRepository.finishPassport_of_some hk] at h
      cases h
      rfl
    case none =>
      rcases LawfulRepository.finishPassport_of_none hk agentId doc with hf | ⟨_, hf, _⟩
      all_goals
        rw [hf] at h
        cases h
      rfl

def passportAgent (doc : Json) : Json :=
  (publicPassportFromBody doc).field "agent_id"

theorem issuePayload?_agentId (h : issuePayload? rid body = .ok out)
    (hb : body.bind Json.asStruct? = some payload) (ha : payload.field "agent_id" = .string a) :
    out.agentId = a := by
  unfold issuePayload? at h
  rw [hb] at h
  dsimp only at h
  split at h
  case h_1 => cases h
  case h_2 =>
    split at h
    case isTrue  => cases h
    case isFalse =>
      cases hm : (List.forM _ (checkScopeRow rid) : Except Response PUnit)
      case error => rw [hm] at h; cases h
      case ok =>
        rw [hm] at h
        cases h
        simp [ha]

theorem passportAgent_of_issued [Format] [Sha256] {payload : IssuePayload}
    (h : issuePassportJson c payload.toRequest env = (.ok doc, c')) :
    passportAgent doc = .string payload.agentId := by
  have hc := issuePassportJson_cases c payload.toRequest env
  rw [h] at hc
  cases hc
  case issued h =>
    obtain ⟨_, _, _, rfl⟩ := (h ▸ c.issuePassport_cases _ _).eq_toPassport
    rfl

namespace World

variable [Repository ρ]

-- The body that is stored for the key of the request when it looks the key up or finishes.
def replay? (w : World ρ) : Request → Pc → Option Json
  | .issuePassport _ idem _, .start | .issuePassport _ idem _, .finishingPassport _ _ =>
    Repository.getPassportIdem w.repo (passportKey idem)
  | _, _ => none

-- That body has the passport of another agent.
def Misdirected (w : World ρ) (a : String) (request : Request) (pc : Pc) : Prop :=
  ∃ prev ∈ w.replay? request pc, passportAgent prev ≠ .string a

instance (w : World ρ) (a : String) (request : Request) (pc : Pc) :
    Decidable (w.Misdirected a request pc) :=
  decidable_of_iff ((w.replay? request pc).any fun prev => !(passportAgent prev).isString a) <| by
    simp [Misdirected, Option.any_eq_true, ← Json.isString_iff]

-- What is known about a request for a passport of the agent at each of its points.
def Tracks (a : String) : Pc → Prop
  | .findingAgent payload | .issuing payload => payload.agentId = a
  | .finishingPassport _ doc                 => passportAgent doc = .string a
  | .returned response                       =>
    response.status = .created → passportAgent response.body = .string a
  | _                                        => True

-- A request for a passport goes on, or it is acknowledged with the stored body or with its own one.
inductive Continues (w : World ρ) (a : String) (request : Request) (pc : Pc) : Pc → Prop
  | tracked (ht : Tracks a pc') (hn : ∀ doc, pc' ≠ .returned ⟨.created, doc⟩) :
    Continues w a request pc pc'
  | replayed (hr : w.replay? request pc = some prev) :
    Continues w a request pc (.returned ⟨.created, prev⟩)
  | recorded (hr : w.replay? request pc = none) (hd : passportAgent doc = .string a) :
    Continues w a request pc (.returned ⟨.created, doc⟩)

variable {w : World ρ} {cfg : Config} {env : Env} {rid idem a : String} {body : Option Json}

theorem Continues.refused (hs : response.status ≠ .created) :
    Continues w a request pc (.returned response) :=
  .tracked (fun hs' => absurd hs' hs) fun _ he => hs <| congrArg Response.status (Pc.returned.inj he)

theorem Continues.tracks (h : Continues w a request pc pc') (hm : ¬w.Misdirected a request pc) :
    Tracks a pc' := by
  cases h
  case tracked ht _ => exact ht
  case replayed hr  => exact fun _ => not_not.mp fun hn => hm ⟨_, hr, hn⟩
  case recorded hd  => exact fun _ => hd

theorem Continues.passportAgent_iff
    (h : Continues w a request pc (.returned ⟨.created, doc⟩)) :
    passportAgent doc = .string a ↔ ¬w.Misdirected a request pc := by
  refine ⟨fun hd => ?_, fun hm => h.tracks hm rfl⟩
  rintro ⟨prev, hr, hn⟩
  cases h
  case tracked _ hn'  => exact absurd rfl (hn' _)
  case replayed hr'   => exact hn (Option.some.inj (hr.symm.trans hr') ▸ hd)
  case recorded hr' _ => cases hr.symm.trans hr'

theorem issuePassport_continues (hb : body.bind Json.asStruct? = some payload)
    (ha : payload.field "agent_id" = .string a) :
    Continues w a (.issuePassport rid idem body) .start (w.issuePassport rid idem body env) := by
  unfold issuePassport
  split
  case isTrue  => exact .refused nofun
  case isFalse =>
    split
    case isTrue  => exact .refused nofun
    case isFalse =>
      split
      case h_1 prev hr => exact .replayed hr
      case h_2         =>
        split
        case h_1 response hp => exact .refused (issuePayload?_error_status hp ▸ nofun)
        case h_2 payload hp  => exact .tracked (issuePayload?_agentId hp hb ha) nofun

theorem findAgent_continues {payload : IssuePayload} (h : payload.agentId = a) :
    Continues w a (.issuePassport rid idem body) (.findingAgent payload)
      (w.findAgent cfg rid idem env payload) := by
  unfold findAgent
  split
  case h_1 => exact .refused nofun
  case h_2 => exact .refused nofun
  case h_3 =>
    split
    case isTrue  => exact .tracked h nofun
    case isFalse => exact .tracked (congrArg Json.string h) nofun

theorem callIssue_continues [Format] [Sha256] {payload : IssuePayload} (h : payload.agentId = a) :
    Continues w a (.issuePassport rid idem body) (.issuing payload)
      (w.callIssue rid env payload).2 := by
  unfold callIssue
  split
  case h_1    => exact .refused (upstreamHttp_ne_created _)
  case h_2 hi => exact .tracked ((passportAgent_of_issued hi).trans (congrArg _ h)) nofun

theorem finishPassport_continues [Replays ρ] (h : passportAgent doc = .string a) :
    Continues w a (.issuePassport rid idem body) (.finishingPassport agentId doc)
      (w.finishPassport rid idem env agentId doc).2 := by
  unfold finishPassport
  split
  case isTrue  => exact .refused nofun
  case isFalse =>
    split
    case h_1 out _ hf =>
      have ho := Replays.finishPassport hf
      cases hr : Repository.getPassportIdem w.repo (passportKey idem)
      case some prev =>
        rw [hr] at ho
        exact .replayed (hr.trans <| congrArg some ho)
      case none =>
        rw [hr] at ho
        exact .recorded hr (ho ▸ h)
    case h_2 => exact .refused nofun
    case h_3 => exact .refused nofun

theorem step_continues [Format] [Sha256] [Replays ρ]
    (hb : body.bind Json.asStruct? = some payload) (ha : payload.field "agent_id" = .string a)
    (ht : Tracks a pc) (hn : ∀ response, pc ≠ .returned response) :
    Continues w a (.issuePassport rid idem body) pc
      (w.step cfg env (.issuePassport rid idem body) pc).2 := by
  cases pc
  case start             => exact issuePassport_continues hb ha
  case findingAgent      => exact findAgent_continues ht
  case issuing           => exact callIssue_continues ht
  case finishingPassport => exact finishPassport_continues ht
  case registering       => exact .tracked trivial nofun
  case finishingRegister => exact .tracked trivial nofun
  case returned response => exact absurd rfl (hn response)

end World

section Run

variable [Repository ρ] [Format] [Sha256] {cfg : Config} {requests : ι → Request} {i : ι}

theorem server_step (w : World ρ) :
    (server cfg requests).step i e w pc = w.step cfg e (requests i) pc :=
  rfl

variable {g : Guard ι (World ρ) Pc Env} {s s₁ s₂ : State ι (World ρ) Pc} {e : Env}

open World

-- Whenever it is the turn of the request, no passport of another agent is stored for its key.
def Directed (requests : ι → Request) (i : ι) (a : String) : Guard ι (World ρ) Pc Env := fun s e =>
  e.1 = i → ¬s.shared.Misdirected a (requests i) (s.locals i)

instance [DecidableEq ι] (requests : ι → Request) (i : ι) (a : String) (s : State ι (World ρ) Pc)
    (e : ι × Env) : Decidable (Directed requests i a s e) :=
  inferInstanceAs <| Decidable (e.1 = i → ¬s.shared.Misdirected a (requests i) (s.locals i))

variable [Replays ρ]

section Requested

variable (hi : requests i = .issuePassport rid idem body)
  (hb : body.bind Json.asStruct? = some payload) (ha : payload.field "agent_id" = .string a)

include hi hb ha

theorem server_continues (cfg : Config) (e : Env) (ht : Tracks a (s.locals i))
    (hn : ∀ response, s.locals i ≠ .returned response) :
    Continues s.shared a (requests i) (s.locals i)
      ((server cfg requests).step i e s.shared (s.locals i)).2 := by
  rw [server_step, hi]
  exact step_continues hb ha ht hn

variable [DecidableEq ι]

theorem run_tracks (r : Run (server cfg requests) (Directed requests i a) s₁ s₂)
    (h : Tracks a (s₁.locals i)) : Tracks a (s₂.locals i) := by
  refine r.thread_invariant (A := fun pc _ => Tracks a pc) ?_ (fun h _ => h) h
  intro s e ht _ hd
  by_cases hn : ∃ response, s.locals i = .returned response
  case pos =>
    obtain ⟨response, hr⟩ := hn
    rw [hr] at ht ⊢
    rwa [server_step, step_returned]
  case neg => exact (server_continues hi hb ha cfg e ht <| not_exists.mp hn).tracks (hd rfl)

-- Before the request is answered, this does not depend on what is stored for its key.
theorem run_tracks_unanswered (r : Run (server cfg requests) g s₁ s₂) (h : Tracks a (s₁.locals i)) :
    (∀ response, s₂.locals i ≠ .returned response) → Tracks a (s₂.locals i) := by
  refine r.thread_invariant (A := fun pc _ => (∀ response, pc ≠ .returned response) → Tracks a pc)
    ?_ (fun h _ => h) fun _ => h
  intro s e ht _ _ hn'
  have hn response : s.locals i ≠ .returned response := by
    intro hr
    refine hn' response ?_
    rw [hr, server_step, step_returned]
  have hc := server_continues hi hb ha cfg e (ht hn) hn
  generalize ((server cfg requests).step i e s.shared (s.locals i)).2 = pc at hc hn' ⊢
  cases hc
  case tracked ht _ => exact ht
  case replayed     => exact absurd rfl (hn' _)
  case recorded     => exact absurd rfl (hn' _)

end Requested

-- Any repository that replays the stored bodies may be used, whatever it contains.
theorem run_created_passport_agent_iff [DecidableEq ι]
    (hi : requests i = .issuePassport rid idem body)
    (hb : body.bind Json.asStruct? = some payload) (ha : payload.field "agent_id" = .string a)
    (hs : s₁.locals i = .start) :
    (∀ s₂, Run (server cfg requests) (Directed requests i a) s₁ s₂ →
      ∀ doc, s₂.locals i = .returned ⟨.created, doc⟩ → passportAgent doc = .string a) ∧
    (∀ s₂, Run (server cfg requests) .any s₁ s₂ →
      ∀ env doc, (∀ response, s₂.locals i ≠ .returned response) →
        (s₂.next (server cfg requests) i env).locals i = .returned ⟨.created, doc⟩ →
        (passportAgent doc = .string a ↔
          ¬s₂.shared.Misdirected a (requests i) (s₂.locals i))) := by
  have h : Tracks a (s₁.locals i) := hs ▸ trivial
  refine ⟨fun s₂ r doc hl => ?_, fun s₂ r env doc hn hl => ?_⟩
  case refine_1 =>
    have ht := run_tracks hi hb ha r h
    rw [hl] at ht
    exact ht rfl
  case refine_2 =>
    have ht := run_tracks_unanswered hi hb ha r h hn
    have hc := server_continues hi hb ha cfg env ht hn
    rw [State.next_locals_self] at hl
    exact (hl ▸ hc).passportAgent_iff

end Run

namespace Sample

open scoped Sha256.Standard

-- After the registration of an agent, passports for it and for another one are requested with the
-- same key.
def reusing : Option Client → Request
  | none         => registration "AUTONOMOUS"
  | some .first  => .issuePassport "r" "p" (issueBody "agt-k" "data/*")
  | some .second => .issuePassport "r" "p" (issueBody "agt-b" "data/*")

def firstIssued : List (Option Client × Env) :=
  [(none, env "1"), (none, env "2"), (some .first, env "3"), (some .first, env "4"),
    (some .first, env "5")]

def reused (sched : List (Option Client × Env)) : State (Option Client) (World Memory) Pc :=
  Transition.exec (server localMode reusing).interleaved (idle _ {} (.new false false)) sched

theorem run_created_passport_agent_iff_first : ∃ doc,
    (reused firstIssued).locals (some .first) = .returned ⟨.created, doc⟩ ∧
    passportAgent doc = .string "agt-k" := by
  have r : Run (server localMode reusing) (Directed reusing (some .first) "agt-k")
      (idle _ {} (.new false false)) (reused firstIssued) := .ofSchedule _ (by decide +kernel)
  have hi : reusing (some .first) = .issuePassport "r" "p" (issueBody "agt-k" "data/*") := rfl
  exact ⟨_, rfl, (run_created_passport_agent_iff hi rfl rfl rfl).left _ r _ rfl⟩

-- The second request asks for a passport of an agent that does not exist.
theorem reused_key_answers_other_agent :
    Nonempty (Run (server localMode reusing) .any (idle _ {} (.new false false))
      (reused <| firstIssued ++ [(some .second, env "6")])) ∧
    reusing (some .second) = .issuePassport "r" "p" (issueBody "agt-b" "data/*") ∧
    (issueBody "agt-b" "data/*").field "agent_id" = .string "agt-b" ∧
    ∃ doc, (reused <| firstIssued ++ [(some .second, env "6")]).locals (some .second) =
        .returned ⟨.created, doc⟩ ∧
      passportAgent doc = .string "agt-k" ∧ passportAgent doc ≠ .string "agt-b" := by
  refine ⟨⟨.ofSchedule _ (by decide +kernel)⟩, rfl, rfl, _, rfl, rfl, ?_⟩
  exact fun h => absurd (Json.string.inj h) (by decide)

end Sample

end RestBff
