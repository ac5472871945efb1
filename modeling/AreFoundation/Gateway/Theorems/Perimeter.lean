import AreFoundation.Gateway.Handler

open Go (Bytes)

namespace Gateway

variable {α β : Type} {env : Env} {r : Request α}

-- The two tables of routes agree: whatever may be posted requires a key.
theorem requiresIdempotencyKey_of_route (hr : isFoundationApiRoute httpMethod path)
    (hp : httpMethod = asBytes "POST") : requiresIdempotencyKey httpMethod path := by
  have hg : asBytes "POST" ≠ asBytes "GET" := by decide +kernel
  subst hp
  simp only [isFoundationApiRoute, matchPhase1Route, hg, false_and, if_false, true_and] at hr
  simp only [requiresIdempotencyKey, decide_true, Bool.true_and, List.any_cons, List.any_nil]
  split_ifs at hr <;> simp_all

theorem Validation.result_of_identity? {v : Validation} {id : Bytes} (h : v.identity? = some id) :
    v.result = .ok id := by
  unfold identity? at h
  split at h
  case _ => cases h
  case _ hr =>
    cases hd : v.deadlineExceeded <;> simp_all

def isCall : (Σ q, Answer α β q) → Bool
  | ⟨.validate _, _⟩ => false
  | ⟨.call _, _⟩     => true

-- What the gateway guarantees of a call of the upstream.
structure Admitted (r : Request α) (t : Dialogue.Transcript (Question α) (Answer α β))
    (req : UpstreamRequest α) : Prop where
  requestId      : r.header.get "X-Request-ID" ≠ []
  agentId        : r.header.get "X-ARE-Agent-ID" ≠ []
  route          : (matchPhase1Route r.method r.path).isSome
  idempotency    : r.method = asBytes "POST" → r.header.get "Idempotency-Key" ≠ []
  -- The validator has been asked just before and has returned the identity in the call.
  validated      : ∃ token v answer, r.header.get "Authorization" = asBytes "Bearer " ++ token ∧
                     v.result = .ok req.identity ∧
                     t = [⟨.validate token, v⟩, ⟨.call req, answer⟩]
  method         : req.method = r.method
  path           : req.path = r.path
  idempotencyKey : req.idempotencyKey = r.header.get "Idempotency-Key"
  caller         : req.agentId = r.header.get "X-ARE-Agent-ID"

def Closed (r : Request α) (t : Dialogue.Transcript (Question α) (Answer α β)) : Prop :=
  (∀ req answer, ⟨.call req, answer⟩ ∈ t → Admitted r t req) ∧ t.countP isCall ≤ 1

theorem Closed.nil : Closed r ([] : Dialogue.Transcript (Question α) (Answer α β)) := by
  simp [Closed]

theorem Closed.validated {v : Validation} :
    Closed r ([⟨.validate token, v⟩] : Dialogue.Transcript (Question α) (Answer α β)) := by
  simp [Closed, isCall]

theorem Closed.called {v : Validation} {answer : Except String (UpstreamResponse β)}
    (h : Admitted r [⟨.validate token, v⟩, ⟨.call req, answer⟩] req) :
    Closed r ([⟨.validate token, v⟩, ⟨.call req, answer⟩] :
      Dialogue.Transcript (Question α) (Answer α β)) := by
  refine ⟨fun req' answer' hm => ?_, by simp [isCall]⟩
  have : req' = req := by
    simp only [List.mem_cons, Sigma.mk.injEq, reduceCtorEq, false_and, false_or, List.not_mem_nil,
      or_false, Question.call.injEq] at hm
    exact hm.left
  exact this ▸ h

theorem authorizeMetricsScrape_closed :
    (authorizeMetricsScrape env r : Handling α β _).Always fun t _ => Closed r t := by
  refine .ite (fun _ => Dialogue.always_pure.mpr .nil) fun _ => ?_
  refine .ite (fun _ => Dialogue.always_pure.mpr .nil) fun _ => ?_
  rw [Dialogue.always_bind, validate, Dialogue.always_question]
  intro v
  split <;> exact Dialogue.always_pure.mpr .validated

theorem handle_perimeter (env : Env) (r : Request α) :
    (handle env r : Handling α β _).Always fun t _ => Closed r t := by
  have refused (response : Response β) :
      (pure response : Handling α β _).Always fun t _ => Closed r t :=
    Dialogue.always_pure.mpr .nil
  refine .ite (fun _ => refused _) fun _ => ?_
  refine .ite (fun _ => ?metrics) fun _ => ?_
  case metrics =>
    rw [Dialogue.always_bind]
    refine authorizeMetricsScrape_closed.mono fun h => ?_
    split <;> simpa using h
  refine .ite (fun _ => refused _) fun requestId => ?_
  refine .ite (fun _ => refused _) fun idempotency => ?_
  refine .ite (fun _ => refused _) fun bearer => ?_
  refine .ite (fun _ => refused _) fun agentId => ?_
  rw [Dialogue.always_bind, validate, Dialogue.always_question]
  intro v
  split
  case _ => exact Dialogue.always_pure.mpr .validated
  case _ identity hv =>
    refine .ite (fun _ => Dialogue.always_pure.mpr .validated) fun route => ?_
    split
    case _ => exact Dialogue.always_pure.mpr .validated
    case _ body hb =>
      rw [Dialogue.always_bind, call, Dialogue.always_question]
      intro answer
      have route : isFoundationApiRoute r.method r.path := by simpa using route
      have closed : Closed r [⟨.validate _, v⟩, ⟨.call _, answer⟩] := by
        apply Closed.called
        constructor
        case requestId   => exact requestId
        case agentId     => exact agentId
        case route       => exact route
        case idempotency =>
          intro post key
          have required := requiresIdempotencyKey_of_route route post
          exact idempotency ⟨required, key⟩
        case validated   =>
          have starts : Bytes.hasPrefix (r.header.get "Authorization") "Bearer " := by
            simpa using (not_or.mp bearer).right
          exact ⟨_, v, answer, Bytes.eq_append_of_hasPrefix starts, v.result_of_identity? hv, rfl⟩
        all_goals rfl
      split <;> exact Dialogue.always_pure.mpr closed

end Gateway
