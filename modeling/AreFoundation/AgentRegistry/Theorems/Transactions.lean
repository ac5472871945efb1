import AreFoundation.AgentRegistry.Transactions

namespace AgentRegistry.Transactions

-- A call as a transaction that runs alone.
def Call.alone (r : Registry) : Call → Except RegistryError Reply × Registry
  | register a envelope => (r.registerAgentWithOutbox a envelope true).map (·.map .agent) id
  | updateAgentStatus agentId newStatus reason changedBy now =>
    (r.updateAgentStatus agentId newStatus reason changedBy { now }).map (·.map .previousStatus) id

-- What a call does once it has read the row that it is about: the locks that it holds, its statements,
-- and its reply.
structure Plan where
  held       : List Change
  statements : List Statement
  reply      : Reply

def Call.plan (r : Registry) : Call → Except RegistryError Plan
  | register a envelope => .ok ⟨[], registration a envelope, .agent a⟩
  | updateAgentStatus agentId newStatus reason changedBy now =>
    match r.agents.lookup agentId with
    | none   => .error <| .notFound ("agent_id " ++ agentId)
    | some a =>
      if !canTransition a.status newStatus then
        .error <| .failedPrecondition
          ("invalid transition from " ++ a.status.toRaw ++ " to " ++ newStatus)
      else
        .ok ⟨[.hold <| .agent agentId], update agentId newStatus reason changedBy now a.status,
          .previousStatus a.status⟩

-- The changes of some statements, if all of them succeed.
def changes (r : Registry) : List Statement → Except RegistryError (List Change)
  | []         => .ok []
  | st :: rest =>
    match st.execute r with
    | .error err => .error err
    | .ok ds     => (changes r rest).map (ds ++ ·)

theorem changes_append (h : changes r sts = .ok ds) :
    changes r (sts ++ sts') = (changes r sts').map (ds ++ ·) := by
  induction sts generalizing ds
  case nil =>
    cases h
    rw [List.nil_append]
    cases changes r sts' <;> rfl
  case cons st sts hi =>
    unfold changes at h
    rw [List.cons_append, changes]
    split at h
    case h_1 => cases h
    case h_2 ds₁ he =>
      cases hs : changes r sts
      case error => rw [hs] at h; cases h
      case ok ds₂ =>
        rw [hs] at h
        cases h
        rw [hi hs]
        cases changes r sts'
        case error => rfl
        case ok    => simp [Except.map]

theorem foldl_hold (keys : List Key) : (keys.map Change.hold).foldl apply r = r := by
  induction keys
  case nil       => rfl
  case cons _ hi => exact hi

-- The transaction as a whole, against rows that do not change meanwhile.
def Call.outcome (call : Call) (r : Registry) : Except RegistryError Reply × Registry :=
  match call.plan r with
  | .error err => (.error err, r)
  | .ok plan   =>
    match changes r plan.statements with
    | .error err => (.error err, r)
    | .ok ds     => (.ok plan.reply, ds.foldl apply r)

theorem Call.alone_register (a : Agent) (envelope : Option AdmissionEnvelope) :
    alone r (.register a envelope) = outcome (.register a envelope) r := by
  simp only [alone, outcome, plan, registration, Registry.registerAgentWithOutbox, Bool.not_true,
    Bool.false_eq_true, if_false, List.cons_append, changes, Statement.execute]
  split
  case isTrue  => rfl
  case isFalse =>
    cases envelope
    case none =>
      simp only [Option.any_none, Bool.false_eq_true, if_false, Option.map_none, Option.toList_none,
        List.nil_append, changes, Statement.execute, Except.map, List.foldl_append, List.foldl_cons,
        foldl_hold]
      rfl
    case some env =>
      simp only [Option.any_some, Option.map_some, Option.toList_some, List.cons_append,
        List.nil_append, changes, Statement.execute]
      split
      case isTrue  => rfl
      case isFalse =>
        simp only [Except.map, List.foldl_append, List.foldl_cons, foldl_hold]
        rfl

theorem Call.alone_updateAgentStatus (agentId newStatus reason changedBy : String)
    (now : Calendar.Instant) :
    alone r (.updateAgentStatus agentId newStatus reason changedBy now) =
      outcome (.updateAgentStatus agentId newStatus reason changedBy now) r := by
  simp only [alone, outcome, plan, Registry.updateAgentStatus, Bool.not_true, Bool.false_eq_true,
    if_false]
  cases ha : r.agents.lookup agentId
  case none => rfl
  case some a =>
    dsimp only
    split
    case isTrue  => rfl
    case isFalse =>
      simp only [update]
      split
      case isTrue  => rfl
      case isFalse =>
        cases AgentStatus.ofRaw? newStatus
        case none        => rfl
        case some status =>
          simp only [changes, Statement.execute, Except.map, List.foldl_append, List.foldl_cons,
            apply, HashMap.modify, ha]
          rfl

theorem Call.alone_eq (call : Call) (r : Registry) : call.alone r = call.outcome r := by
  cases call
  case register          => exact alone_register ..
  case updateAgentStatus => exact alone_updateAgentStatus ..

section Keys

-- A value of a unique index is in use.
def Uses (r : Registry) : Key → Prop
  | .agent agentId               => agentId ∈ r.agents
  | .external externalId ownerId =>
    externalId ≠ "" ∧
      ∃ k a, r.agents.lookup k = some a ∧ a.externalId = externalId ∧ a.ownerId = ownerId
  | .envelope envelopeId         =>
    ∃ k env, r.admissionEnvelopes.lookup k = some env ∧ env.envelopeId = envelopeId

-- All values that a change puts into use.
def Change.keys : Change → List Key
  | insertAgent a => .agent a.agentId :: externalKey a
  | d             => [d.key]

-- The transaction holds all values that it is going to put into use.
def Covered (ds : List Change) : Prop :=
  ∀ d ∈ ds, ∀ k ∈ d.keys, ∃ d' ∈ ds, d'.key = k

-- Keys are taken in the order of the statements.
def Key.level : Key → Nat
  | .envelope _ => 1
  | _           => 0

theorem Key.level_le (k : Key) : k.level ≤ 1 := by
  cases k <;> simp [level]

theorem externalKey_level (h : k ∈ externalKey a) : k.level = 0 := by
  unfold externalKey at h
  split at h
  case isTrue  => cases h
  case isFalse => rw [List.mem_singleton.mp h]; rfl

variable {r : Registry} {d : Change} {ds ds' : List Change} {k : Key} {st : Statement}

theorem Covered.append (h : Covered ds) (h' : Covered ds') : Covered (ds ++ ds') := by
  intro d hd k hk
  rcases List.mem_append.mp hd with hd | hd
  case inl => exact (h d hd k hk).imp fun _ h => ⟨List.mem_append_left _ h.left, h.right⟩
  case inr => exact (h' d hd k hk).imp fun _ h => ⟨List.mem_append_right _ h.left, h.right⟩

theorem Covered.singleton (h : d.keys = [d.key]) : Covered [d] := by
  intro d' hd k hk
  rw [List.mem_singleton.mp hd, h, List.mem_singleton] at hk
  exact ⟨d, List.mem_singleton_self d, hk.symm⟩

theorem uses_of_apply (h : Uses (apply r d) k) : Uses r k ∨ k ∈ d.keys := by
  cases d
  case insertAgent a =>
    cases k
    case agent agentId =>
      refine (Finmap.mem_insert.mp h).symm.imp_right fun he => ?_
      rw [he]
      exact List.mem_cons_self
    case envelope => exact .inl h
    case external =>
      obtain ⟨hn, k, b, hb, he, ho⟩ := h
      rw [apply, HashMap.lookup_insert] at hb
      split at hb
      case isFalse => exact .inl ⟨hn, k, b, hb, he, ho⟩
      case isTrue  =>
        cases hb
        refine .inr (List.mem_cons_of_mem _ ?_)
        rw [externalKey, if_neg (he ▸ hn), he, ho]
        exact List.mem_singleton_self _
  case updateAgent agentId status updatedTs =>
    refine .inl ?_
    cases k
    case agent    => exact HashMap.mem_modify.mp h
    case envelope => exact h
    case external =>
      obtain ⟨hn, k, b, hb, he, ho⟩ := h
      rw [apply, HashMap.lookup_modify] at hb
      split at hb
      case isFalse => exact ⟨hn, k, b, hb, he, ho⟩
      case isTrue  =>
        obtain ⟨b', hb', rfl⟩ := Option.map_eq_some_iff.mp hb
        exact ⟨hn, agentId, b', hb', he, ho⟩
  case insertEnvelope agentId env =>
    cases k
    case envelope =>
      obtain ⟨k, env', he, hi⟩ := h
      rw [apply, HashMap.lookup_insert] at he
      split at he
      case isFalse => exact .inl ⟨k, env', he, hi⟩
      case isTrue  => cases he; exact .inr (hi ▸ List.mem_singleton_self _)
    all_goals exact .inl h
  all_goals exact .inl h

theorem uses_of_foldl (h : Uses (ds.foldl apply r) k) : Uses r k ∨ ∃ d ∈ ds, k ∈ d.keys := by
  induction ds generalizing r
  case nil => exact .inl h
  case cons d ds hi =>
    rcases hi h with h | ⟨d', hd, hk⟩
    case inl => exact (uses_of_apply h).imp_right fun hk => ⟨d, List.mem_cons_self, hk⟩
    case inr => exact .inr ⟨d', List.mem_cons_of_mem d hd, hk⟩

-- Rows of agents are changed under their own keys only.
theorem lookup_foldl (h : ∀ d ∈ ds, d.key ≠ .agent agentId) :
    (ds.foldl apply r).agents.lookup agentId = r.agents.lookup agentId := by
  induction ds generalizing r
  case nil => rfl
  case cons d ds hi =>
    rw [List.forall_mem_cons] at h
    rw [List.foldl_cons, hi h.right]
    cases d
    case insertAgent a =>
      rw [apply, HashMap.lookup_insert, if_neg]
      exact fun he => h.left (he ▸ rfl)
    case updateAgent =>
      rw [apply, HashMap.lookup_modify, if_neg]
      exact fun he => h.left (he ▸ rfl)
    all_goals rfl

-- No agent is removed.
theorem mem_agents_foldl (h : agentId ∈ r.agents) : agentId ∈ (ds.foldl apply r).agents := by
  induction ds generalizing r
  case nil => exact h
  case cons d ds hi =>
    refine hi ?_
    cases d
    case insertAgent => exact Finmap.mem_insert.mpr (.inr h)
    case updateAgent => exact HashMap.mem_modify.mpr h
    all_goals exact h

theorem admissionEnvelopes_foldl (h : ∀ d ∈ ds, d.key.level < 1) :
    (ds.foldl apply r).admissionEnvelopes = r.admissionEnvelopes := by
  induction ds generalizing r
  case nil => rfl
  case cons d ds hi =>
    rw [List.forall_mem_cons] at h
    rw [List.foldl_cons, hi h.right]
    cases d
    case insertEnvelope => exact absurd h.left (Nat.lt_irrefl 1)
    all_goals rfl

end Keys

namespace Statement

variable {r : Registry} {ds ds' : List Change} {st : Statement}

-- An insert fails if one of the keys that it waits for is in use.
theorem execute_insertAgent (a : Agent) (h : execute r (.insertAgent a) = .ok ds) :
    ds = .insertAgent a :: (externalKey a).map .hold ∧ ∀ k ∈ wants (.insertAgent a), ¬Uses r k := by
  simp only [execute] at h
  split at h
  case isTrue     => cases h
  case isFalse hn =>
    cases h
    refine ⟨rfl, fun k hk hu => hn ?_⟩
    rcases List.mem_cons.mp hk with rfl | hk
    case inl => exact .inl hu
    case inr =>
      unfold externalKey at hk
      split at hk
      case isTrue  => cases hk
      case isFalse he =>
        cases List.mem_singleton.mp hk
        obtain ⟨_, k, b, hb, hx, ho⟩ := hu
        refine .inr ⟨he, HashMap.any_iff.mpr ⟨k, b, hb, ?_⟩⟩
        simp [hx, ho]

theorem execute_insertAgent_of (h : ∀ k ∈ wants (.insertAgent a), ¬Uses r k) :
    execute r (.insertAgent a) = .ok (.insertAgent a :: (externalKey a).map .hold) := by
  refine if_neg fun hc => ?_
  rcases hc with hm | ⟨he, hc⟩
  case inl => exact h _ List.mem_cons_self hm
  case inr =>
    obtain ⟨k, b, hb, hc⟩ := HashMap.any_iff.mp hc
    simp only [Bool.and_eq_true, decide_eq_true_eq] at hc
    refine h (.external a.externalId a.ownerId) ?_ ⟨he, k, b, hb, hc⟩
    rw [wants, externalKey, if_neg he]
    exact List.mem_cons_of_mem _ (List.mem_singleton_self _)

theorem execute_insertEnvelope_ok :
    execute r (.insertEnvelope agentId env) = .ok ds ↔
      ds = [.insertEnvelope agentId env] ∧ ¬Uses r (.envelope env.envelopeId) := by
  have hu : (r.admissionEnvelopes.any fun _ env' => env'.envelopeId = env.envelopeId) ↔
      Uses r (.envelope env.envelopeId) := by
    simp only [HashMap.any_iff, decide_eq_true_eq, Uses]
  simp only [execute]
  split
  case isTrue h  => simp [hu.mp h]
  case isFalse h => simp [mt hu.mpr h, eq_comm]

-- A statement that has succeeded holds the keys that it has waited for.
theorem wants_of_execute (h : st.execute r = .ok ds) (hk : k ∈ st.wants) : ∃ d ∈ ds, d.key = k := by
  cases st
  case insertAgent a =>
    cases (execute_insertAgent a h).left
    rcases List.mem_cons.mp hk with rfl | hk
    case inl => exact ⟨_, List.mem_cons_self, rfl⟩
    case inr => exact ⟨.hold k, List.mem_cons_of_mem _ (List.mem_map_of_mem hk), rfl⟩
  case insertEnvelope agentId env =>
    cases (execute_insertEnvelope_ok.mp h).left
    exact ⟨_, List.mem_singleton_self _, (List.mem_singleton.mp hk).symm⟩
  all_goals cases hk

theorem covered_of_execute (h : st.execute r = .ok ds) : Covered ds := by
  cases st
  case insertAgent a =>
    intro d hd k hk
    have hw := wants_of_execute (k := k) h
    cases (execute_insertAgent a h).left
    rcases List.mem_cons.mp hd with rfl | hd
    case inl => exact hw hk
    case inr =>
      obtain ⟨k', hk', rfl⟩ := List.mem_map.mp hd
      exact ⟨.hold k', List.mem_cons_of_mem _ hd, (List.mem_singleton.mp hk).symm⟩
  case insertEnvelope agentId env =>
    cases (execute_insertEnvelope_ok.mp h).left
    exact .singleton rfl
  case violateStatusCheck => cases h
  all_goals
    cases h
    exact .singleton rfl

-- What others commit makes no difference for a statement that has succeeded.
theorem execute_stable (h : st.execute r = .ok ds) (hc : Covered ds')
    (hn : ∀ d ∈ ds, ∀ d' ∈ ds', d.key ≠ d'.key) : st.execute (ds'.foldl apply r) = .ok ds := by
  have hu (k : Key) (hk : k ∈ st.wants) (hu : Uses (ds'.foldl apply r) k) : Uses r k := by
    refine (uses_of_foldl hu).resolve_right fun ⟨d', hd', hk'⟩ => ?_
    obtain ⟨d'', hd'', rfl⟩ := hc d' hd' k hk'
    obtain ⟨d, hd, he⟩ := wants_of_execute h hk
    exact hn d hd d'' hd'' he
  cases st
  case insertAgent a =>
    have ⟨hd, hw⟩ := execute_insertAgent a h
    rw [hd]
    exact execute_insertAgent_of fun k hk h => hw k hk (hu k hk h)
  case insertEnvelope agentId env =>
    have ⟨hd, hw⟩ := execute_insertEnvelope_ok.mp h
    exact execute_insertEnvelope_ok.mpr ⟨hd, fun h => hw (hu _ (List.mem_singleton_self _) h)⟩
  all_goals exact h

-- What the transaction has changed itself makes no difference either.
theorem execute_view (h : ∀ k ∈ st.wants, ∀ d ∈ ds, d.key.level < k.level) :
    st.execute (ds.foldl apply r) = st.execute r := by
  cases st
  case insertAgent a =>
    have hn : ds = [] := List.eq_nil_iff_forall_not_mem.mpr fun d hd =>
      Nat.not_lt_zero _ (h (.agent a.agentId) List.mem_cons_self d hd)
    rw [hn]
    rfl
  case insertEnvelope agentId env =>
    have he : (ds.foldl apply r).admissionEnvelopes = r.admissionEnvelopes :=
      admissionEnvelopes_foldl (h _ (List.mem_singleton_self _))
    simp only [execute, he]
  all_goals rfl

end Statement

section Changes

variable {r : Registry} {sts : List Statement} {ds ds' : List Change}

theorem changes_cons (h : changes r (st :: sts) = .ok ds) :
    ∃ ds₁ ds₂, st.execute r = .ok ds₁ ∧ changes r sts = .ok ds₂ ∧ ds = ds₁ ++ ds₂ := by
  unfold changes at h
  split at h
  case h_1 => cases h
  case h_2 ds₁ he =>
    cases hs : changes r sts
    case error => rw [hs] at h; cases h
    case ok ds₂ =>
      rw [hs] at h
      cases h
      exact ⟨ds₁, ds₂, he, rfl, rfl⟩

theorem mem_changes (h : changes r sts = .ok ds) (hd : d ∈ ds) :
    ∃ st ∈ sts, ∃ ds', st.execute r = .ok ds' ∧ d ∈ ds' := by
  induction sts generalizing ds
  case nil => cases h; cases hd
  case cons st sts hi =>
    obtain ⟨ds₁, ds₂, he, hs, rfl⟩ := changes_cons h
    rcases List.mem_append.mp hd with hd | hd
    case inl => exact ⟨st, List.mem_cons_self, ds₁, he, hd⟩
    case inr => exact (hi hs hd).imp fun _ h => ⟨List.mem_cons_of_mem _ h.left, h.right⟩

theorem covered_of_changes (h : changes r sts = .ok ds) : Covered ds := by
  induction sts generalizing ds
  case nil => cases h; nofun
  case cons st sts hi =>
    obtain ⟨ds₁, ds₂, he, hs, rfl⟩ := changes_cons h
    exact (Statement.covered_of_execute he).append (hi hs)

theorem changes_stable (h : changes r sts = .ok ds) (hc : Covered ds')
    (hn : ∀ d ∈ ds, ∀ d' ∈ ds', d.key ≠ d'.key) : changes (ds'.foldl apply r) sts = .ok ds := by
  induction sts generalizing ds
  case nil => exact h
  case cons st sts hi =>
    obtain ⟨ds₁, ds₂, he, hs, rfl⟩ := changes_cons h
    have he' := Statement.execute_stable he hc fun d hd => hn d (List.mem_append_left _ hd)
    have hs' := hi hs fun d hd => hn d (List.mem_append_right _ hd)
    rw [changes, he', hs']
    rfl

end Changes

namespace Statement

-- All statements of a call are about one agent.
def About (agentId : String) : Statement → Prop
  | insertAgent a             => a.agentId = agentId
  | insertEnvelope agentId' _ => agentId' = agentId
  | updateAgent agentId' _ _  => agentId' = agentId
  | violateStatusCheck        => True
  | insertHistory row         => row.agentId = agentId
  | insertOutbox event        => event.agentId = agentId

variable {r : Registry} {ds : List Change} {st : Statement}

theorem About.key_of_execute (ha : st.About agentId) (h : st.execute r = .ok ds) (hd : d ∈ ds) :
    d.key ∈ st.wants ∨ d.key = .agent agentId := by
  cases st
  case insertAgent a =>
    cases (execute_insertAgent a h).left
    refine .inl ?_
    rcases List.mem_cons.mp hd with rfl | hd
    case inl => exact List.mem_cons_self
    case inr =>
      obtain ⟨k, hk, rfl⟩ := List.mem_map.mp hd
      exact List.mem_cons_of_mem _ hk
  case insertEnvelope agentId env =>
    cases (execute_insertEnvelope_ok.mp h).left
    cases List.mem_singleton.mp hd
    exact .inl (List.mem_singleton_self _)
  case violateStatusCheck => cases h
  all_goals
    cases h
    cases List.mem_singleton.mp hd
    exact .inr (congrArg Key.agent ha)

-- The keys that a statement waits for come after those that the other one leaves locked.
def Before (st st' : Statement) : Prop :=
  ∀ r ds, st.execute r = .ok ds → ∀ k ∈ st'.wants, ∀ d ∈ ds, d.key.level < k.level

theorem Before.of_wants (h : st'.wants = []) : st.Before st' := by
  intro _ _ _ k hk
  rw [h] at hk
  cases hk

theorem before_insertHistory (st : Statement) (row : StatusChange) : st.Before (.insertHistory row) :=
  .of_wants rfl

theorem before_insertOutbox (st : Statement) (event : OutboxEvent) : st.Before (.insertOutbox event) :=
  .of_wants rfl

theorem before_insertEnvelope (a : Agent) (agentId : String) (env : AdmissionEnvelope) :
    (insertAgent a).Before (.insertEnvelope agentId env) := by
  intro r ds h k hk d hd
  cases (execute_insertAgent a h).left
  cases List.mem_singleton.mp hk
  rcases List.mem_cons.mp hd with rfl | hd
  case inl => exact Nat.one_pos
  case inr =>
    obtain ⟨k, hk, rfl⟩ := List.mem_map.mp hd
    rw [Change.key, externalKey_level hk]
    exact Nat.one_pos

end Statement

namespace Call

open Statement

variable {agentId : String}

theorem mem_update (h : st ∈ update agentId newStatus reason changedBy now prev) :
    st.About agentId ∧ st.wants = [] := by
  unfold update at h
  split at h
  case isTrue  => cases h
  case isFalse =>
    split at h
    case h_1 => cases List.mem_singleton.mp h; exact ⟨trivial, rfl⟩
    case h_2 =>
      simp only [List.mem_cons, List.not_mem_nil, or_false] at h
      rcases h with rfl | rfl | rfl <;> exact ⟨rfl, rfl⟩

theorem mem_registration (h : st ∈ registration a envelope) : st.About a.agentId := by
  simp only [registration, List.cons_append, List.mem_cons, List.mem_append, Option.mem_toList,
    Option.map_eq_some_iff, List.not_mem_nil, or_false] at h
  rcases h with rfl | ⟨env, _, rfl⟩ | rfl | rfl <;> rfl

variable {call : Call} {r : Registry} {plan : Plan} {ds : List Change}

theorem plan_updateAgentStatus
    (h : Call.plan r (.updateAgentStatus agentId newStatus reason changedBy now) = .ok plan) :
    plan.held = [.hold <| .agent agentId] ∧
      ∃ prev, plan.statements = update agentId newStatus reason changedBy now prev := by
  simp only [Call.plan] at h
  split at h
  case h_1 => cases h
  case h_2 a _ =>
    split at h
    case isTrue  => cases h
    case isFalse => cases h; exact ⟨rfl, a.status, rfl⟩

-- Only an update of an agent that exists yields a previous status.
theorem mem_agents_of_plan (h : call.plan r = .ok plan) (hr : plan.reply = .previousStatus prev) :
    call.agentId ∈ r.agents := by
  cases call
  case register => cases h; cases hr
  case updateAgentStatus =>
    simp only [Call.plan] at h
    split at h
    case h_1    => cases h
    case h_2 hl => exact Finmap.mem_of_lookup_eq_some hl

-- The row that a plan depends on is locked.
theorem plan_stable (h : call.plan r = .ok plan)
    (hn : ∀ d ∈ plan.held, ∀ d' ∈ ds, d.key ≠ d'.key) :
    call.plan (ds.foldl apply r) = .ok plan := by
  cases call
  case register => exact h
  case updateAgentStatus agentId newStatus reason changedBy now =>
    have hl : (ds.foldl apply r).agents.lookup agentId = r.agents.lookup agentId := by
      refine lookup_foldl fun d hd => (hn (.hold <| .agent agentId) ?_ d hd).symm
      rw [(plan_updateAgentStatus h).left]
      exact List.mem_singleton_self _
    simp only [Call.plan, hl]
    exact h

theorem foldl_held (h : call.plan r = .ok plan) : plan.held.foldl apply r = r := by
  cases call
  case register          => cases h; rfl
  case updateAgentStatus => rw [(plan_updateAgentStatus h).left]; rfl

theorem covered_held (h : call.plan r = .ok plan) : Covered plan.held := by
  cases call
  case register => cases h; nofun
  case updateAgentStatus =>
    rw [(plan_updateAgentStatus h).left]
    exact .singleton rfl

theorem about_of_plan (h : call.plan r = .ok plan) (hs : st ∈ plan.statements) :
    st.About call.agentId := by
  cases call
  case register => cases h; exact mem_registration hs
  case updateAgentStatus =>
    obtain ⟨_, prev, hp⟩ := plan_updateAgentStatus h
    exact (mem_update (hp ▸ hs)).left

theorem pairwise_of_plan (h : call.plan r = .ok plan) : plan.statements.Pairwise Before := by
  cases call
  case register a envelope =>
    cases h
    cases envelope <;>
      simp [registration, before_insertEnvelope, before_insertHistory, before_insertOutbox]
  case updateAgentStatus =>
    obtain ⟨_, prev, hp⟩ := plan_updateAgentStatus h
    rw [hp]
    exact List.pairwise_of_forall_mem_list fun _ _ st' hs => .of_wants (mem_update hs).right

section Executed

variable (h : call.plan r = .ok plan) (hs : plan.statements = done ++ st :: rest)
variable (hc : changes r done = .ok ds)

include h hs hc

theorem level_lt (hk : k ∈ st.wants) (hd : d ∈ plan.held ++ ds) : d.key.level < k.level := by
  rcases List.mem_append.mp hd with hd | hd
  case inl =>
    cases call
    case register => cases h; cases hd
    case updateAgentStatus =>
      obtain ⟨_, prev, hp⟩ := plan_updateAgentStatus h
      have hm : st ∈ plan.statements := by simp [hs]
      rw [(mem_update (hp ▸ hm)).right] at hk
      cases hk
  case inr =>
    obtain ⟨st', hm, ds', he, hd⟩ := mem_changes hc hd
    have hp := pairwise_of_plan h
    rw [hs, List.pairwise_append] at hp
    exact hp.right.right st' hm st List.mem_cons_self r ds' he k hk d hd

-- Rows are changed that have been waited for or that are locked already.
theorem locked (he : st.execute r' = .ok ds') (hd : d ∈ ds') :
    d.key ∈ st.wants ∨ ∃ d' ∈ plan.held ++ ds, d'.key = d.key := by
  have hm : st ∈ plan.statements := by simp [hs]
  rcases (about_of_plan h hm).key_of_execute he hd with hk | hk
  case inl => exact .inl hk
  case inr =>
    rw [hk]
    cases call
    case register a envelope =>
      cases h
      cases done
      case nil =>
        cases (List.cons.inj hs).left
        exact .inl List.mem_cons_self
      case cons st₀ done =>
        cases (List.cons.inj hs).left
        obtain ⟨ds₁, ds₂, he₀, _, rfl⟩ := changes_cons hc
        cases (execute_insertAgent a he₀).left
        exact .inr ⟨.insertAgent a, by simp, rfl⟩
    case updateAgentStatus =>
      rw [(plan_updateAgentStatus h).left]
      exact .inr ⟨_, List.mem_cons_self, rfl⟩

end Executed

end Call

end AgentRegistry.Transactions
