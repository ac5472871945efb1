import AreFoundation.Library.Linearization
import AreFoundation.AgentRegistry.Theorems.History
import AreFoundation.AgentRegistry.Theorems.Transactions

open Interleaving ReadCommitted Linearization

namespace AgentRegistry.Transactions

-- How the transaction of a call has ended.
def Pc.outcome : Pc → Option (Except RegistryError Reply)
  | .returned (.error err) => some <| .error err
  | pc                     => pc.committed?.map .ok

-- A call whose first statements have been executed.
structure Underway (call : Call) (r : Registry) (pending : List Change) (rest : List Statement)
    (reply : Reply) (plan : Plan) (done : List Statement) (ds : List Change) : Prop where
  planned  : call.plan r = .ok plan
  splits   : plan.statements = done ++ rest
  replies  : plan.reply = reply
  executed : changes r done = .ok ds
  changed  : pending = plan.held ++ ds

namespace Underway

variable {call : Call} {r : Registry} {pending ds ds' : List Change} {rest done : List Statement}
variable {reply : Reply} {plan : Plan}

theorem covered (h : Underway call r pending rest reply plan done ds) : Covered pending := by
  rw [h.changed]
  exact (Call.covered_held h.planned).append (covered_of_changes h.executed)

-- What others commit makes no difference for a call.
theorem stable (h : Underway call r pending rest reply plan done ds) (hc : Covered ds')
    (hn : ∀ d ∈ pending, ∀ d' ∈ ds', d.key ≠ d'.key) :
    Underway call (ds'.foldl apply r) pending rest reply plan done ds := by
  rw [h.changed] at hn
  exact { h with
    planned  := Call.plan_stable h.planned fun d hd => hn d (List.mem_append_left _ hd)
    executed := changes_stable h.executed hc fun d hd => hn d (List.mem_append_right _ hd) }

theorem execute (h : Underway call r pending (st :: rest) reply plan done ds) :
    st.execute (pending.foldl apply r) = st.execute r := by
  rw [h.changed]
  exact Statement.execute_view fun k hk d hd => Call.level_lt h.planned h.splits h.executed hk hd

theorem ok (h : Underway call r pending (st :: rest) reply plan done ds) (he : st.execute r = .ok ds') :
    Underway call r (pending ++ ds') rest reply plan (done ++ [st]) (ds ++ ds') where
  planned  := h.planned
  splits   := by rw [h.splits, List.append_cons]
  replies  := h.replies
  executed := by
    rw [changes_append h.executed, changes, he, changes]
    simp [Except.map]
  changed  := by rw [h.changed, List.append_assoc]

-- A statement that fails decides the call.
theorem alone_of_error (h : Underway call r pending (st :: rest) reply plan done ds)
    (he : st.execute r = .error err) : call.alone r = (.error err, r) := by
  have hc : changes r plan.statements = .error err := by
    rw [h.splits, changes_append h.executed, changes, he]
    rfl
  simp only [Call.alone_eq, Call.outcome, h.planned, hc]

theorem alone_of_nil (h : Underway call r pending [] reply plan done ds) :
    call.alone r = (.ok reply, pending.foldl apply r) := by
  have hc : changes r plan.statements = .ok ds := by
    rw [h.splits, List.append_nil, h.executed]
  simp only [Call.alone_eq, Call.outcome, h.planned, hc, h.replies, h.changed, List.foldl_append,
    Call.foldl_held h.planned]

end Underway

-- What is known about a call at each of its points.
def Stage (call : Call) (r : Registry) (pending : List Change) : Pc → Prop
  | .start                => pending = []
  | .executing rest reply => ∃ plan done ds, Underway call r pending rest reply plan done ds
  | .gettingAgent _       => pending = [] ∧ call.agentId ∈ r.agents
  | .rollingBack _        => True
  | .returned _ | .lost _ => pending = []

-- A transaction that is rolled back has failed at the time of the statement before.
def Evidence (call : Call) (r : Registry) : Pc → Prop
  | .rollingBack err => call.alone r = (.error err, r)
  | _                => True

theorem Stage.stable (h : Stage call r pending pc) (hc : Covered ds')
    (hn : ∀ d ∈ pending, ∀ d' ∈ ds', d.key ≠ d'.key) :
    Stage call (ds'.foldl apply r) pending pc := by
  cases pc
  case executing =>
    obtain ⟨plan, done, ds, hu⟩ := h
    exact ⟨plan, done, ds, hu.stable hc hn⟩
  case gettingAgent => exact ⟨h.left, mem_agents_foldl h.right⟩
  all_goals exact h

-- What a step of a call achieves.
structure Advances (call : Call) (i : ι) (db : Database ι) (pc : Pc) (next : Database ι × Pc) :
    Prop where
  exclusive : next.1.Exclusive Change.key
  stage     : Stage call next.1.committed (next.1.pending i) next.2
  point     : Point (fun r db => r = db.committed) Pc.outcome call.alone
                (fun pc _ r => Evidence call r pc) db.committed db pc next.1 next.2

-- Losing the connection takes nothing back that has been committed.
theorem Advances.disconnect [DecidableEq ι] {i : ι} (h : Advances call i db pc next)
    (hn : next.2.outcome = next.2.committed?.map .ok) :
    Advances call i db pc (disconnect i next) where
  exclusive := h.exclusive.rollback
  stage     := Store.rollback_pending_self
  point     := h.point.congr hn.symm (fun _ => id) fun _ _ => trivial

section Step

variable [DecidableEq ι] {call : Call} {i : ι} {db : Database ι} {pc : Pc}

omit [DecidableEq ι] in
theorem Allows.free (h : Allows call i db pc .stays) (hk : k ∈ wants call db pc) :
    db.Free Change.key i k :=
  h.left (by decide) k hk

variable (hx : db.Exclusive Change.key)

include hx

theorem proceed_start (h : db.pending i = []) (ha : Allows call i db .start .stays) :
    Advances call i db .start (proceed call i db .start) := by
  cases call
  case register a envelope =>
    refine ⟨hx, ⟨_, [], [], rfl, rfl, rfl, rfl, h⟩, ?_⟩
    exact .prepare rfl rfl rfl fun _ _ => trivial
  case updateAgentStatus agentId newStatus reason changedBy now =>
    simp only [proceed, db.view_of_nil apply h]
    cases hl : db.committed.agents.lookup agentId
    case none =>
      refine ⟨hx, trivial, .observe rfl rfl rfl ?_⟩
      simp only [Evidence, Call.alone_eq, Call.outcome, Call.plan, hl]
    case some a =>
      have hw : (db.write i [.hold <| .agent agentId]).Exclusive Change.key := by
        refine hx.write fun d hd => ha.free ?_
        rw [List.mem_singleton.mp hd, wants, if_pos (Finmap.mem_of_lookup_eq_some hl)]
        exact List.mem_singleton_self _
      by_cases ht : !canTransition a.status newStatus
      case pos =>
        simp only [if_pos ht]
        refine ⟨hw, trivial, .observe rfl rfl rfl ?_⟩
        simp only [Evidence, Call.alone_eq, Call.outcome, Call.plan, hl, if_pos ht]
      case neg =>
        simp only [if_neg ht]
        refine ⟨hw, ?_, .prepare rfl rfl rfl fun _ _ => trivial⟩
        refine ⟨⟨[.hold <| .agent agentId], _, _⟩, [], [], ?_, rfl, rfl, rfl, ?_⟩
        case refine_1 => simp only [Store.write_committed, Call.plan, hl, if_neg ht]; rfl
        case refine_2 => rw [Store.write_pending_self, h]; rfl

theorem proceed_executing
    (h : Underway call db.committed (db.pending i) (st :: rest) reply plan done ds)
    (ha : Allows call i db (.executing (st :: rest) reply) .stays) :
    Advances call i db (.executing (st :: rest) reply)
      (proceed call i db (.executing (st :: rest) reply)) := by
  simp only [proceed, Store.view, h.execute]
  cases he : st.execute db.committed
  case error err => exact ⟨hx, trivial, .observe rfl rfl rfl <| h.alone_of_error he⟩
  case ok ds' =>
    refine ⟨hx.write fun d hd => ?_, ?_, .prepare rfl rfl rfl fun _ _ => trivial⟩
    case refine_1 =>
      rcases Call.locked h.planned h.splits h.executed he hd with hk | ⟨d', hd', hk⟩
      case inl => exact ha.free hk
      case inr => exact hk ▸ hx.free_of_mem (h.changed ▸ hd')
    case refine_2 =>
      rw [Store.write_pending_self]
      exact ⟨plan, done ++ [st], ds ++ ds', h.ok he⟩

theorem proceed_committing (h : Underway call db.committed (db.pending i) [] reply plan done ds) :
    Advances call i db (.executing [] reply) (proceed call i db (.executing [] reply)) := by
  cases reply
  case agent => exact ⟨hx.commit, Store.commit_pending_self, .perform rfl rfl h.alone_of_nil rfl⟩
  case previousStatus =>
    refine ⟨hx.commit, ⟨Store.commit_pending_self, ?_⟩, .perform rfl rfl h.alone_of_nil rfl⟩
    exact mem_agents_foldl (Call.mem_agents_of_plan h.planned h.replies)

theorem proceed_gettingAgent (h : db.pending i = [] ∧ call.agentId ∈ db.committed.agents) :
    Advances call i db (.gettingAgent prev) (proceed call i db (.gettingAgent prev)) := by
  obtain ⟨a, ha⟩ := Finmap.mem_iff.mp h.right
  simp only [proceed, Registry.get, ha]
  exact ⟨hx, h.left, .idle rfl rfl rfl⟩

theorem proceed_advances (h : Stage call db.committed (db.pending i) pc)
    (ha : Allows call i db pc .stays) : Advances call i db pc (proceed call i db pc) := by
  cases pc
  case start => exact proceed_start hx h ha
  case executing sts reply =>
    obtain ⟨plan, done, ds, hu⟩ := h
    cases sts
    case cons => exact proceed_executing hx hu ha
    case nil  => exact proceed_committing hx hu
  case gettingAgent => exact proceed_gettingAgent hx h
  case rollingBack  =>
    exact ⟨hx.rollback, Store.rollback_pending_self, .lookBack rfl rfl rfl fun _ => id⟩
  case returned result =>
    cases result <;> exact ⟨hx, h, .idle rfl rfl rfl⟩
  case lost committed =>
    cases committed
    case none => exact ⟨hx, h, .prepare rfl rfl rfl fun _ => id⟩
    case some => exact ⟨hx, h, .idle rfl rfl rfl⟩

end Step

section Step

variable [DecidableEq ι] (call : Call) (i : ι) (db : Database ι)

theorem outcome_of_breakable (h : Breakable pc) : pc.outcome = pc.committed?.map .ok := by
  cases pc
  case returned => exact h.elim
  all_goals rfl

-- Only a rollback returns an error.
theorem outcome_proceed (hb : Breakable pc) (h : Stage call db.committed (db.pending i) pc) :
    (proceed call i db pc).2.outcome = (proceed call i db pc).2.committed?.map .ok := by
  cases pc
  case start =>
    simp only [proceed]
    repeat' split
    all_goals rfl
  case executing sts reply =>
    cases sts
    case nil  => cases reply <;> rfl
    case cons => simp only [proceed]; split <;> rfl
  case gettingAgent =>
    obtain ⟨a, ha⟩ := Finmap.mem_iff.mp h.right
    simp only [proceed, Registry.get, ha]
    rfl
  case rollingBack | returned => exact hb.elim
  case lost => rfl

theorem step_advances (hx : db.Exclusive Change.key)
    (h : Stage call db.committed (db.pending i) pc) (ha : Allows call i db pc connection) :
    Advances call i db pc (step call i db pc connection) := by
  cases connection
  case stays => exact proceed_advances hx h ha
  case lost =>
    have hb : Breakable pc := ha.right.resolve_left nofun
    refine Advances.disconnect ⟨hx, h, ?_⟩ (outcome_of_breakable hb)
    cases ho : pc.outcome
    case none => exact .prepare ho ho rfl fun _ => id
    case some => exact .idle (ho ▸ rfl) rfl rfl
  case replyLost =>
    have hb : Breakable pc := ha.right.resolve_left nofun
    have ha' : Allows call i db pc .stays := ⟨fun _ => ha.left (by decide), .inl rfl⟩
    exact (proceed_advances hx h ha').disconnect (outcome_proceed call i db hb h)

theorem proceed_effect (pc : Pc) :
    db.Effect i apply (∃ reply, pc = .executing [] reply) (proceed call i db pc).1 := by
  cases pc
  case executing sts reply =>
    cases sts
    case nil  => cases reply <;> exact .commit ⟨_, rfl⟩
    case cons => simp only [proceed]; split <;> constructor
  case start =>
    simp only [proceed]
    repeat' split
    all_goals constructor
  all_goals constructor

theorem step_effect (pc : Pc) (connection : Connection) :
    db.Effect i apply (∃ reply, pc = .executing [] reply) (step call i db pc connection).1 := by
  cases connection
  case stays     => exact proceed_effect call i db pc
  case lost      => exact .rollback
  case replyLost => exact (proceed_effect call i db pc).andRollback

-- What `UpdateAgentStatus` returns was in the table after its transaction.
def Pc.Saw (call : Call) (r : Registry) : Pc → Prop
  | .returned (.ok (.updated a _)) => r.agents.lookup call.agentId = some a
  | _                              => True

theorem proceed_saw (hn : ∀ result, pc ≠ .returned result) :
    (proceed call i db pc).2.Saw call (proceed call i db pc).1.committed := by
  cases pc
  case start =>
    simp only [proceed]
    repeat' split
    all_goals trivial
  case executing sts reply =>
    cases sts
    case nil  => cases reply <;> trivial
    case cons => simp only [proceed]; split <;> trivial
  case gettingAgent =>
    simp only [proceed, Registry.get]
    cases hl : db.committed.agents.lookup call.agentId
    case none => trivial
    case some => exact hl
  case returned result => exact absurd rfl (hn result)
  all_goals trivial

theorem step_saw (ha : Allows call i db pc connection) :
    (step call i db pc connection).2.Saw call (step call i db pc connection).1.committed ∨
      pc.outcome.isSome ∧ (step call i db pc connection).2 = pc := by
  cases connection
  case lost | replyLost => exact .inl trivial
  case stays =>
    by_cases hr : ∃ result, pc = .returned result
    case neg => exact .inl <| proceed_saw call i db fun result h => hr ⟨result, h⟩
    case pos =>
      obtain ⟨result, rfl⟩ := hr
      cases result <;> exact .inr ⟨rfl, rfl⟩

end Step

section Run

variable [DecidableEq ι] {calls : ι → Call} {g : Guard ι (Database ι) Pc Connection}
variable {s : State ι (Database ι) Pc} {r : Registry}

def stages (calls : ι → Call) (g : Guard ι (Database ι) Pc Connection) : Outline (system calls) g where
  inv db           := db.Exclusive Change.key
  asn i pc db      := Stage (calls i) db.committed (db.pending i) pc
  keeps hx ha hr _ := by
    rw [State.next_locals_self]
    exact ⟨(step_advances _ _ _ hx ha hr).exclusive, (step_advances _ _ _ hx ha hr).stage⟩
  stable {s i j e} hj hx hi hb _ _ := by
    have he := step_effect (calls i) i s.shared (s.locals i) e
    refine he.preserves (P := fun r pending => Stage (calls j) r pending (s.locals j)) hj hb ?_
    intro ⟨reply, hp⟩
    rw [hp] at hi
    obtain ⟨plan, done, ds, hu⟩ := hi
    exact hb.stable hu.covered fun d hd d' hd' hk => hj (hx.eq hd hd' hk)

theorem stages_opened (r : Registry) : (stages calls g).Holds (opened ι r) where
  inv   := ⟨nofun⟩
  asn _ := rfl

def points (calls : ι → Call) (g : Guard ι (Database ι) Pc Connection) :
    Points (system calls) g (stages calls g) (fun i => (calls i).alone)
      (fun r db => r = db.committed) (· = .start) Pc.outcome where
  evidence i pc _ r := Evidence (calls i) r pc
  seen i pc r       := pc.Saw (calls i) r
  begins h          := by rw [h]; rfl
  initial h _       := by rw [h]; trivial
  stable _ _ h _ _  := h
  point ho h hr _   := by
    rw [State.next_locals_self, h]
    exact (step_advances _ _ _ ho.inv (ho.asn _) hr).point
  sees _ hr _ _     := by
    rw [State.next_locals_self]
    refine (step_saw _ _ _ hr).imp (fun h r hc => hc ▸ h) fun ⟨ho, he⟩ => ⟨ho, fun r h => ?_⟩
    exact he.symm ▸ h

-- A call that loses its connection has an effect only if its transaction has been committed by then.
-- The agent that `UpdateAgentStatus` returns may have been changed by others after its transaction.
theorem run_registry_linearizable (run : Run (system calls) g (opened ι r) s) :
    ∃ order, Linearizes (fun r db => r = db.committed) Pc.outcome (fun i => (calls i).alone) r
      (Precedes (· = .start) Pc.outcome run) s order ∧
    ∀ i a prev, s.locals i = .returned (.ok (.updated a prev)) →
      Sometime (fun i => (calls i).alone) r order {i}
        fun r' => r'.agents.lookup (calls i).agentId = some a := by
  obtain ⟨order, hl, hs⟩ := (points calls g).linearizes_seen (stages_opened r) (fun _ => rfl) rfl run
  refine ⟨order, hl, fun i a prev hi => ?_⟩
  have hi' := hs i (by rw [hi]; rfl)
  rw [Points.Seen, hi] at hi'
  exact hi'

-- Agents are created in the first state of their lifecycle.
def Call.Registers : Call → Prop
  | register a _ => a.status = .pending
  | _            => True

-- The service registers agents in no other way.
theorem registerWithAdmission_registers (r : Registry) (agentType ownerId externalId : String)
    (metadata : OrderedMap String String) (admission : Option AdmissionSnapshot)
    (env : RegisterEnv) (hc : env.committed) :
    (∃ message, r.registerWithAdmission agentType ownerId externalId metadata admission env =
      (.error <| .invalidArgument message, r)) ∨
    ∃ a, (Call.register a (admission.map env.envelope)).Registers ∧
      (Call.register a (admission.map env.envelope)).alone r =
        (r.registerWithAdmission agentType ownerId externalId metadata admission env).map
          (·.map .agent) id := by
  refine (r.registerWithAdmission_cases agentType ownerId externalId metadata admission env).imp_right
    fun ⟨a, ha, he⟩ => ⟨a, ha, ?_⟩
  rw [he, hc]
  rfl

theorem Call.alone_records {call : Call} (h : call.Registers) (r : Registry) :
    (call.alone r).2 = r ∨ ∃ c, r.Records c (call.alone r).2 := by
  cases call
  case register a envelope =>
    have he := (Prod.eta (r.registerAgentWithOutbox a envelope true)).symm
    exact Registry.registerAgentWithOutbox_records h he |>.imp_right (⟨_, ·⟩)
  case updateAgentStatus agentId newStatus reason changedBy now =>
    exact Registry.commit_records r (.updateAgentStatus agentId newStatus reason changedBy { now })

-- The rows are in the order of the commits. Their timestamps, which are those of the first statements, are
-- left out.
theorem run_registry_history (hr : ∀ i, (calls i).Registers)
    (run : Run (system calls) g (opened ι {}) s) : s.shared.committed.Consistent := by
  obtain ⟨order, hl⟩ := (points calls g).linearizes (stages_opened {}) (fun _ => rfl) rfl run
  rw [← hl.final]
  refine after_preserves (fun i r hc => ?_) .empty
  obtain h | ⟨c, h⟩ := Call.alone_records (hr i) r
  case inl => rwa [h]
  case inr => exact hc.records h

end Run

namespace Sample

def agent : Agent where
  agentId        := "agent-1"
  agentType      := .system
  ownerId        := "owner-1"
  externalId     := "external-1"
  status         := .pending
  metadata       := {}
  registrationTs := 1
  updatedTs      := 1
  admissionTs    := 1

def activation : Bool → Call
  | false => .register agent none
  | true  => .updateAgentStatus agent.agentId "ACTIVE" "review" "ops" 2

-- The reply to the first `COMMIT` is lost.
def activating : List (Bool × Connection) :=
  List.replicate 4 (false, .stays) ++ (false, .replyLost) :: List.replicate 6 (true, .stays)

def activated : State Bool (Database Bool) Pc :=
  Transition.exec (system activation).interleaved (opened Bool {}) activating

theorem activated_history :
    activated.shared.committed.statusHistory.length = 2 ∧ activated.shared.committed.Consistent := by
  have ha : Transition.Admissible (system activation).interleaved .any (opened Bool {}) activating := by
    decide +kernel
  refine ⟨by decide +kernel, run_registry_history (fun i => ?_) (.ofSchedule activating ha)⟩
  cases i
  case false => rfl
  case true  => trivial

end Sample

section Progress

theorem Stage.level_lt {db : Database ι} (h : Stage call db.committed (db.pending i) pc)
    (hk : k ∈ wants call db pc) (hd : d ∈ db.pending i) : d.key.level < k.level := by
  cases pc
  case start => rw [h] at hd; cases hd
  case executing sts reply =>
    obtain ⟨plan, done, ds, hu⟩ := h
    cases sts
    case nil  => cases hk
    case cons => exact Call.level_lt hu.planned hu.splits hu.executed hk (hu.changed ▸ hd)
  all_goals cases hk

-- An upper bound for the number of steps that are left.
def Pc.rank : Pc → Nat
  | .start                              => 6
  | .executing rest (.agent _)          => rest.length + 1
  | .executing rest (.previousStatus _) => rest.length + 2
  | .gettingAgent _ | .rollingBack _    => 1
  | _                                   => 0

theorem rank_registration (a : Agent) (envelope : Option AdmissionEnvelope) :
    (Pc.executing (Call.registration a envelope) (.agent a)).rank ≤ 5 := by
  cases envelope <;> simp [Call.registration, Pc.rank]

theorem rank_update (previousStatus : AgentStatus) :
    (Pc.executing (Call.update agentId newStatus reason changedBy now prev)
      (.previousStatus previousStatus)).rank ≤ 5 := by
  unfold Call.update
  split
  case isTrue  => simp [Pc.rank]
  case isFalse => split <;> simp [Pc.rank]

section Step

variable [DecidableEq ι] (call : Call) (i : ι) (db : Database ι)

theorem rank_proceed (pc : Pc) : (proceed call i db pc).2.rank ≤ pc.rank - 1 := by
  cases pc
  case start =>
    cases call
    case register => exact rank_registration ..
    case updateAgentStatus =>
      simp only [proceed]
      split
      case h_1 => simp [Pc.rank]
      case h_2 =>
        split
        case isTrue  => simp [Pc.rank]
        case isFalse => exact rank_update _
  case executing sts reply =>
    cases sts
    case nil  => cases reply <;> simp [proceed, Pc.rank]
    case cons => cases reply <;> simp only [proceed] <;> split <;> simp [Pc.rank]
  all_goals simp [proceed, Pc.rank]

theorem rank_step (pc : Pc) (connection : Connection) :
    (step call i db pc connection).2.rank ≤ pc.rank - 1 := by
  cases connection
  case stays => exact rank_proceed call i db pc
  case lost | replyLost => exact Nat.zero_le _

end Step

variable [DecidableEq ι] {calls : ι → Call} {g : Guard ι (Database ι) Pc Connection}
variable {s : State ι (Database ι) Pc} {r : Registry}

def Pc.Ended : Pc → Prop
  | .returned _ | .lost _ => True
  | _                     => False

-- No deadlock is possible, and a call that gets its turns returns, unless it loses its connection.
theorem run_registry_progress (run : Run (system calls) g (opened ι r) s) :
    (∀ i, ¬(s.locals i).Ended →
      ∃ j, ¬(s.locals j).Ended ∧ (system calls).allows j .stays s.shared (s.locals j)) ∧
    ∀ i, 6 ≤ run.turns i → (s.locals i).Ended := by
  have ho : (stages calls g).Holds s := (stages_opened r).run run
  refine ⟨fun i hi => ?_, fun i ht => ?_⟩
  case refine_1 =>
    obtain ⟨j, hj, hf⟩ := Store.exists_free (w := fun i => wants (calls i) s.shared (s.locals i))
      Key.level_le (fun i k hk d hd => (ho.asn i).level_lt hk hd) i
    refine ⟨j, ?_, fun _ => hf, .inl rfl⟩
    rcases hj with rfl | hp
    case inl => exact hi
    case inr =>
      intro he
      have ha := ho.asn j
      cases hl : s.locals j
      all_goals rw [hl] at he ha
      case returned | lost => exact hp ha
      all_goals exact he
  case refine_2 =>
    have hr := run.rank_le Pc.rank (rank_step ..) i
    have hs : ((opened ι r).locals i).rank = 6 := rfl
    have hz : (s.locals i).rank = 0 := by omega
    cases hl : s.locals i
    case returned | lost => trivial
    all_goals rw [hl] at hz
    case executing reply => cases reply <;> cases hz
    all_goals cases hz

end Progress

end AgentRegistry.Transactions
