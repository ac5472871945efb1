import AreFoundation.Library.ReadCommitted
import AreFoundation.AgentRegistry.Lifecycle

-- `RegisterAgentWithOutbox` and `UpdateAgentStatus`, where several transactions are open at the same
-- time.
namespace AgentRegistry.Transactions

open Calendar ReadCommitted

-- The unique indexes of which a value can be in use.
inductive Key
  | agent (agentId : String)
  | external (externalId ownerId : String)
  | envelope (envelopeId : String)
  deriving DecidableEq

-- A row of an agent stays locked when it has been changed or selected `FOR UPDATE`. Rows of the history
-- and of the outbox belong to an agent whose row is locked by the same transaction.
inductive Change
  | hold (key : Key)
  | insertAgent (a : Agent)
  | updateAgent (agentId : String) (status : AgentStatus) (updatedTs : Instant)
  | insertEnvelope (agentId : String) (env : AdmissionEnvelope)
  | insertHistory (row : StatusChange)
  | insertOutbox (event : OutboxEvent)

def Change.key : Change → Key
  | hold key                => key
  | insertAgent a           => .agent a.agentId
  | updateAgent agentId _ _ => .agent agentId
  | insertEnvelope _ env    => .envelope env.envelopeId
  | insertHistory row       => .agent row.agentId
  | insertOutbox event      => .agent event.agentId

def apply (r : Registry) : Change → Registry
  | .hold _                               => r
  | .insertAgent a                        => { r with agents := r.agents.insert a.agentId a }
  | .updateAgent agentId status updatedTs =>
    { r with agents := HashMap.modify agentId ({ · with status, updatedTs }) r.agents }
  | .insertEnvelope agentId env           =>
    { r with admissionEnvelopes := r.admissionEnvelopes.insert agentId env }
  | .insertHistory row                    => { r with statusHistory := r.statusHistory ++ [row] }
  | .insertOutbox event                   => { r with outbox := r.outbox ++ [event] }

inductive Statement
  | insertAgent (a : Agent)
  | insertEnvelope (agentId : String) (env : AdmissionEnvelope)
  | updateAgent (agentId : String) (status : AgentStatus) (updatedTs : Instant)
  | violateStatusCheck -- `agents_status_check`
  | insertHistory (row : StatusChange)
  | insertOutbox (event : OutboxEvent)

-- The second unique index on `agents`, which does not contain rows without an external id.
def externalKey (a : Agent) : List Key :=
  if a.externalId = "" then [] else [.external a.externalId a.ownerId]

namespace Statement

-- What is changed, or how the statement fails.
def execute (r : Registry) : Statement → Except RegistryError (List Change)
  | insertAgent a =>
    if a.agentId ∈ r.agents ∨ (a.externalId ≠ "" ∧
        r.agents.any fun _ b => b.externalId = a.externalId && b.ownerId = a.ownerId) then
      .error <| .alreadyExists "external_id + owner_id already registered"
    else
      .ok (.insertAgent a :: (externalKey a).map .hold)
  | insertEnvelope agentId env =>
    if r.admissionEnvelopes.any fun _ env' => env'.envelopeId = env.envelopeId then
      .error .other
    else
      .ok [.insertEnvelope agentId env]
  | updateAgent agentId status updatedTs => .ok [.updateAgent agentId status updatedTs]
  | violateStatusCheck                   => .error .other
  | insertHistory row                    => .ok [.insertHistory row]
  | insertOutbox event                   => .ok [.insertOutbox event]

-- The other statements are about a row that is already locked.
def wants : Statement → List Key
  | insertAgent a        => .agent a.agentId :: externalKey a
  | insertEnvelope _ env => [.envelope env.envelopeId]
  | _                    => []

end Statement

inductive Call
  | register (a : Agent) (envelope : Option AdmissionEnvelope)
  | updateAgentStatus (agentId newStatus reason changedBy : String) (now : Instant)

-- What is known when the transaction ends.
inductive Reply
  | agent (a : Agent)
  | previousStatus (status : AgentStatus)

-- What is returned. `UpdateAgentStatus` reads the agent after its transaction.
inductive Result
  | registered (a : Agent)
  | updated (a : Agent) (previousStatus : AgentStatus)

def Result.reply : Result → Reply
  | registered a             => .agent a
  | updated _ previousStatus => .previousStatus previousStatus

namespace Call

def agentId : Call → String
  | register a _                      => a.agentId
  | updateAgentStatus agentId _ _ _ _ => agentId

def registration (a : Agent) (envelope : Option AdmissionEnvelope) : List Statement :=
  .insertAgent a :: (envelope.map (.insertEnvelope a.agentId)).toList ++
    [.insertHistory ⟨a.agentId, none, a.status, "initial registration", "system"⟩,
      .insertOutbox ⟨a.agentId, .agentRegistered⟩]

-- After the row of the agent has been locked.
def update (agentId newStatus reason changedBy : String) (now : Instant) (prev : AgentStatus) :
    List Statement :=
  if prev.toRaw = newStatus then
    []
  else match AgentStatus.ofRaw? newStatus with
    | none        => [.violateStatusCheck]
    | some status =>
      [.updateAgent agentId status now,
        .insertHistory ⟨agentId, some prev, status, reason, changedBy⟩,
        .insertOutbox
          ⟨agentId, if status = .deregistered then .agentDeregistered else .agentStatusChanged⟩]

end Call

-- The points before each statement. A call that has lost its connection does not know what has been
-- committed.
inductive Pc
  | start
  | executing (statements : List Statement) (reply : Reply)
  | gettingAgent (previousStatus : AgentStatus)
  | rollingBack (err : RegistryError)
  | returned (result : Except RegistryError Result)
  | lost (committed : Option Reply)

def Pc.committed? : Pc → Option Reply
  | gettingAgent previousStatus => some <| .previousStatus previousStatus
  | returned (.ok result)       => some result.reply
  | lost committed              => committed
  | _                           => none

-- What becomes of the connection when a statement is sent.
inductive Connection
  | stays
  | lost      -- The statement is not executed.
  | replyLost -- The statement is executed.
  deriving DecidableEq

abbrev Database (ι : Type*) := Store ι Registry Change

section Step

variable [DecidableEq ι] (call : Call) (i : ι) (db : Database ι)

def proceed : Pc → Database ι × Pc
  | .start =>
    match call with
    | .register a envelope => (db, .executing (Call.registration a envelope) (.agent a))
    | .updateAgentStatus agentId newStatus reason changedBy now =>
      -- `SELECT status FROM agents WHERE agent_id=$1 FOR UPDATE`
      match (db.view apply i).agents.lookup agentId with
      | none   => (db, .rollingBack <| .notFound ("agent_id " ++ agentId))
      | some a =>
        if !canTransition a.status newStatus then
          (db.write i [.hold <| .agent agentId],
            .rollingBack <| .failedPrecondition
              ("invalid transition from " ++ a.status.toRaw ++ " to " ++ newStatus))
        else
          (db.write i [.hold <| .agent agentId],
            .executing (Call.update agentId newStatus reason changedBy now a.status)
              (.previousStatus a.status))
  | .executing (st :: rest) reply =>
    match st.execute (db.view apply i) with
    | .error err  => (db, .rollingBack err)
    | .ok changes => (db.write i changes, .executing rest reply)
  | .executing [] (.agent a) =>
    (db.commit i apply, .returned <| .ok <| .registered a)
  | .executing [] (.previousStatus previousStatus) =>
    (db.commit i apply, .gettingAgent previousStatus)
  | .gettingAgent previousStatus =>
    (db, .returned <| (db.committed.get call.agentId true).map (.updated · previousStatus))
  | .rollingBack err => (db.rollback i, .returned <| .error err)
  | .returned result => (db, .returned result)
  | .lost committed  => (db, .lost committed)

-- The database rolls back what has not been committed when the connection is lost.
def disconnect (next : Database ι × Pc) : Database ι × Pc :=
  (next.1.rollback i, .lost next.2.committed?)

def step (pc : Pc) : Connection → Database ι × Pc
  | .stays     => proceed call i db pc
  | .lost      => disconnect i (db, pc)
  | .replyLost => disconnect i (proceed call i db pc)

-- The keys that the next statement waits for. A row that is not visible is not waited for.
def wants : Pc → List Key
  | .start =>
    match call with
    | .register _ _                      => []
    | .updateAgentStatus agentId _ _ _ _ =>
      if agentId ∈ db.committed.agents then [.agent agentId] else []
  | .executing (st :: _) _ => st.wants
  | _                      => []

-- The deferred rollback does the same without a connection, and its error is ignored.
def Breakable : Pc → Prop
  | .rollingBack _ | .returned _ => False
  | _                            => True

instance : DecidablePred Breakable := fun pc => by
  unfold Breakable
  split <;> infer_instance

-- A connection can also be lost while a statement waits.
def Allows (pc : Pc) (connection : Connection) : Prop :=
  (connection ≠ .lost → ∀ k ∈ wants call db pc, db.Free Change.key i k) ∧
    (connection = .stays ∨ Breakable pc)

instance [Fintype ι] (pc : Pc) (connection : Connection) :
    Decidable (Allows call i db pc connection) :=
  inferInstanceAs <| Decidable (_ ∧ _)

end Step

def system [DecidableEq ι] (calls : ι → Call) :
    Interleaving.System ι (Database ι) Pc Connection where
  allows i connection db pc := Allows (calls i) i db pc connection
  step i connection db pc   := step (calls i) i db pc connection

instance [DecidableEq ι] [Fintype ι] (calls : ι → Call) (i : ι) (connection : Connection)
    (db : Database ι) (pc : Pc) : Decidable ((system calls).allows i connection db pc) :=
  inferInstanceAs <| Decidable (Allows (calls i) i db pc connection)

def opened (ι : Type*) (r : Registry) : Interleaving.State ι (Database ι) Pc where
  shared   := ⟨r, fun _ => []⟩
  locals _ := .start

end AgentRegistry.Transactions
