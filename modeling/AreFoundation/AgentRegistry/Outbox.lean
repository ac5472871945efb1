import AreFoundation.AgentRegistry.Service
import AreFoundation.Library.Transition

namespace AgentRegistry

open Calendar

inductive OutboxStatus
  | pending
  | delivered
  | failed
  deriving DecidableEq

structure OutboxRow extends OutboxEvent where
  payload       : String
  status        : OutboxStatus := .pending
  createdTs     : Instant
  lastAttemptTs : Option Instant := none
  attemptCount  : Nat := 0
  deriving DecidableEq

-- The table `agent_lifecycle_outbox` with its primary key.
abbrev OutboxTable := HashMap String OutboxRow

-- What a processor reads of a row.
structure PendingRow where
  outboxId : String
  agentId  : String
  payload  : String
  attempts : Nat
  deriving DecidableEq

namespace OutboxTable

variable (t : OutboxTable)

def status? (outboxId : String) : Option OutboxStatus :=
  t.lookup outboxId |>.map (·.status)

def pending? (outboxId : String) : Option PendingRow :=
  t.lookup outboxId |>.bind fun row =>
    if row.status = .pending then
      some ⟨outboxId, row.agentId, row.payload, row.attemptCount⟩
    else
      none

def CreatedBy (outboxId outboxId' : String) : Prop :=
  ∀ row ∈ t.lookup outboxId, ∀ row' ∈ t.lookup outboxId', row.createdTs ≤ row'.createdTs

instance : DecidableRel t.CreatedBy :=
  fun _ _ => inferInstanceAs <| Decidable (∀ row ∈ _, ∀ row' ∈ _, _)

-- The results of the query for pending rows, where rows that were created together may come in any
-- order.
def Selects (ids : List String) : Prop :=
  ids.Nodup ∧ ids.length ≤ 100 ∧ (∀ id ∈ ids, (t.pending? id).isSome) ∧ ids.Pairwise t.CreatedBy ∧
    ∀ id ∈ t.keys, id ∉ ids → (t.pending? id).isSome →
      ids.length = 100 ∧ ∀ id' ∈ ids, t.CreatedBy id' id

instance : DecidablePred t.Selects :=
  fun _ => inferInstanceAs <| Decidable (_ ∧ _ ∧ _ ∧ _ ∧ _)

end OutboxTable

namespace Processor

inductive Pc
  | idle
  | emitting (rows : List PendingRow)
  | updating (row : PendingRow) (ok : Bool) (rows : List PendingRow)

def Pc.hand : Pc → List PendingRow
  | idle                => []
  | emitting rows       => rows
  | updating row _ rows => row :: rows

-- The steps of `processBatch`. A query that fails has no effect. A batch may be left early, since
-- reading its rows can fail.
inductive Action
  | select (ids : List String)
  | stop
  | emit (ok : Bool)
  | update (applied : Bool) (now : Instant)

def Action.Allowed (t : OutboxTable) : Action → Pc → Prop
  | select ids, .idle              => t.Selects ids
  | stop,       .emitting _        => True
  | emit _,     .emitting (_ :: _) => True
  | update _ _, .updating _ _ _    => True
  | _,          _                  => False

instance : (a : Action) → (pc : Pc) → Decidable (a.Allowed t pc)
  | .select _,   .idle              => inferInstanceAs <| Decidable (OutboxTable.Selects ..)
  | .stop,       .emitting _        => .isTrue trivial
  | .emit _,     .emitting (_ :: _) => .isTrue trivial
  | .update _ _, .updating _ _ _    => .isTrue trivial
  | .select _,   .emitting _        => .isFalse id
  | .select _,   .updating _ _ _    => .isFalse id
  | .stop,       .idle              => .isFalse id
  | .stop,       .updating _ _ _    => .isFalse id
  | .emit _,     .idle              => .isFalse id
  | .emit _,     .emitting []       => .isFalse id
  | .emit _,     .updating _ _ _    => .isFalse id
  | .update _ _, .idle              => .isFalse id
  | .update _ _, .emitting _        => .isFalse id

-- The row after an attempt. After a failure the number of attempts is computed from what was read, not
-- from what is stored.
def attempted (maxAttempts : Int) (row : PendingRow) (ok : Bool) (now : Instant) (r : OutboxRow) :
    OutboxRow :=
  if ok then
    { r with
      status        := .delivered
      lastAttemptTs := some now
      attemptCount  := r.attemptCount + 1 }
  else
    { r with
      status        := if (row.attempts + 1 : Nat) ≥ maxAttempts then .failed else .pending
      lastAttemptTs := some now
      attemptCount  := row.attempts + 1 }

def recordAttempt (maxAttempts : Int) (row : PendingRow) (ok : Bool) (now : Instant) :
    OutboxTable → OutboxTable :=
  HashMap.modify row.outboxId (attempted maxAttempts row ok now)

-- Errors of the update are ignored.
def step (maxAttempts : Int) (t : OutboxTable) : Action → Pc → OutboxTable × Pc
  | .select ids,         .idle                 => (t, .emitting <| ids.filterMap t.pending?)
  | .stop,               .emitting _           => (t, .idle)
  | .emit ok,            .emitting (row :: tl) => (t, .updating row ok tl)
  | .update applied now, .updating row ok rows =>
    (bif applied then recordAttempt maxAttempts row ok now t else t, .emitting rows)
  | _,                   pc                    => (t, pc)

structure State (ι : Type*) where
  table : OutboxTable
  pcs   : ι → Pc

-- Transactions of the registry insert rows meanwhile.
inductive Event (ι : Type*)
  | insert (outboxId : String) (event : OutboxEvent) (payload : String) (createdTs : Instant)
  | act (i : ι) (action : Action)

variable [DecidableEq ι]

def processors (maxAttempts : ι → Int) : Transition.System (State ι) (Event ι) where
  allows s
    | .insert outboxId _ _ _ => outboxId ∉ s.table
    | .act i action          => action.Allowed s.table (s.pcs i)
  step s
    | .insert outboxId event payload createdTs =>
      { s with table := s.table.insert outboxId ⟨event, payload, .pending, createdTs, none, 0⟩ }
    | .act i action =>
      { table := (step (maxAttempts i) s.table action (s.pcs i)).1
        pcs   := Function.update s.pcs i (step (maxAttempts i) s.table action (s.pcs i)).2 }

instance {maxAttempts : ι → Int} {s : State ι} :
    (e : Event ι) → Decidable ((processors maxAttempts).allows s e)
  | .insert .. => inferInstanceAs <| Decidable (_ ∉ _)
  | .act ..    => inferInstanceAs <| Decidable (Action.Allowed ..)

section Steps

variable {maxAttempts : ι → Int} {s : State ι} {action : Action} {i j : ι}

@[simp]
theorem act_table : ((processors maxAttempts).step s (.act i action)).table =
    (step (maxAttempts i) s.table action (s.pcs i)).1 :=
  rfl

@[simp]
theorem act_pcs_self : ((processors maxAttempts).step s (.act i action)).pcs i =
    (step (maxAttempts i) s.table action (s.pcs i)).2 := by
  simp [processors]

theorem act_pcs_of_ne (h : j ≠ i) :
    ((processors maxAttempts).step s (.act i action)).pcs j = s.pcs j := by
  simp [processors, h]

end Steps

end Processor

end AgentRegistry
