import AreFoundation.Library.Interleaving
import AreFoundation.Library.ReadCommitted
import AreFoundation.Ledger.Storage

-- `write_entry_with_outbox` where the transactions of several connections are open at the same time.
-- Statements fail because of what is stored, but not because a connection is lost.
namespace Ledger.Transactions

open ReadCommitted

-- A value of a unique index, or the key of an advisory lock.
inductive Key
  | advisory (n : Nat)
  | entryId (id : Uuid)
  | typePosition (entryType : String) (chainPosition : Int)
  | typeIdempotencyKey (entryType idempotencyKey : String)
  | outboxId (id : Uuid)
  deriving DecidableEq

-- What belongs to a transaction until it ends. The first index on a table comes with the row, and the
-- further ones are held separately, as the advisory lock is.
inductive Change
  | hold (key : Key)
  | insertEntry (entry : LedgerEntryRecord)
  | insertOutbox (record : OutboxRecord)

def Change.key : Change → Key
  | hold key            => key
  | insertEntry entry   => .entryId entry.entryId
  | insertOutbox record => .outboxId record.outboxId

end Ledger.Transactions

def Ledger.Tables.apply (t : Tables) : Transactions.Change → Tables
  | .hold _              => t
  | .insertEntry entry   => { t with ledgerEntries := t.ledgerEntries ++ [entry] }
  | .insertOutbox record => { t with ledgerWriteOutbox := t.ledgerWriteOutbox ++ [record] }

namespace Ledger.Transactions

-- An input with the identifiers that are generated for it.
structure Call where
  input : EntryWriteInput
  ids   : NewIds

inductive Pc
  | start
  | locking
  | selecting
  | insertingEntry (position : Int)
  | insertingOutbox (position : Int)
  | committing (position : Int)
  | rollingBack (err : RepositoryError)
  | returned (result : Except RepositoryError WriteResult)
  deriving DecidableEq

namespace Call

variable (call : Call)

def outboxRow (row : EntryWriteInput) (payload : String) : OutboxRecord :=
  EntryWriteInput.toOutbox { row with outboxPayload := payload } call.ids

-- The values of the unique indexes on `ledger_entries`.
def indexed (entry : LedgerEntryRecord) : List Key :=
  .typePosition entry.entryType entry.chainPosition ::
    (entry.idempotencyKey.map (.typeIdempotencyKey entry.entryType)).toList

def insertEntry (entry : LedgerEntryRecord) : List Change :=
  .insertEntry entry :: (indexed entry).map .hold

variable [Database]

-- `abs(hashtext($1::text))::bigint`
def lockKey : Key :=
  .advisory (Database.hashtext call.input.entryType).toInt.natAbs

-- The text cannot be sent, or the absolute value of its hash is out of range.
def Refused : Prop :=
  Sql.text call.input.entryType = none ∨ Database.hashtext call.input.entryType = BitVec.intMin 32

instance : Decidable call.Refused :=
  inferInstanceAs <| Decidable (_ ∨ _)

-- What the next statement waits for, unless it fails before.
def wants : Pc → List Key
  | .locking                 => if call.Refused then [] else [call.lockKey]
  | .insertingEntry position =>
    match call.input.stored with
    | none     => []
    | some row => (insertEntry <| row.toEntry call.ids position).map Change.key
  | .insertingOutbox _       =>
    match Database.jsonb call.input.outboxPayload with
    | none   => []
    | some _ => [.outboxId call.ids.outboxId]
  | _                        => []

end Call

abbrev Connections (ι : Type*) := ReadCommitted.Store ι Tables Change

section Step

variable [Database] [DecidableEq ι] (call : Call) (i : ι) (db : Connections ι)

def step : Pc → Connections ι × Pc
  | .start =>
    if Database.isJson call.input.outboxPayload then
      (db, .locking)
    else
      (db, .returned <| .error .unavailable)
  | .locking =>
    if call.Refused then
      (db.rollback i, .returned <| .error .unavailable)
    else
      (db.write i [.hold call.lockKey], .selecting)
  | .selecting =>
    match (db.view Tables.apply i).checkTip call.input with
    | .error err   => (db, .rollingBack err)
    | .ok position => (db, .insertingEntry position)
  | .insertingEntry position =>
    match call.input.stored with
    | none     => (db, .rollingBack .unavailable)
    | some row =>
      let entry := row.toEntry call.ids position
      if (db.view Tables.apply i).Insertable entry then
        (db.write i (Call.insertEntry entry), .insertingOutbox position)
      else
        (db, .rollingBack .chainIntegrityViolation)
  | .insertingOutbox position =>
    match call.input.stored, Database.jsonb call.input.outboxPayload with
    | some row, some payload =>
      if (db.view Tables.apply i).AdmitsOutbox (call.outboxRow row payload) then
        (db.write i [.insertOutbox <| call.outboxRow row payload], .committing position)
      else
        (db, .rollingBack .unavailable)
    | _,        _            => (db, .rollingBack .unavailable)
  | .committing position =>
    -- The records are built from the input, not from the rows.
    (db.commit i Tables.apply,
      .returned <| .ok ⟨call.input.toEntry call.ids position, call.input.toOutbox call.ids⟩)
  | .rollingBack err => (db.rollback i, .returned <| .error err)
  | .returned result => (db, .returned result)

-- A statement waits for the other transactions that hold its keys.
def Ready (pc : Pc) : Prop :=
  ∀ k ∈ call.wants pc, db.Free Change.key i k

instance [Fintype ι] (pc : Pc) : Decidable (Ready call i db pc) :=
  inferInstanceAs <| Decidable (∀ k ∈ call.wants pc, db.Free Change.key i k)

end Step

def system [Database] [DecidableEq ι] (calls : ι → Call) :
    Interleaving.System ι (Connections ι) Pc Unit where
  allows i _ db pc := Ready (calls i) i db pc
  step i _ db pc   := step (calls i) i db pc

instance [Database] [DecidableEq ι] [Fintype ι] (calls : ι → Call) (i : ι) (e : Unit)
    (db : Connections ι) (pc : Pc) : Decidable ((system calls).allows i e db pc) :=
  inferInstanceAs <| Decidable (Ready (calls i) i db pc)

-- No call has begun its transaction.
def opened (ι : Type*) (t : Tables) : Interleaving.State ι (Connections ι) Pc where
  shared   := ⟨t, fun _ => []⟩
  locals _ := .start

end Ledger.Transactions
