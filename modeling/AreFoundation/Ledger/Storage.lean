import AreFoundation.Ledger.Postgres

namespace Ledger

-- The hash function of the database, the parser of payloads, and what is read back from a `JSONB`
-- column after a payload has been stored in it.
class Database where
  hashtext : String → BitVec 32
  isJson   : String → Bool
  jsonb    : String → Option String

-- A hash that stands for `hashtext` in samples.
def Database.polynomial (s : String) : BitVec 32 :=
  s.toList.foldl (fun hash c => 31 * hash + BitVec.ofNat 32 c.toNat) 0

namespace Sql

-- Texts cannot contain the NUL character.
def text (s : String) : Option String :=
  if '\x00' ∈ s.toList then none else some s

-- Only blanks are cut off.
def varchar (n : Nat) (s : String) : Option String := do
  let s ← text s
  if s.length ≤ n then
    some s
  else if (s.toList.drop n).all (· = ' ') then
    some <| String.ofList (s.toList.take n)
  else
    none

-- The first day of the year 2000.
def epoch : DateTime := 946684800000000000

-- The driver sends microseconds since the epoch, within the range of the type.
def timestamptz (t : DateTime) : Option DateTime :=
  let micros := Int.tdiv (t - epoch) 1000
  if -211813488000000000 ≤ micros ∧ micros < 9223371331200000000 then
    some (epoch + micros * 1000)
  else
    none

end Sql

namespace EntryWriteInput

variable (input : EntryWriteInput)

-- What the columns of `ledger_entries` make of an input.
def stored : Option EntryWriteInput := do
  let entryType      ← Sql.varchar 50 input.entryType
  let agentId        ← Sql.varchar 100 input.agentId
  let contentType    ← Sql.varchar 100 input.contentType
  let sourceId       ← Sql.varchar 100 input.sourceId
  let correlationId  ← input.correlationId.mapM (Sql.varchar 255)
  let idempotencyKey ← input.idempotencyKey.mapM (Sql.varchar 255)
  let entryHash      ← Sql.varchar 64 input.entryHash
  let previousHash   ← Sql.varchar 64 input.previousHash
  let writtenTs      ← Sql.timestamptz input.writtenTs
  return { input with
    entryType, agentId, contentType, sourceId, correlationId, idempotencyKey, entryHash,
    previousHash, writtenTs }

-- The texts with the widths of their columns.
def texts : List (Nat × String) :=
  [(50, input.entryType), (100, input.agentId), (100, input.contentType), (100, input.sourceId),
    (64, input.entryHash), (64, input.previousHash)] ++
  (input.correlationId.toList ++ input.idempotencyKey.toList).map (255, ·)

def FitsColumns : Prop :=
  ∀ column ∈ input.texts, column.2.length ≤ column.1

instance : Decidable input.FitsColumns :=
  inferInstanceAs <| Decidable (∀ column ∈ input.texts, column.2.length ≤ column.1)

-- The database accepts every value of the input and returns it unchanged.
structure Representable [Database] : Prop where
  lockKey   : Database.hashtext input.entryType ≠ BitVec.intMin 32
  isJson    : Database.isJson input.outboxPayload
  payload   : Database.jsonb input.outboxPayload = some input.outboxPayload
  texts     : ∀ column ∈ input.texts, Sql.text column.2 = some column.2
  writtenTs : Sql.timestamptz input.writtenTs = some input.writtenTs

instance [Database] : Decidable input.Representable :=
  decidable_of_iff
    (Database.hashtext input.entryType ≠ BitVec.intMin 32 ∧
      Database.isJson input.outboxPayload ∧
      Database.jsonb input.outboxPayload = some input.outboxPayload ∧
      (∀ column ∈ input.texts, Sql.text column.2 = some column.2) ∧
      Sql.timestamptz input.writtenTs = some input.writtenTs)
    ⟨fun ⟨h₁, h₂, h₃, h₄, h₅⟩ => ⟨h₁, h₂, h₃, h₄, h₅⟩,
      fun ⟨h₁, h₂, h₃, h₄, h₅⟩ => ⟨h₁, h₂, h₃, h₄, h₅⟩⟩

end EntryWriteInput

-- `SET status = 'DELIVERED' WHERE outbox_id = $1 AND status = 'PENDING'`
def OutboxRecord.markDelivered (outboxId : Uuid) (record : OutboxRecord) : OutboxRecord :=
  if record.outboxId = outboxId ∧ record.status = .pending then
    { record with status := .delivered }
  else
    record

theorem OutboxRecord.markDelivered_outboxId {id : Uuid} {record : OutboxRecord} :
    (record.markDelivered id).outboxId = record.outboxId := by
  unfold markDelivered
  split <;> rfl

namespace PostgresLedgerRepository

variable (repo : PostgresLedgerRepository)

-- Listed in the order of insertion, which stands for `created_ts`.
def pendingOutbox : List OutboxRecord :=
  repo.ledgerWriteOutbox.filter (·.status = .pending)

def markOutboxDelivered (outboxId : Uuid) :
    Except RepositoryError Unit × PostgresLedgerRepository :=
  if ∃ record ∈ repo.ledgerWriteOutbox, record.outboxId = outboxId ∧ record.status = .pending then
    (.ok (),
      { repo with
        ledgerWriteOutbox := repo.ledgerWriteOutbox.map (·.markDelivered outboxId)
        outboxPrimaryKey  := repo.outboxPrimaryKey.map fun _ =>
          congrArg some OutboxRecord.markDelivered_outboxId })
  else
    (.error .notFound, repo)

end PostgresLedgerRepository

-- The operations as the driver performs them. They fail if the database refuses one of their values.
-- Failures of the connection are not modelled.
namespace PostgresClient

def writeEntryWithOutbox [Database] (repo : PostgresLedgerRepository) (input : EntryWriteInput)
    (ids : NewIds) : Except RepositoryError WriteResult × PostgresLedgerRepository :=
  if ¬Database.isJson input.outboxPayload then
    (.error .unavailable, repo)
  else if Sql.text input.entryType = none ∨
      -- The absolute value of the lock's key is out of range.
      Database.hashtext input.entryType = BitVec.intMin 32 then
    (.error .unavailable, repo)
  else
    match repo.checkTip input, input.stored, Database.jsonb input.outboxPayload with
    | .error err,   _,        _            => (.error err, repo)
    | .ok _,        none,     _            => (.error .unavailable, repo)
    | .ok position, some row, none         =>
      -- The first insert can still fail, the second one does.
      if repo.Insertable (row.toEntry ids position) then
        (.error .unavailable, repo)
      else
        (.error .chainIntegrityViolation, repo)
    | .ok position, some row, some payload =>
      let (result, repo) := repo.insertEntry (row.toEntry ids position)
        (EntryWriteInput.toOutbox { row with outboxPayload := payload } ids)
      -- The records are built from the input, not from the rows.
      (result.map fun _ => ⟨input.toEntry ids position, input.toOutbox ids⟩, repo)

variable (t : Tables)

def getChainTip (entryType : String) : Except RepositoryError ChainTip :=
  match Sql.text entryType with
  | none           => .error .unavailable
  | some entryType => t.getChainTip entryType

def getEntriesByType (entryType : String) : Except RepositoryError (List LedgerEntryRecord) :=
  match Sql.text entryType with
  | none           => .error .unavailable
  | some entryType => .ok <| t.getEntriesByType entryType

def findIdempotent (entryType idempotencyKey : String) :
    Except RepositoryError (Option LedgerEntryRecord) :=
  match Sql.text entryType, Sql.text idempotencyKey with
  | some entryType, some key => .ok <| t.findIdempotent entryType key
  | _,              _        => .error .unavailable

end PostgresClient

end Ledger
