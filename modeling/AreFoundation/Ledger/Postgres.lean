import AreFoundation.Library.Table
import AreFoundation.Ledger.Service

namespace Ledger

-- The keys of the unique indexes on `ledger_entries`.
namespace LedgerEntryRecord

def primaryKey (entry : LedgerEntryRecord) : Option Uuid :=
  some entry.entryId

def typePosition (entry : LedgerEntryRecord) : Option (String × Int) :=
  some (entry.entryType, entry.chainPosition)

-- Partial index: `WHERE idempotency_key IS NOT NULL`.
def typeIdempotencyKey (entry : LedgerEntryRecord) : Option (String × String) :=
  entry.idempotencyKey.map (entry.entryType, ·)

end LedgerEntryRecord

structure Tables where
  ledgerEntries     : List LedgerEntryRecord := []
  ledgerWriteOutbox : List OutboxRecord := []

namespace Tables

variable (t : Tables)

-- `WHERE entry_type = $1 ORDER BY chain_position DESC LIMIT 1`
def tipRow (entryType : String) : Option LedgerEntryRecord :=
  t.ledgerEntries.filter (·.entryType = entryType) |>.maxOn? (·.chainPosition)

-- The position of the next entry, if the input follows the tip of its chain.
def checkTip (input : EntryWriteInput) : Except RepositoryError Int :=
  match t.tipRow input.entryType with
  | none     => if input.previousHash = "" then .error .chainIntegrityViolation else .ok 1
  | some tip =>
    if tip.entryHash ≠ input.previousHash then
      .error .chainIntegrityViolation
    else
      .ok (tip.chainPosition + 1)

-- No unique index is violated.
structure Insertable (entry : LedgerEntryRecord) : Prop where
  primaryKey   : Table.Admits (·.primaryKey) t.ledgerEntries entry
  typePosition : Table.Admits (·.typePosition) t.ledgerEntries entry
  idempotency  : Table.Admits (·.typeIdempotencyKey) t.ledgerEntries entry

instance (entry : LedgerEntryRecord) : Decidable (t.Insertable entry) :=
  decidable_of_iff
    (Table.Admits (·.primaryKey) t.ledgerEntries entry ∧
      Table.Admits (·.typePosition) t.ledgerEntries entry ∧
      Table.Admits (·.typeIdempotencyKey) t.ledgerEntries entry)
    ⟨fun ⟨h₁, h₂, h₃⟩ => ⟨h₁, h₂, h₃⟩, fun ⟨h₁, h₂, h₃⟩ => ⟨h₁, h₂, h₃⟩⟩

def AdmitsOutbox (record : OutboxRecord) : Prop :=
  Table.Admits (some ·.outboxId) t.ledgerWriteOutbox record

instance (record : OutboxRecord) : Decidable (t.AdmitsOutbox record) :=
  inferInstanceAs <| Decidable (Table.Admits ..)

def getEntry (entryId : Uuid) : Except RepositoryError LedgerEntryRecord :=
  match t.ledgerEntries.find? (·.entryId = entryId) with
  | none       => .error .notFound
  | some entry => .ok entry

def getChainTip (entryType : String) : Except RepositoryError ChainTip :=
  match t.tipRow entryType with
  | none     => .error .notFound
  | some tip => .ok tip.toTip

def getEntriesByType (entryType : String) : List LedgerEntryRecord :=
  sortByPosition <| t.ledgerEntries.filter (·.entryType = entryType)

def findIdempotent (entryType idempotencyKey : String) : Option LedgerEntryRecord :=
  t.ledgerEntries.find? fun entry =>
    entry.entryType = entryType ∧ entry.idempotencyKey = some idempotencyKey

end Tables

-- The committed rows. Their unique indexes hold by construction.
structure PostgresLedgerRepository extends Tables where
  primaryKey       : Table.Unique (·.primaryKey) ledgerEntries := by exact .nil
  typePosition     : Table.Unique (·.typePosition) ledgerEntries := by exact .nil
  idempotency      : Table.Unique (·.typeIdempotencyKey) ledgerEntries := by exact .nil
  outboxPrimaryKey : Table.Unique (some ·.outboxId) ledgerWriteOutbox := by exact .nil

namespace PostgresLedgerRepository

variable (repo : PostgresLedgerRepository)

-- The two inserts of the transaction. A row that violates a unique index rolls everything back.
def insertEntry (entry : LedgerEntryRecord) (outbox : OutboxRecord) :
    Except RepositoryError WriteResult × PostgresLedgerRepository :=
  if he : repo.Insertable entry then
    if ho : repo.AdmitsOutbox outbox then
      (.ok ⟨entry, outbox⟩,
        { ledgerEntries     := repo.ledgerEntries ++ [entry]
          ledgerWriteOutbox := repo.ledgerWriteOutbox ++ [outbox]
          primaryKey        := repo.primaryKey.append he.primaryKey
          typePosition      := repo.typePosition.append he.typePosition
          idempotency       := repo.idempotency.append he.idempotency
          outboxPrimaryKey  := repo.outboxPrimaryKey.append ho })
    else
      (.error .unavailable, repo)
  else
    (.error .chainIntegrityViolation, repo)

-- The advisory lock and the transaction make this one atomic step. Failures of the connection are
-- not modelled.
def writeEntryWithOutbox (input : EntryWriteInput) (ids : NewIds) :
    Except RepositoryError WriteResult × PostgresLedgerRepository :=
  match repo.checkTip input with
  | .error err   => (.error err, repo)
  | .ok position => repo.insertEntry (input.toEntry ids position) (input.toOutbox ids)

instance : LedgerRepository PostgresLedgerRepository where
  writeEntryWithOutbox := writeEntryWithOutbox
  getEntry repo := repo.getEntry
  getChainTip repo := repo.getChainTip
  getEntriesByType repo entryType := .ok <| repo.getEntriesByType entryType
  findIdempotent repo entryType key := .ok <| repo.findIdempotent entryType key
  idsInUse repo :=
    (repo.ledgerEntries.map (·.entryId)).toFinset ∪ (repo.ledgerWriteOutbox.map (·.outboxId)).toFinset

end PostgresLedgerRepository

end Ledger
