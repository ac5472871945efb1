import Mathlib.Data.Finset.Basic
import AreFoundation.Library.Encoding
import AreFoundation.Library.HashMap

namespace Ledger

abbrev Uuid := BitVec 128

-- Five groups of hexadecimal digits.
def Uuid.toText (u : Uuid) : String :=
  let bytes := (List.range 16).map fun i => UInt8.ofNat (u.toNat / 256 ^ (15 - i))
  hexEncode (bytes.take 4) ++ "-" ++ hexEncode (bytes.drop 4 |>.take 2) ++ "-" ++
    hexEncode (bytes.drop 6 |>.take 2) ++ "-" ++ hexEncode (bytes.drop 8 |>.take 2) ++ "-" ++
    hexEncode (bytes.drop 10)

example : Uuid.toText 0x0123456789abcdef0123456789abcdef =
    "01234567-89ab-cdef-0123-456789abcdef" := by
  decide +kernel

-- Instants are nanoseconds since the Unix epoch.
abbrev DateTime := Int

def DateTime.timestampMillis (t : DateTime) : Int :=
  t / 1000000

def canonicalEntryBytes
    (entryType agentId : String) (content : List UInt8) (contentType sourceId : String)
    (writtenTsMs : Int) (previousHash : String) : List UInt8 :=
  asBytes entryType ++ asBytes agentId ++ content ++ asBytes contentType ++ asBytes sourceId ++
    asBytes (toString writtenTsMs) ++ asBytes previousHash

def canonicalEntryHash [Sha256]
    (entryType agentId : String) (content : List UInt8) (contentType sourceId : String)
    (writtenTsMs : Int) (previousHash : String) : String :=
  sha256Hex <| canonicalEntryBytes
    entryType agentId content contentType sourceId writtenTsMs previousHash

-- Positions are `i64` in the source. A chain that overflows them would first need more identifiers
-- than a `Vec` can hold, so integers are used here.
structure LedgerEntryRecord where
  entryId        : Uuid
  entryType      : String
  agentId        : String
  content        : List UInt8
  contentType    : String
  sourceId       : String
  correlationId  : Option String
  idempotencyKey : Option String
  entryHash      : String
  previousHash   : String
  chainPosition  : Int
  writtenTs      : DateTime
  deriving DecidableEq

namespace LedgerEntryRecord

def canonicalBytes (entry : LedgerEntryRecord) : List UInt8 :=
  canonicalEntryBytes entry.entryType entry.agentId entry.content entry.contentType entry.sourceId
    (DateTime.timestampMillis entry.writtenTs) entry.previousHash

def recomputedHash [Sha256] (entry : LedgerEntryRecord) : String :=
  canonicalEntryHash entry.entryType entry.agentId entry.content entry.contentType entry.sourceId
    (DateTime.timestampMillis entry.writtenTs) entry.previousHash

end LedgerEntryRecord

inductive OutboxStatus
  | pending
  | delivered
  | failed
  deriving DecidableEq

structure OutboxRecord where
  outboxId     : Uuid
  entryId      : Uuid
  entryType    : String
  payload      : String
  status       : OutboxStatus
  attemptCount : Int
  deriving DecidableEq

structure ChainTip where
  entryId   : Uuid
  hash      : String
  position  : Int
  writtenTs : DateTime
  deriving DecidableEq

inductive RepositoryError
  | notFound
  | unavailable
  | chainIntegrityViolation
  deriving DecidableEq

structure WriteResult where
  entry  : LedgerEntryRecord
  outbox : OutboxRecord
  deriving DecidableEq

structure EntryWriteInput where
  entryType      : String
  agentId        : String
  content        : List UInt8
  contentType    : String
  sourceId       : String
  correlationId  : Option String
  idempotencyKey : Option String
  entryHash      : String
  previousHash   : String
  writtenTs      : DateTime
  outboxPayload  : String

-- The results of the two calls of `Uuid::new_v4` in `write_entry_with_outbox`.
structure NewIds where
  entryId  : Uuid
  outboxId : Uuid

namespace EntryWriteInput

def toEntry (input : EntryWriteInput) (ids : NewIds) (position : Int) : LedgerEntryRecord where
  entryId        := ids.entryId
  entryType      := input.entryType
  agentId        := input.agentId
  content        := input.content
  contentType    := input.contentType
  sourceId       := input.sourceId
  correlationId  := input.correlationId
  idempotencyKey := input.idempotencyKey
  entryHash      := input.entryHash
  previousHash   := input.previousHash
  chainPosition  := position
  writtenTs      := input.writtenTs

def toOutbox (input : EntryWriteInput) (ids : NewIds) : OutboxRecord where
  outboxId     := ids.outboxId
  entryId      := ids.entryId
  entryType    := input.entryType
  payload      := input.outboxPayload
  status       := .pending
  attemptCount := 0

end EntryWriteInput

def LedgerEntryRecord.toTip (entry : LedgerEntryRecord) : ChainTip where
  entryId   := entry.entryId
  hash      := entry.entryHash
  position  := entry.chainPosition
  writtenTs := entry.writtenTs

-- Each operation runs under the lock of the repository and is therefore atomic. `idsInUse` is not an
-- operation of the source. It is needed to state that generated identifiers are fresh.
class LedgerRepository (ρ : Type) where
  writeEntryWithOutbox : ρ → EntryWriteInput → NewIds → Except RepositoryError WriteResult × ρ
  getEntry             : ρ → Uuid → Except RepositoryError LedgerEntryRecord
  getChainTip          : ρ → String → Except RepositoryError ChainTip
  getEntriesByType     : ρ → String → Except RepositoryError (List LedgerEntryRecord)
  findIdempotent       : ρ → String → String → Except RepositoryError (Option LedgerEntryRecord)
  idsInUse             : ρ → Finset Uuid

structure NewIds.Fresh [LedgerRepository ρ] (ids : NewIds) (repo : ρ) : Prop where
  entryId  : ids.entryId ∉ LedgerRepository.idsInUse repo
  outboxId : ids.outboxId ∉ LedgerRepository.idsInUse repo
  ne       : ids.entryId ≠ ids.outboxId

instance [LedgerRepository ρ] (ids : NewIds) (repo : ρ) : Decidable (ids.Fresh repo) :=
  decidable_of_iff
    (ids.entryId ∉ LedgerRepository.idsInUse repo ∧
      ids.outboxId ∉ LedgerRepository.idsInUse repo ∧ ids.entryId ≠ ids.outboxId)
    ⟨fun ⟨h₁, h₂, h₃⟩ => ⟨h₁, h₂, h₃⟩, fun ⟨h₁, h₂, h₃⟩ => ⟨h₁, h₂, h₃⟩⟩

structure InMemoryLedgerRepository where
  entries          : HashMap Uuid LedgerEntryRecord := ∅
  orderedByType    : HashMap String (List Uuid) := ∅
  chainTips        : HashMap String ChainTip := ∅
  idempotencyIndex : HashMap (String × String) Uuid := ∅
  outbox           : HashMap Uuid OutboxRecord := ∅

namespace InMemoryLedgerRepository

variable (repo : InMemoryLedgerRepository)

def nextPosition (entryType : String) : Int :=
  (repo.chainTips.lookup entryType).map (·.position + 1) |>.getD 1

def insertEntry (input : EntryWriteInput) (ids : NewIds) (position : Int) :
    InMemoryLedgerRepository where
  entries       := repo.entries.insert ids.entryId (input.toEntry ids position)
  orderedByType := repo.orderedByType.insert input.entryType <|
    (repo.orderedByType.lookup input.entryType).getD [] ++ [ids.entryId]
  chainTips     := repo.chainTips.insert input.entryType (input.toEntry ids position).toTip
  idempotencyIndex :=
    match input.idempotencyKey with
    | none     => repo.idempotencyIndex
    | some key => repo.idempotencyIndex.insert (input.entryType, key) ids.entryId
  outbox        := repo.outbox.insert ids.outboxId (input.toOutbox ids)

def writeEntryWithOutbox (input : EntryWriteInput) (ids : NewIds) :
    Except RepositoryError WriteResult × InMemoryLedgerRepository :=
  let nextPosition := repo.nextPosition input.entryType
  if nextPosition = 1 ∧ input.previousHash = "" then
    (.error .chainIntegrityViolation, repo)
  else if nextPosition > 1 ∧
      (repo.chainTips.lookup input.entryType).map (·.hash) ≠ some input.previousHash then
    -- Covers a missing tip as well as one with another hash.
    (.error .chainIntegrityViolation, repo)
  else
    (.ok ⟨input.toEntry ids nextPosition, input.toOutbox ids⟩,
      repo.insertEntry input ids nextPosition)

def getEntry (entryId : Uuid) : Except RepositoryError LedgerEntryRecord :=
  match repo.entries.lookup entryId with
  | none       => .error .notFound
  | some entry => .ok entry

def getChainTip (entryType : String) : Except RepositoryError ChainTip :=
  match repo.chainTips.lookup entryType with
  | none     => .error .notFound
  | some tip => .ok tip

def getEntriesByType (entryType : String) : List LedgerEntryRecord :=
  match repo.orderedByType.lookup entryType with
  | none     => []
  | some ids => ids.filterMap (repo.entries.lookup ·)

def findIdempotent (entryType idempotencyKey : String) : Option LedgerEntryRecord :=
  match repo.idempotencyIndex.lookup (entryType, idempotencyKey) with
  | none    => none
  | some id => repo.entries.lookup id

instance : LedgerRepository InMemoryLedgerRepository where
  writeEntryWithOutbox := writeEntryWithOutbox
  getEntry := getEntry
  getChainTip := getChainTip
  getEntriesByType repo entryType := .ok <| repo.getEntriesByType entryType
  findIdempotent repo entryType key := .ok <| repo.findIdempotent entryType key
  idsInUse repo := repo.entries.keys ∪ repo.outbox.keys

theorem getEntriesByType_eq (repo : InMemoryLedgerRepository) (t : String) :
    repo.getEntriesByType t =
      ((repo.orderedByType.lookup t).getD []).filterMap (repo.entries.lookup ·) := by
  unfold getEntriesByType
  cases repo.orderedByType.lookup t <;> rfl

end InMemoryLedgerRepository

end Ledger
