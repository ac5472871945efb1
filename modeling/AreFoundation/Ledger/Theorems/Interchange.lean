import AreFoundation.Ledger.Journal
import AreFoundation.Ledger.Storage
import AreFoundation.Ledger.Theorems.Idempotency

open Transition

namespace Ledger

-- The two repositories generate their own identifiers. A permutation translates between them.
section Rename

variable (σ : Equiv.Perm Uuid)

def LedgerEntryRecord.rename (entry : LedgerEntryRecord) : LedgerEntryRecord :=
  { entry with entryId := σ entry.entryId }

def OutboxRecord.rename (record : OutboxRecord) : OutboxRecord :=
  { record with outboxId := σ record.outboxId, entryId := σ record.entryId }

def ChainTip.rename (tip : ChainTip) : ChainTip :=
  { tip with entryId := σ tip.entryId }

def NewIds.rename (ids : NewIds) : NewIds where
  entryId  := σ ids.entryId
  outboxId := σ ids.outboxId

def WriteResult.rename (result : WriteResult) : WriteResult where
  entry  := result.entry.rename σ
  outbox := result.outbox.rename σ

end Rename

inductive Operation
  | writeEntryWithOutbox (input : EntryWriteInput) (ids : NewIds)
  | getChainTip (entryType : String)
  | getEntriesByType (entryType : String)
  | findIdempotent (entryType idempotencyKey : String)
  | pendingOutbox
  | markOutboxDelivered (outboxId : Uuid)

-- Pending records are compared without their order.
inductive Reply
  | written (result : Except RepositoryError WriteResult)
  | chainTip (result : Except RepositoryError ChainTip)
  | entries (result : Except RepositoryError (List LedgerEntryRecord))
  | idempotent (result : Except RepositoryError (Option LedgerEntryRecord))
  | pending (result : Except RepositoryError (Multiset OutboxRecord))
  | marked (result : Except RepositoryError Unit)
  deriving DecidableEq

def Operation.rename (σ : Equiv.Perm Uuid) : Operation → Operation
  | writeEntryWithOutbox input ids => writeEntryWithOutbox input (ids.rename σ)
  | markOutboxDelivered outboxId   => markOutboxDelivered (σ outboxId)
  | op                             => op

def Reply.rename (σ : Equiv.Perm Uuid) : Reply → Reply
  | written result    => written <| result.map (·.rename σ)
  | chainTip result   => chainTip <| result.map (·.rename σ)
  | entries result    => entries <| result.map (·.map (·.rename σ))
  | idempotent result => idempotent <| result.map (·.map (·.rename σ))
  | pending result    => pending <| result.map (·.map (·.rename σ))
  | marked result     => marked result

def InMemoryLedgerRepository.perform (repo : InMemoryLedgerRepository) :
    Operation → Reply × InMemoryLedgerRepository
  | .writeEntryWithOutbox input ids => (repo.writeEntryWithOutbox input ids).map .written id
  | .getChainTip t                  => (.chainTip <| repo.getChainTip t, repo)
  | .getEntriesByType t             => (.entries <| .ok <| repo.getEntriesByType t, repo)
  | .findIdempotent t key           => (.idempotent <| .ok <| repo.findIdempotent t key, repo)
  | .pendingOutbox                  => (.pending <| .ok repo.pendingOutbox, repo)
  | .markOutboxDelivered outboxId   => (repo.markOutboxDelivered outboxId).map .marked id

def PostgresLedgerRepository.perform [Database] (repo : PostgresLedgerRepository) :
    Operation → Reply × PostgresLedgerRepository
  | .writeEntryWithOutbox input ids =>
    (PostgresClient.writeEntryWithOutbox repo input ids).map .written id
  | .getChainTip t                => (.chainTip <| PostgresClient.getChainTip repo.toTables t, repo)
  | .getEntriesByType t           =>
    (.entries <| PostgresClient.getEntriesByType repo.toTables t, repo)
  | .findIdempotent t key         =>
    (.idempotent <| PostgresClient.findIdempotent repo.toTables t key, repo)
  | .pendingOutbox                => (.pending <| .ok repo.pendingOutbox, repo)
  | .markOutboxDelivered outboxId => (repo.markOutboxDelivered outboxId).map .marked id

-- Both repositories, started empty and given the same operations.
structure Twins where
  memory   : InMemoryLedgerRepository := {}
  postgres : PostgresLedgerRepository := {}

namespace Twins

-- Identifiers are generated afresh in each repository, and texts fit into their columns.
def Allows (σ : Equiv.Perm Uuid) (s : Twins) : Operation → Prop
  | .writeEntryWithOutbox input ids =>
    ids.Fresh s.memory ∧ (ids.rename σ).Fresh s.postgres ∧ input.FitsColumns
  | _ => True

instance (σ : Equiv.Perm Uuid) (s : Twins) : (op : Operation) → Decidable (Allows σ s op)
  | .writeEntryWithOutbox _ _ => inferInstanceAs <| Decidable (_ ∧ _ ∧ _)
  | .getChainTip _ | .getEntriesByType _ | .findIdempotent _ _ | .pendingOutbox
  | .markOutboxDelivered _ => .isTrue trivial

def twins [Database] (σ : Equiv.Perm Uuid) : System Twins Operation where
  allows := Allows σ
  step s op :=
    { memory   := (s.memory.perform op).2
      postgres := (s.postgres.perform <| op.rename σ).2 }

instance [Database] (σ : Equiv.Perm Uuid) (s : Twins) (op : Operation) :
    Decidable ((twins σ).allows s op) :=
  inferInstanceAs <| Decidable (Allows σ s op)

-- A write reuses no idempotency key of its type, a record is not marked twice, and all values are
-- ones that the database accepts and returns unchanged.
def Agreeable [Database] (s : Twins) : Operation → Prop
  | .writeEntryWithOutbox input _ =>
    input.Representable ∧
      ∀ key ∈ input.idempotencyKey, s.memory.idempotencyIndex.lookup (input.entryType, key) = none
  | .getChainTip t | .getEntriesByType t => Sql.text t = some t
  | .findIdempotent t key                => Sql.text t = some t ∧ Sql.text key = some key
  | .pendingOutbox                       => True
  | .markOutboxDelivered outboxId        =>
    ∀ record ∈ s.memory.outbox.lookup outboxId, record.status = .pending

instance [Database] (s : Twins) : (op : Operation) → Decidable (Agreeable s op)
  | .writeEntryWithOutbox _ _ => inferInstanceAs <| Decidable (_ ∧ _)
  | .getChainTip _ | .getEntriesByType _ => inferInstanceAs <| Decidable (_ = _)
  | .findIdempotent _ _ => inferInstanceAs <| Decidable (_ ∧ _)
  | .pendingOutbox => .isTrue trivial
  | .markOutboxDelivered _ => inferInstanceAs <| Decidable (∀ _ ∈ _, _)

end Twins

namespace EntryWriteInput

variable {input : EntryWriteInput}

theorem stored_of_representable [Database] (hf : input.FitsColumns) (hr : input.Representable) :
    input.stored = some input := by
  have hv {n s} (h : (n, s) ∈ input.texts) : Sql.varchar n s = some s := by
    have hl : s.length ≤ n := hf _ h
    simp [Sql.varchar, hr.texts _ h, hl]
  have hc : input.correlationId.mapM (Sql.varchar 255) = some input.correlationId := by
    cases h : input.correlationId
    case none   => rfl
    case some s => simp [hv (show (255, s) ∈ input.texts by simp [texts, h])]
  have hk : input.idempotencyKey.mapM (Sql.varchar 255) = some input.idempotencyKey := by
    cases h : input.idempotencyKey
    case none   => rfl
    case some s => simp [hv (show (255, s) ∈ input.texts by simp [texts, h])]
  simp [stored, hc, hk, hr.writtenTs, hv (n := 50) (s := input.entryType) (by simp [texts]),
    hv (n := 100) (s := input.agentId) (by simp [texts]),
    hv (n := 100) (s := input.contentType) (by simp [texts]),
    hv (n := 100) (s := input.sourceId) (by simp [texts]),
    hv (n := 64) (s := input.entryHash) (by simp [texts]),
    hv (n := 64) (s := input.previousHash) (by simp [texts])]

end EntryWriteInput

namespace PostgresLedgerRepository

variable {repo : PostgresLedgerRepository} {input : EntryWriteInput} {ids : NewIds}
variable {σ : Equiv.Perm Uuid} {j : Journal}

theorem insertEntry_result (entry : LedgerEntryRecord) (outbox : OutboxRecord) :
    ((repo.insertEntry entry outbox).1.map fun _ => ⟨entry, outbox⟩) =
      (repo.insertEntry entry outbox).1 := by
  unfold insertEntry
  repeat' split
  all_goals rfl

-- With values that the database returns unchanged, the driver does what the transaction says.
theorem client_writeEntryWithOutbox [Database] (hf : input.FitsColumns) (hr : input.Representable) :
    PostgresClient.writeEntryWithOutbox repo input ids = repo.writeEntryWithOutbox input ids := by
  have ht : Sql.text input.entryType ≠ none := by
    rw [hr.texts (50, input.entryType) (by simp [EntryWriteInput.texts])]
    exact Option.some_ne_none _
  unfold PostgresClient.writeEntryWithOutbox writeEntryWithOutbox
  rw [if_neg (not_not.mpr hr.isJson), if_neg (by simp [ht, hr.lockKey]), hr.payload,
    EntryWriteInput.stored_of_representable hf hr]
  cases repo.checkTip input
  case error => rfl
  case ok    => simp [insertEntry_result]

-- The rows of the tables, in the order in which they were inserted.
structure Stores (σ : Equiv.Perm Uuid) (repo : PostgresLedgerRepository) (j : Journal) : Prop where
  entries   : repo.ledgerEntries = j.entries.map (·.rename σ)
  outbox    : repo.ledgerWriteOutbox = j.outbox.map (·.rename σ)
  positions : ∀ t, (j.chain t).map (·.chainPosition) = positionsUpTo (j.chain t).length

namespace Stores

theorem filter_entryType (h : repo.Stores σ j) (t : String) :
    repo.ledgerEntries.filter (·.entryType = t) = (j.chain t).map (·.rename σ) := by
  rw [h.entries, List.filter_map]
  rfl

theorem positions_rename (h : repo.Stores σ j) (t : String) :
    ((j.chain t).map (·.rename σ)).map (·.chainPosition) = positionsUpTo (j.chain t).length := by
  rw [List.map_map, ← h.positions]
  rfl

theorem tipRow (h : repo.Stores σ j) (t : String) :
    repo.tipRow t = (j.chain t).getLast?.map (·.rename σ) := by
  rw [Tables.tipRow, h.filter_entryType, maxOn?_of_positions (h.positions_rename t),
    List.getLast?_map]

theorem getEntriesByType (h : repo.Stores σ j) (t : String) :
    repo.getEntriesByType t = (j.chain t).map (·.rename σ) := by
  rw [Tables.getEntriesByType, h.filter_entryType,
    sortByPosition_of_positions (h.positions_rename t)]

theorem getChainTip (h : repo.Stores σ j) (t : String) :
    repo.getChainTip t =
      (j.chain t).getLast?.elim (.error .notFound) (.ok <| ·.toTip.rename σ) := by
  unfold Tables.getChainTip
  rw [h.tipRow]
  cases (j.chain t).getLast? <;> rfl

-- The unique index leaves no choice between the first and the last row with a key.
theorem findIdempotent (h : repo.Stores σ j) (t key : String) :
    repo.findIdempotent t key = (j.withKey t key).map (·.rename σ) := by
  cases hk : j.withKey t key
  case none =>
    rw [Option.map_none, findIdempotent_eq_none, h.entries]
    intro e he hn
    obtain ⟨e, hm, rfl⟩ := List.mem_map.mp he
    obtain ⟨(ht : e.entryType = t), (hi : e.idempotencyKey = some key)⟩ :=
      typeIdempotencyKey_eq_some.mp hn
    have hc : e ∈ (j.chain t).reverse := by simp [Journal.chain, hm, ht]
    exact List.find?_eq_none.mp hk e hc (by simp [hi])
  case some e =>
    have hc : e ∈ j.chain t := List.mem_reverse.mp <| List.mem_of_find?_eq_some hk
    have hi : e.idempotencyKey = some key := by simpa using List.find?_some hk
    have hm : e.rename σ ∈ repo.ledgerEntries := by
      rw [h.entries]
      exact List.mem_map_of_mem (List.mem_of_mem_filter hc)
    have hu : (e.rename σ).typeIdempotencyKey = some (t, key) := by
      have ht : e.entryType = t := by simpa using List.of_mem_filter hc
      exact typeIdempotencyKey_eq_some.mpr ⟨ht, hi⟩
    have hf := repo.idempotency.filter_eq_singleton hm hu
    rw [Tables.findIdempotent, ← List.head?_filter]
    simp only [typeIdempotencyKey_eq_some] at hf
    rw [hf]
    rfl

theorem pendingOutbox (h : repo.Stores σ j) :
    repo.pendingOutbox = (j.outbox.filter (·.status = .pending)).map (·.rename σ) := by
  rw [PostgresLedgerRepository.pendingOutbox, h.outbox, List.filter_map]
  rfl

theorem nextPosition (h : repo.Stores σ j) (t : String) :
    repo.nextPosition t = (j.chain t).length + 1 := by
  rw [PostgresLedgerRepository.nextPosition, h.tipRow]
  cases hl : (j.chain t).getLast?
  case none   => simp [List.getLast?_eq_none_iff.mp hl]
  case some e => simp [LedgerEntryRecord.rename, position_getLast_of_positions (h.positions t) hl]

theorem checkTip_of_accepts (h : repo.Stores σ j)
    (ha : j.Accepts input.entryType input.previousHash) :
    repo.checkTip input = .ok (repo.nextPosition input.entryType) := by
  unfold Journal.Accepts Continues at ha
  unfold Tables.checkTip PostgresLedgerRepository.nextPosition
  rw [h.tipRow]
  cases hl : (j.chain input.entryType).getLast? <;> simp only [hl] at ha
  case none   => exact if_neg ha
  case some e => exact if_neg (not_not.mpr ha)

theorem writeEntryWithOutbox_error (h : repo.Stores σ j) (ids : NewIds)
    (ha : ¬j.Accepts input.entryType input.previousHash) :
    repo.writeEntryWithOutbox input ids = (.error .chainIntegrityViolation, repo) := by
  have ht : repo.checkTip input = .error .chainIntegrityViolation := by
    unfold Journal.Accepts Continues at ha
    unfold Tables.checkTip
    rw [h.tipRow]
    cases hl : (j.chain input.entryType).getLast? <;> simp only [hl] at ha
    case none   => exact if_pos (not_not.mp ha)
    case some e => exact if_pos ha
  rw [PostgresLedgerRepository.writeEntryWithOutbox, ht]

theorem writeEntryWithOutbox_ok (h : repo.Stores σ j) (hf : (ids.rename σ).Fresh repo)
    (ha : j.Accepts input.entryType input.previousHash)
    (hk : ∀ key ∈ input.idempotencyKey, j.withKey input.entryType key = none) :
    ∃ repo', repo.writeEntryWithOutbox input (ids.rename σ) =
        (.ok <| WriteResult.rename σ
          ⟨input.toEntry ids ((j.chain input.entryType).length + 1), input.toOutbox ids⟩, repo') ∧
      repo'.ledgerEntries = (j.entries ++
        [input.toEntry ids ((j.chain input.entryType).length + 1)]).map (·.rename σ) ∧
      repo'.ledgerWriteOutbox = (j.outbox ++ [input.toOutbox ids]).map (·.rename σ) := by
  have hk' : ∀ key ∈ input.idempotencyKey, repo.findIdempotent input.entryType key = none := by
    intro key hm
    rw [h.findIdempotent, hk key hm, Option.map_none]
  obtain ⟨repo', hi, he, ho⟩ := insertEntry_ok input hf (insertable_next hf hk')
  refine ⟨repo', ?_, ?_, ?_⟩
  case refine_1 =>
    rw [writeEntryWithOutbox_of_checkTip (h.checkTip_of_accepts ha), hi, h.nextPosition]
    rfl
  case refine_2 =>
    rw [he, h.entries, h.nextPosition, List.map_append]
    rfl
  case refine_3 =>
    rw [ho, h.outbox, List.map_append]
    rfl

theorem markOutboxDelivered_ok (h : repo.Stores σ j) (hr : record ∈ j.outbox)
    (hp : ∀ o ∈ j.outbox, o.outboxId = record.outboxId → o.status = .pending) :
    (repo.markOutboxDelivered (σ record.outboxId)).1 = .ok () ∧
      (repo.markOutboxDelivered (σ record.outboxId)).2.Stores σ (j.deliver record.outboxId) := by
  have hm : ∃ o ∈ repo.ledgerWriteOutbox, o.outboxId = σ record.outboxId ∧ o.status = .pending := by
    refine ⟨record.rename σ, ?_, rfl, hp record hr rfl⟩
    rw [h.outbox]
    exact List.mem_map_of_mem hr
  unfold PostgresLedgerRepository.markOutboxDelivered
  rw [if_pos hm]
  refine ⟨rfl, h.entries, ?_, h.positions⟩
  simp only [h.outbox, Journal.deliver, List.map_map]
  refine List.map_congr_left fun o ho => ?_
  by_cases hi : o.outboxId = record.outboxId
  case pos => simp [OutboxRecord.markDelivered, OutboxRecord.rename, hi, hp o ho hi]
  case neg => simp [OutboxRecord.markDelivered, OutboxRecord.rename, hi]

theorem markOutboxDelivered_error (h : repo.Stores σ j) (hn : ∀ o ∈ j.outbox, o.outboxId ≠ outboxId) :
    repo.markOutboxDelivered (σ outboxId) = (.error .notFound, repo) := by
  refine if_neg ?_
  rintro ⟨_, hm, hi, -⟩
  rw [h.outbox] at hm
  obtain ⟨o, ho, rfl⟩ := List.mem_map.mp hm
  exact hn o ho <| σ.injective hi

end Stores

end PostgresLedgerRepository

namespace Twins

section Run

variable [Database] {σ : Equiv.Perm Uuid} {s : Twins} {op : Operation} {j : Journal}

-- One history behind both repositories.
structure Alike (σ : Equiv.Perm Uuid) (s : Twins) (j : Journal) : Prop where
  memory   : s.memory.Records j
  postgres : s.postgres.Stores σ j

-- The repositories give the same reply and have the same history again.
structure Agrees (σ : Equiv.Perm Uuid) (s : Twins) (op : Operation) : Prop where
  reply : (s.postgres.perform <| op.rename σ).1 = (s.memory.perform op).1.rename σ
  alike : ∃ j, Alike σ ((twins σ).step s op) j

theorem Agrees.of {reply : Reply} (hm : s.memory.perform op = (reply, m))
    (hp : s.postgres.perform (op.rename σ) = (reply.rename σ, p)) (a : Alike σ ⟨m, p⟩ j) :
    Agrees σ s op where
  reply := by rw [hp, hm]
  alike := ⟨j, by simpa [twins, hm, hp] using a⟩

namespace Alike

theorem writeEntryWithOutbox (a : Alike σ s j)
    (ha : Allows σ s <| .writeEntryWithOutbox input ids)
    (hg : Agreeable s <| .writeEntryWithOutbox input ids) :
    Agrees σ s (.writeEntryWithOutbox input ids) := by
  obtain ⟨hm, hp, hf⟩ := ha
  obtain ⟨hr, hk⟩ := hg
  have hk : ∀ key ∈ input.idempotencyKey, j.withKey input.entryType key = none := by
    intro key hi
    simpa [a.memory.keys] using hk key hi
  have hc : PostgresClient.writeEntryWithOutbox s.postgres input (ids.rename σ) =
      s.postgres.writeEntryWithOutbox input (ids.rename σ) :=
    PostgresLedgerRepository.client_writeEntryWithOutbox hf hr
  by_cases h : j.Accepts input.entryType input.previousHash
  case pos =>
    have hw := (a.memory.tracks input.entryType).writeEntryWithOutbox_ok ids h
    obtain ⟨repo', hw', he, ho⟩ := a.postgres.writeEntryWithOutbox_ok hp h hk
    have hr : (s.memory.insertEntry input ids _).Records _ := a.memory.insertEntry hm rfl
    exact .of (congrArg (Prod.map Reply.written id) hw)
      (congrArg (Prod.map Reply.written id) <| hc.trans hw') ⟨hr, he, ho, hr.positions⟩
  case neg =>
    have hw := (a.memory.tracks input.entryType).writeEntryWithOutbox_error ids h
    have hw' := a.postgres.writeEntryWithOutbox_error (ids.rename σ) h
    exact .of (congrArg (Prod.map Reply.written id) hw)
      (congrArg (Prod.map Reply.written id) <| hc.trans hw') a

theorem markOutboxDelivered (a : Alike σ s j) (hg : Agreeable s <| .markOutboxDelivered outboxId) :
    Agrees σ s (.markOutboxDelivered outboxId) := by
  cases hl : s.memory.outbox.lookup outboxId
  case none =>
    have hn : ∀ o ∈ j.outbox, o.outboxId ≠ outboxId := by
      rw [a.memory.outbox.lookup] at hl
      simpa using hl
    have hm : s.memory.markOutboxDelivered outboxId = (.error .notFound, s.memory) := by
      simp [InMemoryLedgerRepository.markOutboxDelivered, hl]
    have hp := a.postgres.markOutboxDelivered_error hn
    exact .of (congrArg (Prod.map Reply.marked id) hm) (congrArg (Prod.map Reply.marked id) hp) a
  case some record =>
    obtain ⟨hr, rfl⟩ := a.memory.outbox.mem_of_lookup hl
    have hs : ∀ o ∈ j.outbox, o.outboxId = record.outboxId → o.status = .pending := by
      intro o ho hi
      exact hg o (hi ▸ a.memory.outbox.lookup_of_mem ho)
    have hm : (s.memory.markOutboxDelivered record.outboxId).1 = .ok () := by
      simp [InMemoryLedgerRepository.markOutboxDelivered, hl]
    obtain ⟨hp, hp'⟩ := a.postgres.markOutboxDelivered_ok hr hs
    exact ⟨congrArg Reply.marked <| hp.trans hm.symm, _, a.memory.markOutboxDelivered _, hp'⟩

theorem agrees (a : Alike σ s j) (ha : (twins σ).allows s op) (hg : Agreeable s op) :
    Agrees σ s op := by
  cases op
  case writeEntryWithOutbox => exact a.writeEntryWithOutbox ha hg
  case markOutboxDelivered  => exact a.markOutboxDelivered hg
  case getChainTip t =>
    refine ⟨congrArg Reply.chainTip ?_, j, a⟩
    have hg : Sql.text t = some t := hg
    simp only [PostgresClient.getChainTip, hg, a.postgres.getChainTip,
      (a.memory.tracks t).getChainTip]
    cases (j.chain t).getLast? <;> rfl
  case getEntriesByType t =>
    refine ⟨congrArg Reply.entries ?_, j, a⟩
    have hg : Sql.text t = some t := hg
    simp only [PostgresClient.getEntriesByType, hg, a.postgres.getEntriesByType,
      a.memory.getEntriesByType]
    rfl
  case findIdempotent t key =>
    refine ⟨congrArg Reply.idempotent ?_, j, a⟩
    obtain ⟨ht, hk⟩ := hg
    simp only [PostgresClient.findIdempotent, ht, hk, a.postgres.findIdempotent,
      a.memory.findIdempotent]
    rfl
  case pendingOutbox =>
    refine ⟨congrArg Reply.pending <| congrArg Except.ok ?_, j, a⟩
    rw [a.postgres.pendingOutbox, a.memory.pendingOutbox]
    rfl

end Alike

theorem run_agree (r : Run (twins σ) Agreeable {} s) (op : Operation)
    (ha : (twins σ).allows s op) (hg : Agreeable s op) :
    (s.postgres.perform <| op.rename σ).1 = (s.memory.perform op).1.rename σ := by
  let P (s : Twins) : Prop := ∃ j, Alike σ s j
  have ⟨j, a⟩ : P s := by
    refine r.invariant (P := P) ?_ ⟨{}, .init, rfl, rfl, fun _ => rfl⟩
    exact fun ⟨_, a⟩ ha hg => (a.agrees ha hg).alike
  exact (a.agrees ha hg).reply

end Run

namespace Sample

-- A database that only stores empty objects.
scoped instance emptyObjects : Database where
  hashtext := Database.polynomial
  isJson s := s = "\x7b\x7d"
  jsonb s  := if s = "\x7b\x7d" then some s else none

def sampleInput (previousHash entryHash : String) : EntryWriteInput where
  entryType      := "ACTION_RECEIPT"
  agentId        := "agent-1"
  content        := [1, 2, 3]
  contentType    := "application/json"
  sourceId       := "source-1"
  correlationId  := none
  idempotencyKey := some "key-1"
  entryHash      := entryHash
  previousHash   := previousHash
  writtenTs      := 1700000000000000000
  outboxPayload  := "\x7b\x7d"

def sampleIds : Equiv.Perm Uuid :=
  Equiv.swap 1 2

def firstWrite : Operation :=
  .writeEntryWithOutbox (sampleInput "genesis" "first") ⟨1, 2⟩

theorem record_marked_in_both : ∃ s : Twins,
    (s.memory.perform <| .markOutboxDelivered 2).1 = .marked (.ok ()) ∧
    (s.postgres.perform <| .markOutboxDelivered 1).1 = .marked (.ok ()) := by
  have r : Run (twins sampleIds) Agreeable {} (exec (twins sampleIds) {} [firstWrite]) :=
    .ofSchedule _ (by decide +kernel)
  have h := run_agree r (.markOutboxDelivered 2) trivial (by decide +kernel)
  have hm : ((exec (twins sampleIds) {} [firstWrite]).memory.perform <| .markOutboxDelivered 2).1 =
      .marked (.ok ()) := by decide +kernel
  exact ⟨_, hm, h.trans <| congrArg (Reply.rename sampleIds) hm⟩

-- The index of the memory is overwritten, the one of the database is violated.
theorem second_write_with_key_refused : ∃ s : Twins, ∃ op result,
    Nonempty (Run (twins sampleIds) .any {} s) ∧ (twins sampleIds).allows s op ∧
    (s.memory.perform op).1 = .written (.ok result) ∧
    (s.postgres.perform <| op.rename sampleIds).1 = .written (.error .chainIntegrityViolation) := by
  refine ⟨exec (twins sampleIds) {} [firstWrite],
    .writeEntryWithOutbox (sampleInput "first" "second") ⟨3, 4⟩,
    ⟨(sampleInput "first" "second").toEntry ⟨3, 4⟩ 2,
      (sampleInput "first" "second").toOutbox ⟨3, 4⟩⟩,
    ⟨.ofSchedule _ ?_⟩, ?_, ?_, ?_⟩
  all_goals decide +kernel

end Sample

end Twins

end Ledger
