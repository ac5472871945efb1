import AreFoundation.Ledger.Chain
import AreFoundation.Ledger.Outbox

namespace Ledger

-- What a repository has recorded, in the order in which it was written.
structure Journal where
  entries : List LedgerEntryRecord := []
  outbox  : List OutboxRecord := []

namespace Journal

variable (j : Journal) (e : LedgerEntryRecord) (o : OutboxRecord)

def chain (t : String) : List LedgerEntryRecord :=
  j.entries.filter (·.entryType = t)

-- The latest entry with an idempotency key.
def withKey (t key : String) : Option LedgerEntryRecord :=
  (j.chain t).reverse.find? (·.idempotencyKey = some key)

def Accepts (t previousHash : String) : Prop :=
  Continues (j.chain t) previousHash

def append : Journal where
  entries := j.entries ++ [e]
  outbox  := j.outbox ++ [o]

def deliver (outboxId : Uuid) : Journal :=
  { j with
    outbox := j.outbox.map fun o =>
      if o.outboxId = outboxId then { o with status := .delivered } else o }

variable {j e o}

theorem chain_append_of_eq (h : e.entryType = t) : (j.append e o).chain t = j.chain t ++ [e] := by
  simp [chain, append, h]

theorem chain_append_of_ne (h : e.entryType ≠ t) : (j.append e o).chain t = j.chain t := by
  simp [chain, append, h]

theorem chain_prefix_append (t : String) : j.chain t <+: (j.append e o).chain t := by
  by_cases h : e.entryType = t
  case pos => rw [chain_append_of_eq h]; exact List.prefix_append ..
  case neg => rw [chain_append_of_ne h]

theorem eq_of_mem_chain_append (h : e' ∈ (j.append e o).chain t) (hn : e' ∉ j.chain t) : e' = e := by
  by_cases ht : e.entryType = t
  case pos =>
    rw [chain_append_of_eq ht, List.mem_append] at h
    exact List.mem_singleton.mp <| h.resolve_left hn
  case neg => exact absurd (chain_append_of_ne ht ▸ h) hn

theorem withKey_append_of_eq (h : e.entryType = t) : (j.append e o).withKey t key =
    if e.idempotencyKey = some key then some e else j.withKey t key := by
  rw [withKey, chain_append_of_eq h, List.reverse_append, List.reverse_singleton,
    List.singleton_append, List.find?_cons]
  by_cases hk : e.idempotencyKey = some key
  case pos => simp [hk]
  case neg => simp [hk, withKey]

theorem withKey_append_of_ne (h : e.entryType ≠ t) :
    (j.append e o).withKey t key = j.withKey t key := by
  rw [withKey, chain_append_of_ne h, withKey]

end Journal

namespace InMemoryLedgerRepository

variable {repo : InMemoryLedgerRepository} {j : Journal} {input : EntryWriteInput} {ids : NewIds}

-- The maps of the repository as indexes of a journal.
structure Records (repo : InMemoryLedgerRepository) (j : Journal) : Prop where
  entries   : HashMap.Indexes (·.entryId) j.entries repo.entries
  ordered   : ∀ t, (repo.orderedByType.lookup t).getD [] = (j.chain t).map (·.entryId)
  tips      : ∀ t, repo.chainTips.lookup t = (j.chain t).getLast?.map (·.toTip)
  positions : ∀ t, (j.chain t).map (·.chainPosition) = positionsUpTo (j.chain t).length
  keys      : ∀ t key, repo.idempotencyIndex.lookup (t, key) = (j.withKey t key).map (·.entryId)
  outbox    : HashMap.Indexes (·.outboxId) j.outbox repo.outbox

namespace Records

theorem init : Records {} {} where
  entries     := .nil
  ordered _   := rfl
  tips _      := rfl
  positions _ := rfl
  keys _ _    := rfl
  outbox      := .nil

theorem lookup_of_mem_chain (r : Records repo j) (h : e ∈ j.chain t) :
    repo.entries.lookup e.entryId = some e :=
  r.entries.lookup_of_mem <| List.mem_of_mem_filter h

theorem getEntriesByType (r : Records repo j) (t : String) : repo.getEntriesByType t = j.chain t := by
  rw [getEntriesByType_eq, r.ordered, List.filterMap_map]
  calc
    _ = (j.chain t).filterMap some := List.filterMap_congr fun e he => r.lookup_of_mem_chain he
    _ = j.chain t                  := List.filterMap_some

theorem findIdempotent (r : Records repo j) (t key : String) :
    repo.findIdempotent t key = j.withKey t key := by
  unfold InMemoryLedgerRepository.findIdempotent
  rw [r.keys]
  cases h : j.withKey t key
  case none   => rfl
  case some e => exact r.lookup_of_mem_chain <| List.mem_reverse.mp <| List.mem_of_find?_eq_some h

theorem tracks (r : Records repo j) (t : String) : repo.Tracks t (j.chain t) :=
  ⟨r.tips t, r.positions t⟩

theorem pendingOutbox (r : Records repo j) :
    repo.pendingOutbox = (j.outbox.filter (·.status = .pending) : Multiset OutboxRecord) := by
  rw [InMemoryLedgerRepository.pendingOutbox, r.outbox.values, Multiset.filter_coe]

theorem lookup_insertedKey {t key : String} :
    (repo.insertEntry input ids p).idempotencyIndex.lookup (t, key) =
      if input.entryType = t ∧ input.idempotencyKey = some key then some ids.entryId
      else repo.idempotencyIndex.lookup (t, key) := by
  unfold InMemoryLedgerRepository.insertEntry
  cases input.idempotencyKey
  case none     => simp
  case some key => simp [HashMap.lookup_insert, eq_comm]

theorem insertEntry {p : Int} (r : Records repo j) (hf : ids.Fresh repo)
    (hp : p = (j.chain input.entryType).length + 1) :
    Records (repo.insertEntry input ids p)
      (j.append (input.toEntry ids p) (input.toOutbox ids)) := by
  have hi := hf.entryId
  have ho := hf.outboxId
  simp only [LedgerRepository.idsInUse, Finset.mem_union, not_or, Finmap.mem_keys] at hi ho
  constructor
  case entries => exact r.entries.append hi.left
  case outbox  => exact r.outbox.append ho.right
  case ordered =>
    intro t
    simp only [InMemoryLedgerRepository.insertEntry, HashMap.lookup_insert]
    by_cases h : input.entryType = t
    case pos =>
      rw [Journal.chain_append_of_eq h, if_pos h.symm, h, r.ordered, List.map_append]
      rfl
    case neg => rw [Journal.chain_append_of_ne h, if_neg (Ne.symm h), r.ordered]
  case tips =>
    intro t
    simp only [InMemoryLedgerRepository.insertEntry, HashMap.lookup_insert]
    by_cases h : input.entryType = t
    case pos =>
      rw [Journal.chain_append_of_eq h, if_pos h.symm, List.getLast?_concat]
      rfl
    case neg => rw [Journal.chain_append_of_ne h, if_neg (Ne.symm h), r.tips]
  case positions =>
    intro t
    by_cases h : input.entryType = t
    case pos =>
      rw [Journal.chain_append_of_eq h, List.map_append, r.positions, List.length_append,
        List.length_singleton, positionsUpTo_succ, ← h, ← hp]
      rfl
    case neg => rw [Journal.chain_append_of_ne h, r.positions]
  case keys =>
    intro t key
    rw [lookup_insertedKey]
    by_cases h : input.entryType = t
    case pos =>
      rw [Journal.withKey_append_of_eq h, apply_ite (Option.map _), ← r.keys]
      simp only [h, true_and]
      rfl
    case neg => rw [Journal.withKey_append_of_ne h, ← r.keys, if_neg (h ·.left)]

theorem markOutboxDelivered (r : Records repo j) (outboxId : Uuid) :
    Records (repo.markOutboxDelivered outboxId).2 (j.deliver outboxId) := by
  have ho : (repo.markOutboxDelivered outboxId).2 =
      { repo with
        outbox := HashMap.modify outboxId ({ · with status := .delivered }) repo.outbox } := by
    unfold InMemoryLedgerRepository.markOutboxDelivered HashMap.modify
    cases repo.outbox.lookup outboxId <;> rfl
  rw [ho]
  exact
    { r with
      outbox := r.outbox.modify fun _ => rfl }

end Records

end InMemoryLedgerRepository

end Ledger
