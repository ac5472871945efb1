import AreFoundation.Ledger.Theorems.Verification

open Interleaving

namespace Ledger

namespace LedgerEntryRecord

variable {entry entry' : LedgerEntryRecord}

-- The fields that enter the hash of an entry.
def hashedFields (entry : LedgerEntryRecord) :=
  (entry.entryType, entry.agentId, entry.content, entry.contentType, entry.sourceId,
    DateTime.timestampMillis entry.writtenTs, entry.previousHash)

-- The encoding has no separators. Text can therefore be moved from one field to the next.
def moveEntryType (entry : LedgerEntryRecord) : LedgerEntryRecord :=
  { entry with entryType := "", agentId := entry.entryType ++ entry.agentId }

theorem canonicalBytes_moveEntryType : entry.moveEntryType.canonicalBytes = entry.canonicalBytes := by
  have he : asBytes "" = [] := rfl
  simp [canonicalBytes, canonicalEntryBytes, moveEntryType, he]

theorem hashedFields_moveEntryType_ne (h : entry.entryType ≠ "") :
    entry.moveEntryType.hashedFields ≠ entry.hashedFields := by
  simp [hashedFields, moveEntryType, Ne.symm h]

theorem recomputedHash_eq [Sha256] : entry.recomputedHash = sha256Hex entry.canonicalBytes :=
  rfl

theorem previousHash_eq_of_canonicalBytes_eq (hb : entry.canonicalBytes = entry'.canonicalBytes)
    (hl : (asBytes entry.previousHash).length = (asBytes entry'.previousHash).length) :
    entry.previousHash = entry'.previousHash :=
  asBytes_injective <| List.append_inj_right' hb hl

structure SameLengths (entry entry' : LedgerEntryRecord) : Prop where
  entryType    : (asBytes entry.entryType).length    = (asBytes entry'.entryType).length
  agentId      : (asBytes entry.agentId).length      = (asBytes entry'.agentId).length
  content      : entry.content.length                = entry'.content.length
  contentType  : (asBytes entry.contentType).length  = (asBytes entry'.contentType).length
  sourceId     : (asBytes entry.sourceId).length     = (asBytes entry'.sourceId).length
  previousHash : (asBytes entry.previousHash).length = (asBytes entry'.previousHash).length

-- The boundaries between the fields are all that the encoding loses.
theorem SameLengths.hashedFields_eq (l : SameLengths entry entry')
    (h : entry.canonicalBytes = entry'.canonicalBytes) :
    entry.hashedFields = entry'.hashedFields := by
  have ⟨h, ep⟩ := List.append_inj' h l.previousHash
  simp only [List.append_assoc] at h
  have ⟨et, h⟩ := List.append_inj h l.entryType
  have ⟨ea, h⟩ := List.append_inj h l.agentId
  have ⟨ec, h⟩ := List.append_inj h l.content
  have ⟨ey, h⟩ := List.append_inj h l.contentType
  have ⟨es, ew⟩ := List.append_inj h l.sourceId
  simp only [hashedFields, Prod.mk.injEq]
  exact ⟨asBytes_injective et, asBytes_injective ea, ec, asBytes_injective ey,
    asBytes_injective es, intRepr_injective <| asBytes_injective ew, asBytes_injective ep⟩

end LedgerEntryRecord

section VerifyEntry

def InMemoryLedgerRepository.replaceEntry
    (repo : InMemoryLedgerRepository) (id : Uuid) (entry : LedgerEntryRecord) :
    InMemoryLedgerRepository :=
  { repo with entries := repo.entries.insert id entry }

variable [Sha256] {config : AppConfig} {repo : InMemoryLedgerRepository}
variable {entry entry' : LedgerEntryRecord} {id : Uuid}

theorem verifyEntry_replaceEntry :
    (∃ out, verifyEntry config (repo.replaceEntry id entry) id = .ok out ∧ out.hashValid = false) ↔
      entry.recomputedHash ≠ entry.entryHash := by
  have hg : LedgerRepository.getEntry (repo.replaceEntry id entry) id = .ok entry := by
    simp [LedgerRepository.getEntry, InMemoryLedgerRepository.getEntry,
      InMemoryLedgerRepository.replaceEntry]
  rw [verifyEntry_eq hg]
  split
  case isTrue  => simp [verified]
  case isFalse => simp [verified, LedgerRepository.getEntriesByType, Except.mapError, Except.map]

-- Whatever is written into the hashed fields of the entry, while its hash is kept, is noticed.
def TamperEvident (config : AppConfig) (repo : InMemoryLedgerRepository) (id : Uuid)
    (entry : LedgerEntryRecord) : Prop :=
  ∀ entry' : LedgerEntryRecord, entry'.entryHash = entry.entryHash →
    entry'.hashedFields ≠ entry.hashedFields →
    ∃ out, verifyEntry config (repo.replaceEntry id entry') id = .ok out ∧ out.hashValid = false

theorem not_tamperEvident (ht : entry.entryType ≠ "") (hh : entry.entryHash = entry.recomputedHash) :
    ¬TamperEvident config repo id entry := by
  intro h
  have hm := h entry.moveEntryType rfl (LedgerEntryRecord.hashedFields_moveEntryType_ne ht)
  apply verifyEntry_replaceEntry.mp hm
  rw [LedgerEntryRecord.recomputedHash_eq, LedgerEntryRecord.canonicalBytes_moveEntryType]
  exact hh.symm

theorem tampering_detected_of_sameLengths
    (hh : entry.entryHash = entry.recomputedHash) (hk : entry'.entryHash = entry.entryHash)
    (hc : Set.InjOn sha256Hex {entry.canonicalBytes, entry'.canonicalBytes})
    (hl : entry.SameLengths entry') (hn : entry'.hashedFields ≠ entry.hashedFields) :
    ∃ out, verifyEntry config (repo.replaceEntry id entry') id = .ok out ∧ out.hashValid = false := by
  apply verifyEntry_replaceEntry.mpr
  intro h
  have hb := hc (.inl rfl) (.inr rfl) (hh.symm.trans <| hk.symm.trans h.symm)
  exact hn (hl.hashedFields_eq hb).symm

end VerifyEntry

namespace WriteEntry

section Stored

variable [Sha256] {config : AppConfig} {input : WriteEntryInput} {env : Env}
variable {svc : ImmutableLedgerService InMemoryLedgerRepository}

-- A call that accesses the repository has passed the validation of its input.
def Validated (input : WriteEntryInput) : Pc → Prop
  | .start | .returned _ => True
  | _                    => input.entryType ≠ ""

theorem step_validated (h : Validated input pc) :
    Validated input (step config input env svc pc).2 := by
  cases pc <;> simp only [step, begin, idempotent, chainTip, written, violated]
  case start =>
    split
    case _      => trivial
    case _ _ hv =>
      have ht : input.entryType ≠ "" := by
        intro ht
        simp [WriteEntryInput.validate, ht] at hv
      split
      case isTrue  => trivial
      case isFalse => split <;> exact ht
  all_goals
    repeat' split
    all_goals trivial

structure Genuine (entry : LedgerEntryRecord) : Prop where
  entryType : entry.entryType ≠ ""
  hash      : entry.entryHash = entry.recomputedHash

def AllGenuine (repo : InMemoryLedgerRepository) : Prop :=
  ∀ id entry, repo.entries.lookup id = some entry → Genuine entry

theorem step_allGenuine (hv : Validated input pc) (h : AllGenuine svc.repo) :
    AllGenuine (step config input env svc pc).1.repo := by
  by_cases hp : ∃ a prev, pc = .writeEntryWithOutbox a prev
  case neg => rwa [step_repo fun a prev hw => hp ⟨a, prev, hw⟩]
  case pos =>
    have ⟨a, prev, hw⟩ := hp
    subst hw
    rw [step_write_shared]
    simp only [LedgerRepository.writeEntryWithOutbox, InMemoryLedgerRepository.writeEntryWithOutbox]
    repeat' split
    case isFalse.isFalse =>
      intro id entry he
      simp only [InMemoryLedgerRepository.insertEntry, HashMap.lookup_insert] at he
      split at he
      case isTrue  => exact Option.some.inj he ▸ ⟨hv, rfl⟩
      case isFalse => exact h id entry he
    all_goals exact h

end Stored

section Run

variable [Sha256] [DecidableEq ι] {config : AppConfig} {calls : ι → WriteEntryInput}
variable {g : Guard ι (ImmutableLedgerService InMemoryLedgerRepository) Pc Env}
variable {s : State ι InMemoryLedgerRepository} {entry : LedgerEntryRecord} {id : Uuid}

def storedOutline (config : AppConfig) (calls : ι → WriteEntryInput)
    (g : Guard ι (ImmutableLedgerService InMemoryLedgerRepository) Pc Env) :
    Outline (writers config calls) g where
  inv svc    := AllGenuine svc.repo
  asn i pc _ := Validated (calls i) pc
  keeps := by
    intro _ _ _ h hv _ _
    rw [State.next_locals_self]
    exact ⟨step_allGenuine hv h, step_validated hv⟩
  stable _ _ _ h _ _ := h

theorem storedOutline_init : (storedOutline config calls g).Holds <| State.init ι {} where
  inv _ _ h := by simp [State.init] at h
  asn _     := trivial

theorem run_not_tamperEvident (r : Run (writers config calls) .any (State.init ι {}) s)
    (h : s.shared.repo.entries.lookup id = some entry) :
    (entry.entryHash = entry.recomputedHash) ∧
    ¬TamperEvident config s.shared.repo id entry := by
  have g := (storedOutline_init.run r).inv id entry h
  exact ⟨g.hash, not_tamperEvident g.entryType g.hash⟩

end Run

section Sample

open scoped Sha256.Standard

def sampleEntry : LedgerEntryRecord where
  entryId        := 0
  entryType      := "ACTION_RECEIPT"
  agentId        := "agent-0"
  content        := []
  contentType    := "application/json"
  sourceId       := "source"
  correlationId  := none
  idempotencyKey := some "key-0"
  entryHash      := canonicalEntryHash "ACTION_RECEIPT" "agent-0" [] "application/json" "source"
    1700000000000 sampleConfig.genesisHash
  previousHash   := sampleConfig.genesisHash
  chainPosition  := 1
  writtenTs      := 1700000000000000000

theorem lookup_sampleEntry : sampleState.shared.repo.entries.lookup 0 = some sampleEntry := by
  decide +kernel

theorem run_not_tamperEvident_sampleEntry :
    (sampleState.shared.repo.entries.lookup 0 = some sampleEntry) ∧
    ¬TamperEvident sampleConfig sampleState.shared.repo 0 sampleEntry :=
  ⟨lookup_sampleEntry, (run_not_tamperEvident sampleRun lookup_sampleEntry).right⟩

-- The text `agent-` is moved from the agent's identifier to the type of the entry.
def movedEntry : LedgerEntryRecord :=
  { sampleEntry with entryType := "ACTION_RECEIPTagent-", agentId := "0" }

theorem movedEntry_undetected :
    (sampleState.shared.repo.getEntry 0 = .ok sampleEntry) ∧
    (movedEntry.entryHash = sampleEntry.entryHash) ∧
    (movedEntry.hashedFields ≠ sampleEntry.hashedFields) ∧
    (movedEntry.canonicalBytes = sampleEntry.canonicalBytes) ∧
    (verifyEntry sampleConfig (sampleState.shared.repo.replaceEntry 0 movedEntry) 0 =
      .ok { entryId := 0, hashValid := true, chainLinkValid := true, failureReason := "" }) := by
  refine ⟨?stored, rfl, ?_, ?_, ?_⟩
  case stored => simp only [InMemoryLedgerRepository.getEntry, lookup_sampleEntry]
  all_goals decide +kernel

end Sample

end WriteEntry

end Ledger
