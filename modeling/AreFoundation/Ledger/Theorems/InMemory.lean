import AreFoundation.Ledger.Chain

namespace Ledger.InMemoryLedgerRepository

variable {repo : InMemoryLedgerRepository} {input : EntryWriteInput} {ids : NewIds}

theorem not_mem_entries_of_fresh (h : ids.Fresh repo) : ids.entryId ∉ repo.entries := by
  have hn := h.entryId
  simp only [LedgerRepository.idsInUse, Finset.mem_union, not_or] at hn
  exact hn.left

variable [Sha256] {config : AppConfig}

-- The repository as a refinement of one abstract chain per entry type.
structure Represents (repo : InMemoryLedgerRepository) (chains : String → Chain config) : Prop where
  listed : ∀ t, repo.getEntriesByType t = (chains t).entries
  tips   : ∀ t, repo.chainTips.lookup t = (chains t).tip?
  stored : ∀ {t is id}, repo.orderedByType.lookup t = some is → id ∈ is → id ∈ repo.entries

-- The repository accepts an entry for a chain if it follows the tip. For an empty chain it only
-- requires that there is something to follow.
def Accepts (c : Chain config) (previousHash : String) : Prop :=
  match c.tip? with
  | none     => previousHash ≠ ""
  | some tip => tip.hash = previousHash

theorem accepts_iff {c : Chain config} : Accepts c previousHash ↔ Continues c.entries previousHash := by
  unfold Accepts Continues Chain.tip?
  cases c.entries.getLast? <;> rfl

namespace Represents

variable {chains : String → Chain config}

theorem init : Represents {} (fun _ => (Chain.empty : Chain config)) where
  listed _ := rfl
  tips _   := rfl
  stored h := by simp at h

theorem tracks (r : Represents repo chains) (t : String) : repo.Tracks t (chains t).entries :=
  ⟨r.tips t, (chains t).wellFormed.positions⟩

theorem getChainTip (r : Represents repo chains) (t : String) :
    repo.getChainTip t = (chains t).tip?.elim (.error .notFound) .ok := by
  unfold InMemoryLedgerRepository.getChainTip
  rw [r.tips]
  cases (chains t).tip? <;> rfl

theorem lookup_ordered_mem (r : Represents repo chains)
    (hi : i ∈ (repo.orderedByType.lookup t).getD []) : i ∈ repo.entries := by
  cases h : repo.orderedByType.lookup t
  case none => simp [h] at hi
  case some => exact r.stored h (by simpa [h] using hi)

theorem insertEntry (r : Represents repo chains) (hf : ids.entryId ∉ repo.entries)
    (h : (chains input.entryType).Extends (input.toEntry ids p)) :
    Represents (repo.insertEntry input ids p) <|
      Function.update chains input.entryType ((chains input.entryType).append _ h) where
  listed t := by
    -- None of the identifiers already listed is the new one, so their entries are still found.
    have old : ∀ t, ((repo.orderedByType.lookup t).getD []).filterMap
        ((repo.entries.insert ids.entryId (input.toEntry ids p)).lookup ·) = (chains t).entries := by
      intro t
      rw [← r.listed, getEntriesByType_eq]
      apply List.filterMap_congr
      intro i hi
      have hn : i ≠ ids.entryId := (hf <| · ▸ r.lookup_ordered_mem hi)
      rw [HashMap.lookup_insert, if_neg hn]
    rw [getEntriesByType_eq]
    simp only [InMemoryLedgerRepository.insertEntry, HashMap.lookup_insert]
    by_cases ht : t = input.entryType
    case pos =>
      subst ht
      simp [← old, HashMap.lookup_insert]
    case neg => simp [ht, old, ← HashMap.lookup_insert]
  tips t := by
    simp only [InMemoryLedgerRepository.insertEntry, HashMap.lookup_insert]
    by_cases ht : t = input.entryType
    case pos => subst ht; simp
    case neg => simp [ht, r.tips]
  stored {t is id} hl hi := by
    simp only [InMemoryLedgerRepository.insertEntry, HashMap.lookup_insert] at hl
    simp only [InMemoryLedgerRepository.insertEntry, Finmap.mem_insert]
    split at hl
    case isTrue =>
      have := Option.some.inj hl ▸ hi
      cases List.mem_append.mp this
      case inl h => exact .inr <| r.lookup_ordered_mem h
      case inr h => exact .inl <| by simpa using h
    case isFalse => exact .inr <| r.stored hl hi

theorem writeEntryWithOutbox_ok
    (r : Represents repo chains) (input : EntryWriteInput) (ids : NewIds)
    (h : Accepts (chains input.entryType) input.previousHash) :
    repo.writeEntryWithOutbox input ids =
      (.ok ⟨input.toEntry ids ((chains input.entryType).entries.length + 1), input.toOutbox ids⟩,
        repo.insertEntry input ids ((chains input.entryType).entries.length + 1)) :=
  (r.tracks input.entryType).writeEntryWithOutbox_ok ids <| accepts_iff.mp h

theorem writeEntryWithOutbox_error
    (r : Represents repo chains) (input : EntryWriteInput) (ids : NewIds)
    (h : ¬Accepts (chains input.entryType) input.previousHash) :
    repo.writeEntryWithOutbox input ids = (.error .chainIntegrityViolation, repo) :=
  (r.tracks input.entryType).writeEntryWithOutbox_error ids <| h ∘ accepts_iff.mpr

end Represents

end Ledger.InMemoryLedgerRepository
