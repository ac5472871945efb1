import AreFoundation.Library.HashChain
import AreFoundation.Ledger.Service

namespace Ledger

-- The positions `1, 2, ..., n`.
def positionsUpTo (n : Nat) : List Int :=
  (List.range n).map fun i : Nat => (i : Int) + 1

theorem positionsUpTo_succ (n : Nat) :
    positionsUpTo (n + 1) = positionsUpTo n ++ [(n : Int) + 1] := by
  simp [positionsUpTo, List.range_succ]

theorem position_getLast_of_positions {entries : List LedgerEntryRecord}
    (hp : entries.map (·.chainPosition) = positionsUpTo entries.length)
    (h : entries.getLast? = some e) : e.chainPosition = entries.length := by
  have hp := congrArg List.getLast? hp
  rw [List.getLast?_map, h] at hp
  cases hl : entries.length
  case zero   => simp [hl, positionsUpTo] at hp
  case succ n => simpa [hl, positionsUpTo_succ] using hp

theorem pairwise_of_positions {entries : List LedgerEntryRecord}
    (hp : entries.map (·.chainPosition) = positionsUpTo n) :
    entries.Pairwise (·.chainPosition < ·.chainPosition) := by
  rw [← List.pairwise_map, hp, positionsUpTo, List.pairwise_map]
  exact List.pairwise_lt_range.imp fun h => by omega

theorem sortByPosition_of_positions {entries : List LedgerEntryRecord}
    (hp : entries.map (·.chainPosition) = positionsUpTo n) : sortByPosition entries = entries :=
  (pairwise_of_positions hp).imp Int.le_of_lt |>.insertionSort_eq

theorem maxOn?_of_positions {entries : List LedgerEntryRecord}
    (hp : entries.map (·.chainPosition) = positionsUpTo n) :
    entries.maxOn? (·.chainPosition) = entries.getLast? := by
  have hs := pairwise_of_positions hp
  cases hl : entries.getLast?
  case none => rw [List.getLast?_eq_none_iff.mp hl]; rfl
  case some last =>
    obtain ⟨init, rfl⟩ := List.getLast?_eq_some_iff.mp hl
    rw [List.maxOn?_eq_some_maxOn (List.concat_ne_nil last init)]
    have hm := List.maxOn_mem (h := List.concat_ne_nil last init) (f := (·.chainPosition))
    have hl := List.le_apply_maxOn_of_mem (f := (·.chainPosition))
      (List.mem_append_right init (List.mem_singleton_self last))
    cases List.mem_append.mp hm
    case inl h =>
      have := (List.pairwise_append.mp hs).right.right _ h last (List.mem_singleton_self last)
      omega
    case inr h => rw [List.mem_singleton.mp h]

-- The next entry of a list has to follow the last one. The first one only has to follow something.
def Continues (entries : List LedgerEntryRecord) (previousHash : String) : Prop :=
  entries.getLast?.elim (previousHash ≠ "") (·.entryHash = previousHash)

-- The repository knows where the entries of a type end.
structure InMemoryLedgerRepository.Tracks (repo : InMemoryLedgerRepository) (t : String)
    (entries : List LedgerEntryRecord) : Prop where
  tip       : repo.chainTips.lookup t = entries.getLast?.map (·.toTip)
  positions : entries.map (·.chainPosition) = positionsUpTo entries.length

namespace InMemoryLedgerRepository.Tracks

variable {repo : InMemoryLedgerRepository} {entries : List LedgerEntryRecord}
variable {input : EntryWriteInput}

theorem nextPosition (h : repo.Tracks t entries) : repo.nextPosition t = entries.length + 1 := by
  unfold InMemoryLedgerRepository.nextPosition
  rw [h.tip]
  cases hl : entries.getLast?
  case none   => simp [List.getLast?_eq_none_iff.mp hl]
  case some e => simp [LedgerEntryRecord.toTip, position_getLast_of_positions h.positions hl]

theorem getChainTip (h : repo.Tracks t entries) :
    repo.getChainTip t = entries.getLast?.elim (.error .notFound) (.ok ·.toTip) := by
  unfold InMemoryLedgerRepository.getChainTip
  rw [h.tip]
  cases entries.getLast? <;> rfl

-- The two checks before a write, taken together.
theorem continues_iff (h : repo.Tracks input.entryType entries) :
    Continues entries input.previousHash ↔
      ¬(repo.nextPosition input.entryType = 1 ∧ input.previousHash = "") ∧
      ¬(repo.nextPosition input.entryType > 1 ∧
        (repo.chainTips.lookup input.entryType).map (·.hash) ≠ some input.previousHash) := by
  rw [h.nextPosition, h.tip, Continues]
  cases hl : entries.getLast?
  case none   => simp [List.getLast?_eq_none_iff.mp hl]
  case some e =>
    have hp := List.length_pos_of_mem <| List.mem_of_getLast? hl
    have hn : ¬(entries.length + 1 : Int) = 1 := by omega
    have hg : (entries.length + 1 : Int) > 1 := by omega
    simp only [hn, hg, false_and, true_and, not_false_eq_true, not_not]
    simp [LedgerEntryRecord.toTip]

theorem writeEntryWithOutbox_ok (h : repo.Tracks input.entryType entries) (ids : NewIds)
    (hc : Continues entries input.previousHash) :
    repo.writeEntryWithOutbox input ids =
      (.ok ⟨input.toEntry ids (entries.length + 1), input.toOutbox ids⟩,
        repo.insertEntry input ids (entries.length + 1)) := by
  obtain ⟨hf, ht⟩ := h.continues_iff.mp hc
  rw [← h.nextPosition, InMemoryLedgerRepository.writeEntryWithOutbox, if_neg hf, if_neg ht]

theorem writeEntryWithOutbox_error (h : repo.Tracks input.entryType entries) (ids : NewIds)
    (hc : ¬Continues entries input.previousHash) :
    repo.writeEntryWithOutbox input ids = (.error .chainIntegrityViolation, repo) := by
  rw [h.continues_iff, not_and_or, not_not, not_not] at hc
  unfold InMemoryLedgerRepository.writeEntryWithOutbox
  dsimp only
  cases hc
  case inl hf => rw [if_pos hf]
  case inr ht => rw [if_pos ht, ite_self]

end InMemoryLedgerRepository.Tracks

variable [Sha256] {config : AppConfig}

abbrev format (config : AppConfig) : HashChain.Format LedgerEntryRecord String (List UInt8) where
  prev    := (·.previousHash)
  hash    := (·.entryHash)
  encode  := (·.canonicalBytes)
  digest  := sha256Hex
  genesis := asBytes config.genesisHashInput

-- What the ledger promises about the entries of one type, listed in the order of their positions.
structure WellFormed (config : AppConfig) (entries : List LedgerEntryRecord) : Prop where
  positions : entries.map (·.chainPosition) = positionsUpTo entries.length
  genesis   : ∀ e ∈ entries.head?, e.previousHash = config.genesisHash
  links     : entries.IsChain (fun e₁ e₂ => e₂.previousHash = e₁.entryHash)
  hashes    : ∀ e ∈ entries, e.entryHash = e.recomputedHash

namespace WellFormed

variable {entries : List LedgerEntryRecord}

theorem «def» :
    (WellFormed config entries) ↔
      (entries.map (·.chainPosition) = positionsUpTo entries.length) ∧
      (format config).Linked config.genesisHash entries where
  mp  := fun ⟨hp, hg, hl, hh⟩ => ⟨hp, HashChain.Format.linked_iff.mpr ⟨hg, hl, hh⟩⟩
  mpr := fun ⟨hp, h⟩ =>
    have ⟨hg, hl, hh⟩ := HashChain.Format.linked_iff.mp h
    ⟨hp, hg, hl, hh⟩

theorem linked (w : WellFormed config entries) : (format config).Linked config.genesisHash entries :=
  WellFormed.def.mp w |>.right

theorem nil : WellFormed config [] where
  positions := rfl
  genesis   := by simp
  links     := .nil
  hashes    := by simp

end WellFormed

-- The entries of one type as an abstract value: a list that cannot be anything but well-formed.
structure Chain (config : AppConfig) where
  entries    : List LedgerEntryRecord
  wellFormed : WellFormed config entries

namespace Chain

variable {c : Chain config} {e : LedgerEntryRecord}

def empty : Chain config where
  entries    := []
  wellFormed := .nil

def tip? (c : Chain config) : Option ChainTip :=
  c.entries.getLast?.map (·.toTip)

-- The hash that the next entry has to follow.
def lastHash (c : Chain config) : String :=
  (format config).tip config.genesisHash c.entries

theorem tip?_eq_none_iff : c.tip? = none ↔ c.entries = [] := by
  simp [tip?]

theorem lastHash_of_tip?_none (h : c.tip? = none) : c.lastHash = config.genesisHash := by
  simp [lastHash, tip?_eq_none_iff.mp h]

theorem lastHash_of_tip?_some (h : c.tip? = some tip) : c.lastHash = tip.hash := by
  have ⟨e, he, ht⟩ := Option.map_eq_some_iff.mp h
  simp [lastHash, HashChain.Format.tip, he, ← ht, LedgerEntryRecord.toTip]

structure Extends (c : Chain config) (e : LedgerEntryRecord) : Prop where
  position : e.chainPosition = c.entries.length + 1
  previous : e.previousHash = c.lastHash
  hash     : e.entryHash = e.recomputedHash

def append (c : Chain config) (e : LedgerEntryRecord) (h : c.Extends e) : Chain config where
  entries    := c.entries ++ [e]
  wellFormed := by
    refine WellFormed.def.mpr ⟨?positions, ?linked⟩
    case positions => simp [c.wellFormed.positions, positionsUpTo_succ, h.position]
    case linked =>
      exact HashChain.Format.linked_append_singleton.mpr ⟨c.wellFormed.linked, h.previous, h.hash⟩

@[simp]
theorem append_entries (h : c.Extends e) : (c.append e h).entries = c.entries ++ [e] :=
  rfl

@[simp]
theorem append_tip? (h : c.Extends e) : (c.append e h).tip? = some e.toTip := by
  simp [tip?]

end Chain

end Ledger
