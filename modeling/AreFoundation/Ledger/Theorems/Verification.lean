import AreFoundation.Ledger.Theorems.Writers

namespace Ledger

section Positions

variable {entries es : List LedgerEntryRecord}

theorem one_le_of_positions
    (h : (sortByPosition entries).map (·.chainPosition) = positionsUpTo n) (he : e ∈ entries) :
    1 ≤ e.chainPosition := by
  have hm : e.chainPosition ∈ (sortByPosition entries).map (·.chainPosition) :=
    List.mem_map_of_mem <| (List.perm_insertionSort _ _).mem_iff.mpr he
  simp only [h, positionsUpTo, List.mem_map, List.mem_range] at hm
  obtain ⟨_, _, hp⟩ := hm
  omega

theorem position_head_of_positions (h : es.map (·.chainPosition) = positionsUpTo n)
    (he : es.head? = some e) : e.chainPosition = 1 := by
  have hp := congrArg List.head? h
  rw [List.head?_map, he] at hp
  cases n
  case zero   => simp [positionsUpTo] at hp
  case succ n => simpa [positionsUpTo, List.range_succ_eq_map] using hp

end Positions

section VerifyEntry

variable [Sha256] {config : AppConfig} {entry : LedgerEntryRecord} {id : Uuid}

-- The repository is asked for the chain only if there is an entry before.
theorem verifyEntry_eq [LedgerRepository ρ] {repo : ρ}
    (h : LedgerRepository.getEntry repo id = .ok entry) :
    verifyEntry config repo id =
      if entry.chainPosition = 1 then
        .ok <| verified id entry (entry.previousHash == config.genesisHash)
      else
        ((LedgerRepository.getEntriesByType repo entry.entryType).mapError mapRepo).map
          (verified id entry <| linked entry ·) := by
  simp only [verifyEntry, h, Except.mapError, bind, Except.bind, pure, Except.pure]
  by_cases hp : entry.chainPosition = 1
  case pos => simp only [hp, if_true]
  case neg =>
    simp only [hp, if_false]
    cases LedgerRepository.getEntriesByType repo entry.entryType <;> rfl

end VerifyEntry

section VerifyChain

variable [Sha256] {config : AppConfig} {entries es : List LedgerEntryRecord}

-- What the loop of `verify_chain` checks. The positions of the entries are only used to decide
-- whether the first one has to follow the genesis hash.
structure LinkedFromLowest (config : AppConfig) (entries : List LedgerEntryRecord) : Prop where
  genesis : ∀ e ∈ entries.head?, e.chainPosition = 1 → e.previousHash = config.genesisHash
  links   : entries.IsChain (fun e₁ e₂ => e₂.previousHash = e₁.entryHash)
  hashes  : ∀ e ∈ entries, e.entryHash = e.recomputedHash

theorem checkEntries_some_chainValid (idx : Nat) (prev : LedgerEntryRecord) :
    (checkEntries config idx (some prev) es).chainValid ↔
      (format config).Linked prev.entryHash es := by
  induction es generalizing idx prev
  case nil => simp [checkEntries, HashChain.Format.Linked]
  case cons e es hi =>
    simp only [checkEntries, HashChain.Format.Linked]
    split
    case isTrue hp => simp [hp]
    case isFalse hp =>
      rw [not_not] at hp
      split
      case isTrue hh  => exact ⟨by simp, fun h => absurd h.right.left hh⟩
      case isFalse hh => exact (hi _ e).trans ⟨(⟨hp, not_not.mp hh, ·⟩), (·.right.right)⟩

theorem checkEntries_none_chainValid :
    (checkEntries config idx none es).chainValid ↔ LinkedFromLowest config es := by
  cases es
  case nil => exact iff_of_true rfl ⟨by simp, .nil, by simp⟩
  case cons e es =>
    have hd : (LinkedFromLowest config (e :: es)) ↔
        (e.chainPosition = 1 → e.previousHash = config.genesisHash) ∧
        e.entryHash = e.recomputedHash ∧ (format config).Linked e.entryHash es := by
      rw [HashChain.Format.linked_iff]
      constructor
      case mp =>
        intro ⟨hg, hl, hh⟩
        rw [List.isChain_cons] at hl
        exact ⟨hg e rfl, hh e (by simp), hl.left, hl.right, fun f hf => hh f (by simp [hf])⟩
      case mpr =>
        intro ⟨hg, he, hp, hl, hh⟩
        refine ⟨by simpa using hg, List.isChain_cons.mpr ⟨hp, hl⟩, ?_⟩
        exact List.forall_mem_cons.mpr ⟨he, hh⟩
    rw [hd, ← checkEntries_some_chainValid (idx + 1) e]
    simp only [checkEntries]
    by_cases hp : e.chainPosition = 1
    all_goals
      simp only [hp, if_true, if_false]
      repeat' split
      all_goals simp_all

-- Without bounds the range only excludes the entries below position 1.
theorem verifyChain_unbounded [LedgerRepository ρ] {repo : ρ}
    (h : LedgerRepository.getEntriesByType repo t = .ok entries) :
    verifyChain config repo t none none =
      .ok (checkEntries config 0 none <| sortByPosition <| entries.filter (1 ≤ ·.chainPosition)) := by
  have max : ∀ e ∈ entries, e.chainPosition ≤ (entries.map (·.chainPosition)).max?.getD 0 := by
    intro e he
    have hm : e.chainPosition ∈ entries.map (·.chainPosition) := List.mem_map_of_mem he
    cases hx : (entries.map (·.chainPosition)).max?
    case none   => simp [List.max?_eq_none_iff.mp hx] at hm
    case some m => exact (List.max?_eq_some_iff.mp hx).right _ hm
  have range : (entries.filter fun e => 1 ≤ e.chainPosition ∧
      e.chainPosition ≤ (entries.map (·.chainPosition)).max?.getD 0) =
      entries.filter (1 ≤ ·.chainPosition) := by
    apply List.filter_congr
    intro e he
    simp [max e he]
  cases entries
  case nil =>
    simp [verifyChain, checkChain, h, bind, Except.bind, Except.mapError, pure, Except.pure, sortByPosition,
      checkEntries]
  case cons =>
    simp only [verifyChain, checkChain, h, bind, Except.bind, Except.mapError, boundPosition, pure, Except.pure,
      List.isEmpty_cons, Bool.false_eq_true, if_false, range]

-- For the positions `1, 2, ..., n` the loop checks exactly what makes a chain well-formed.
theorem wellFormed_iff_linkedFromLowest
    (h : es.map (·.chainPosition) = positionsUpTo es.length) :
    (WellFormed config es) ↔ LinkedFromLowest config es where
  mp  := fun ⟨_, hg, hl, hh⟩ => ⟨fun e he _ => hg e he, hl, hh⟩
  mpr := fun ⟨hg, hl, hh⟩ => ⟨h, fun e he => hg e he <| position_head_of_positions h he, hl, hh⟩

theorem verifyChain_exact_iff [LedgerRepository ρ] {repo : ρ}
    (h : LedgerRepository.getEntriesByType repo t = .ok entries) :
    ((∃ out, verifyChain config repo t none none = .ok out ∧ out.chainValid) ↔
        WellFormed config (sortByPosition entries)) ↔
      ((sortByPosition entries).map (·.chainPosition) = positionsUpTo entries.length ∨
        ¬LinkedFromLowest config (sortByPosition <| entries.filter (1 ≤ ·.chainPosition))) := by
  have len : (sortByPosition entries).length = entries.length := List.length_insertionSort _ _
  simp only [verifyChain_unbounded h, Except.ok.injEq, exists_eq_left', checkEntries_none_chainValid]
  by_cases hp : (sortByPosition entries).map (·.chainPosition) = positionsUpTo entries.length
  case pos =>
    have all : entries.filter (1 ≤ ·.chainPosition) = entries :=
      List.filter_eq_self.mpr fun e he => decide_eq_true <| one_le_of_positions hp he
    rw [all, wellFormed_iff_linkedFromLowest (len ▸ hp)]
    exact iff_of_true .rfl (.inl hp)
  case neg =>
    -- Such a chain is not well-formed, so the check has to fail.
    have hw : ¬WellFormed config (sortByPosition entries) := fun w => hp <| len ▸ w.positions
    simp [hp, hw]

end VerifyChain

section Sample

open scoped Sha256.Standard
open WriteEntry

theorem verifyChain_exact_sampleState :
    (∃ out, verifyChain sampleConfig sampleState.shared.repo "ACTION_RECEIPT" none none = .ok out ∧
        out.chainValid) ↔
      WellFormed sampleConfig
        (sortByPosition <| sampleState.shared.repo.getEntriesByType "ACTION_RECEIPT") := by
  apply (verifyChain_exact_iff rfl).mpr
  exact .inl <| by decide +kernel

-- The first of the two entries is deleted.
def truncatedRepo : InMemoryLedgerRepository :=
  { sampleState.shared.repo with entries := sampleState.shared.repo.entries.erase 0 }

theorem verifyChain_accepts_truncatedRepo :
    (verifyChain sampleConfig truncatedRepo "ACTION_RECEIPT" none none =
      .ok { chainValid := true, entriesChecked := 1, firstInvalidEntryId := none,
            failureReason := "" }) ∧
    ¬WellFormed sampleConfig
      (sortByPosition <| truncatedRepo.getEntriesByType "ACTION_RECEIPT") := by
  have positions : (sortByPosition <| truncatedRepo.getEntriesByType "ACTION_RECEIPT").map
      (·.chainPosition) = [2] := by
    decide +kernel
  refine ⟨by decide +kernel, fun w => ?_⟩
  have first := w.positions
  rw [← List.length_map (·.chainPosition), positions] at first
  exact absurd first (by decide)

end Sample

end Ledger
