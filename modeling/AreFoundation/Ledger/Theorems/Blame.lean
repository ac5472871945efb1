import AreFoundation.Library.SortByKey
import AreFoundation.Ledger.Theorems.HonestChains

namespace Ledger

section Positions

variable {entries front back : List LedgerEntryRecord} {e : LedgerEntryRecord}

theorem pairwise_sortByPosition (h : (entries.map (·.chainPosition)).Nodup) :
    (sortByPosition entries).Pairwise (·.chainPosition < ·.chainPosition) :=
  SortByKey.pairwise_lt h

-- The entries that are sorted up to an entry are those with a position up to the one of the entry.
theorem countP_of_sorted (hs : (front ++ e :: back).Pairwise (·.chainPosition < ·.chainPosition)) :
    (front ++ e :: back).countP (·.chainPosition ≤ e.chainPosition) = front.length + 1 := by
  obtain ⟨-, hb, hf⟩ := List.pairwise_append.mp hs
  have before : front.countP (·.chainPosition ≤ e.chainPosition) = front.length :=
    List.countP_eq_length.mpr fun f h => decide_eq_true (hf f h e List.mem_cons_self).le
  have after : back.countP (·.chainPosition ≤ e.chainPosition) = 0 :=
    List.countP_eq_zero.mpr fun b h => by simpa using (List.pairwise_cons.mp hb).left b h
  rw [List.countP_append, List.countP_cons, before, after]
  simp

-- Between an entry and the last one before it there is no other position.
theorem eq_of_predecessor {prev candidate : LedgerEntryRecord}
    (hs : (front ++ e :: back).Pairwise (·.chainPosition < ·.chainPosition))
    (hp : front.getLast? = some prev) (hc : candidate ∈ front ++ e :: back)
    (h : candidate.chainPosition = e.chainPosition - 1) : candidate = prev := by
  obtain ⟨init, rfl⟩ := List.getLast?_eq_some_iff.mp hp
  obtain ⟨hf, hb, hfb⟩ := List.pairwise_append.mp hs
  have hlt := hfb prev (by simp) e List.mem_cons_self
  rcases List.mem_append.mp hc with hc | hc
  case inl =>
    rcases List.mem_append.mp hc with hc | hc
    case inl =>
      have := (List.pairwise_append.mp hf).right.right candidate hc prev (by simp)
      omega
    case inr => exact List.mem_singleton.mp hc
  case inr =>
    rcases List.mem_cons.mp hc with rfl | hc
    case inl => omega
    case inr =>
      have := (List.pairwise_cons.mp hb).left candidate hc
      omega

end Positions

section Verdicts

variable [Sha256] [LedgerRepository ρ] {config : AppConfig} {repo : ρ} {e : LedgerEntryRecord}
variable {entries es : List LedgerEntryRecord} {prev : Option LedgerEntryRecord}

-- The link of an entry to what the loop has seen before it.
def LinkBroken (config : AppConfig) (e : LedgerEntryRecord) : Option LedgerEntryRecord → Prop
  | some prev => e.previousHash ≠ prev.entryHash
  | none      => e.chainPosition = 1 ∧ e.previousHash ≠ config.genesisHash

-- Where the loop of `verify_chain` has stopped.
structure StoppedAt (config : AppConfig) (idx : Nat) (prev : Option LedgerEntryRecord)
    (front : List LedgerEntryRecord) (e : LedgerEntryRecord) (out : VerifyChainOutput) : Prop where
  id      : out.firstInvalidEntryId = some e.entryId
  checked : out.entriesChecked = idx + front.length + 1
  invalid : LinkBroken config e (front.getLast?.or prev) ∨ e.entryHash ≠ e.recomputedHash

theorem checkEntries_stoppedAt (h : (checkEntries config idx prev es).chainValid = false) :
    ∃ front e back, es = front ++ e :: back ∧
      StoppedAt config idx prev front e (checkEntries config idx prev es) := by
  fun_induction checkEntries config idx prev es
  case case1 => simp at h
  case case2 idx prev e es prevHash hl =>
    refine ⟨[], e, es, rfl, rfl, rfl, .inl ?_⟩
    cases prev
    case some prev => exact hl
    case none      =>
      by_cases hp : e.chainPosition = 1
      case pos => exact ⟨hp, by simpa [prevHash, hp] using hl⟩
      case neg => simp [prevHash, hp] at hl
  case case3 e es _ _ hh => exact ⟨[], e, es, rfl, rfl, rfl, .inr hh⟩
  case case4 e es _ _ _ hi =>
    obtain ⟨front, f, back, rfl, s⟩ := hi h
    refine ⟨e :: front, f, back, rfl, s.id, ?_, ?_⟩
    case refine_1 =>
      rw [s.checked, List.length_cons]
      omega
    case refine_2 =>
      have last : (e :: front).getLast?.or prev = front.getLast?.or (some e) := by
        rw [List.getLast?_cons]
        cases front.getLast? <;> rfl
      exact last ▸ s.invalid

theorem verifyEntry_ok (config : AppConfig) {id : Uuid}
    (hg : LedgerRepository.getEntry repo id = .ok e)
    (h : LedgerRepository.getEntriesByType repo e.entryType = .ok entries) :
    ∃ verdict, verifyEntry config repo id = .ok verdict ∧
      (verdict.hashValid = true ↔ e.recomputedHash = e.entryHash) ∧
      (verdict.chainLinkValid = true ↔
        if e.chainPosition = 1 then e.previousHash = config.genesisHash else
          ∃ prev, entries.find? (·.chainPosition == e.chainPosition - 1) = some prev ∧
            prev.entryHash = e.previousHash) := by
  by_cases hp : e.chainPosition = 1
  case pos =>
    simp [verifyEntry_eq hg, hp, verified]
  case neg =>
    refine ⟨_, by rw [verifyEntry_eq hg, if_neg hp, h]; rfl, beq_iff_eq, ?_⟩
    rw [if_neg hp]
    simp only [verified, linked]
    cases entries.find? (·.chainPosition == e.chainPosition - 1)
    case none   => simp
    case some _ => simp

-- `verify_entry` looks for the predecessor by its position, the loop takes the entry before. If
-- these are different entries, then the position that `verify_entry` looks for is missing.
theorem LinkBroken.rejected {front back : List LedgerEntryRecord}
    (h : LinkBroken config e front.getLast?)
    (hs : (front ++ e :: back).Pairwise (·.chainPosition < ·.chainPosition))
    (hm : (front ++ e :: back).Perm entries) (hp : ∀ e ∈ entries, 1 ≤ e.chainPosition) :
    ¬if e.chainPosition = 1 then e.previousHash = config.genesisHash else
      ∃ prev, entries.find? (·.chainPosition == e.chainPosition - 1) = some prev ∧
        prev.entryHash = e.previousHash := by
  cases hl : front.getLast?
  case none =>
    rw [hl] at h
    rw [if_pos h.left]
    exact h.right
  case some prev =>
    rw [hl] at h
    have mem : prev ∈ front := List.mem_of_getLast? hl
    have before := (List.pairwise_append.mp hs).right.right prev mem e List.mem_cons_self
    have first := hp prev <| hm.mem_iff.mp <| List.mem_append_left _ mem
    rw [if_neg (by omega)]
    rintro ⟨candidate, hc, he⟩
    have position : candidate.chainPosition = e.chainPosition - 1 := by
      simpa using List.find?_some hc
    have same := eq_of_predecessor hs hl (hm.mem_iff.mpr <| List.mem_of_find?_eq_some hc) position
    exact h <| same ▸ he.symm

theorem checkEntries_blames (h : LedgerRepository.getEntriesByType repo t = .ok entries)
    (hs : ∀ e ∈ entries, LedgerRepository.getEntry repo e.entryId = .ok e ∧ e.entryType = t)
    (hn : (entries.map (·.chainPosition)).Nodup) (hp : ∀ e ∈ entries, 1 ≤ e.chainPosition)
    (ho : checkEntries config 0 none (sortByPosition entries) = out)
    (hv : out.chainValid = false) :
    ∃ e ∈ entries, out.firstInvalidEntryId = some e.entryId ∧
      out.entriesChecked = entries.countP (·.chainPosition ≤ e.chainPosition) ∧
      ∃ verdict, verifyEntry config repo e.entryId = .ok verdict ∧
        (verdict.hashValid = false ∨ verdict.chainLinkValid = false) := by
  subst ho
  obtain ⟨front, e, back, he, stopped⟩ := checkEntries_stoppedAt hv
  have perm : (front ++ e :: back).Perm entries := he ▸ List.perm_insertionSort _ entries
  have sorted : (front ++ e :: back).Pairwise (·.chainPosition < ·.chainPosition) :=
    he ▸ pairwise_sortByPosition hn
  have mem : e ∈ entries := perm.mem_iff.mp <| by simp
  refine ⟨e, mem, stopped.id, ?checked, ?rejected⟩
  case checked => rw [stopped.checked, ← perm.countP_eq, countP_of_sorted sorted, Nat.zero_add]
  case rejected =>
    obtain ⟨verdict, hv, hash, link⟩ :=
      verifyEntry_ok config (hs e mem).left ((hs e mem).right ▸ h)
    refine ⟨verdict, hv, ?_⟩
    rcases stopped.invalid with broken | mismatch
    case inl =>
      rw [Option.or_none] at broken
      exact .inr <| Bool.eq_false_iff.mpr fun hl => broken.rejected sorted perm hp <| link.mp hl
    case inr => exact .inl <| Bool.eq_false_iff.mpr fun hh => mismatch (hash.mp hh).symm

theorem verifyChain_blames_verifyEntry
    (h : LedgerRepository.getEntriesByType repo t = .ok entries)
    (hs : ∀ e ∈ entries, LedgerRepository.getEntry repo e.entryId = .ok e ∧ e.entryType = t)
    (hn : (entries.map (·.chainPosition)).Nodup) (hp : ∀ e ∈ entries, 1 ≤ e.chainPosition) :
    (∀ out, verifyChain config repo t none none = .ok out → out.chainValid = false →
      ∃ e ∈ entries, out.firstInvalidEntryId = some e.entryId ∧
        out.entriesChecked = entries.countP (·.chainPosition ≤ e.chainPosition) ∧
        ∃ verdict, verifyEntry config repo e.entryId = .ok verdict ∧
          (verdict.hashValid = false ∨ verdict.chainLinkValid = false)) ∧
    ((∀ e ∈ entries, ∃ verdict, verifyEntry config repo e.entryId = .ok verdict ∧
        verdict.hashValid = true ∧ verdict.chainLinkValid = true) →
      ∃ out, verifyChain config repo t none none = .ok out ∧ out.chainValid = true) := by
  have all : entries.filter (1 ≤ ·.chainPosition) = entries :=
    List.filter_eq_self.mpr fun e he => decide_eq_true <| hp e he
  have chain : verifyChain config repo t none none =
      .ok (checkEntries config 0 none <| sortByPosition entries) := by
    rw [verifyChain_unbounded h, all]
  constructor
  case left =>
    intro out ho
    exact checkEntries_blames h hs hn hp <| Except.ok.inj (chain.symm.trans ho)
  case right =>
    intro accepted
    refine ⟨_, chain, ?_⟩
    by_contra hv
    obtain ⟨e, mem, -, -, verdict, he, invalid⟩ :=
      checkEntries_blames h hs hn hp rfl (Bool.eq_false_iff.mpr hv)
    obtain ⟨verdict', he', hash, link⟩ := accepted e mem
    obtain rfl := Except.ok.inj (he.symm.trans he')
    simp [hash, link] at invalid

end Verdicts

section Sample

open scoped Sha256.Standard

def looseEntry (entryId : Uuid) (chainPosition : Int) (previousHash : String) :
    LedgerEntryRecord where
  entryId        := entryId
  entryType      := "ACTION_RECEIPT"
  agentId        := "agent-0"
  content        := []
  contentType    := "application/json"
  sourceId       := "source"
  correlationId  := none
  idempotencyKey := none
  entryHash      := "stored"
  previousHash   := previousHash
  chainPosition  := chainPosition
  writtenTs      := 1700000000000000000

-- Two entries with a gap between them, the later one stored first.
def looseRepo : InMemoryLedgerRepository where
  entries       := (Finmap.singleton 0 (looseEntry 0 3 "stored")).insert 1 (looseEntry 1 1 "other")
  orderedByType := Finmap.singleton "ACTION_RECEIPT" [0, 1]

theorem verifyChain_blames_verifyEntry_looseRepo :
    ∃ verdict, verifyEntry ⟨1024, "genesis"⟩ looseRepo 1 = .ok verdict ∧
      (verdict.hashValid = false ∨ verdict.chainLinkValid = false) := by
  have stopped : verifyChain ⟨1024, "genesis"⟩ looseRepo "ACTION_RECEIPT" none none =
      .ok { chainValid := false, entriesChecked := 1, firstInvalidEntryId := some 1,
            failureReason := "chain_link_mismatch" } := by
    decide +kernel
  have stored : ∀ e ∈ looseRepo.getEntriesByType "ACTION_RECEIPT",
      LedgerRepository.getEntry looseRepo e.entryId = .ok e ∧ e.entryType = "ACTION_RECEIPT" := by
    decide +kernel
  obtain ⟨e, -, hid, -, verdict⟩ := (verifyChain_blames_verifyEntry rfl stored (by decide +kernel)
    (by decide +kernel)).left _ stopped rfl
  exact Option.some.inj hid ▸ verdict

end Sample

end Ledger
