import AreFoundation.Ledger.Theorems.Tampering

namespace Ledger

section Commitment

-- Everything that is hashed when the two chains are verified.
def hashInputs (config : AppConfig) (es fs : List LedgerEntryRecord) : List (List UInt8) :=
  asBytes config.genesisHashInput :: (es ++ fs).map (·.canonicalBytes)

theorem canonicalBytes_mem_hashInputs (h : e ∈ es ++ fs) :
    e.canonicalBytes ∈ hashInputs config es fs :=
  .tail _ <| List.mem_map_of_mem h

variable [Sha256] {config : AppConfig} {es fs : List LedgerEntryRecord} {e : LedgerEntryRecord}

theorem length_previousHash (h : (format config).Linked config.genesisHash es) (he : e ∈ es) :
    (asBytes e.previousHash).length = 64 := by
  have ⟨b, hb⟩ := h.exists_digest_eq_prev he
  have hb : e.previousHash = sha256Hex b := hb
  simp [hb]

-- An encoding ends with the previous hash, which makes it longer than the genesis input.
theorem canonicalBytes_ne_genesis (hg : (asBytes config.genesisHashInput).length < 64)
    (h : (format config).Linked config.genesisHash es) (he : e ∈ es) :
    e.canonicalBytes ≠ asBytes config.genesisHashInput := by
  intro hb
  have hl := congrArg List.length hb
  simp only [LedgerEntryRecord.canonicalBytes, canonicalEntryBytes, List.length_append,
    length_previousHash h he] at hl
  omega

theorem tip_commits_to_chain
    (hg : (asBytes config.genesisHashInput).length < 64)
    (hc : {b | b ∈ hashInputs config es fs}.InjOn sha256Hex)
    (pe : es.map (·.chainPosition) = positionsUpTo es.length)
    (pf : fs.map (·.chainPosition) = positionsUpTo fs.length)
    (ve : (checkEntries config 0 none es).chainValid)
    (vf : (checkEntries config 0 none fs).chainValid)
    (ht : es.getLast?.map (·.entryHash) = fs.getLast?.map (·.entryHash)) :
    (es.length = fs.length) ∧
    (es.map fun e => (e.entryHash, e.previousHash, e.canonicalBytes)) =
      (fs.map fun f => (f.entryHash, f.previousHash, f.canonicalBytes)) := by
  have le := (wellFormed_iff_linkedFromLowest pe).mpr (checkEntries_none_chainValid.mp ve) |>.linked
  have lf := (wellFormed_iff_linkedFromLowest pf).mpr (checkEntries_none_chainValid.mp vf) |>.linked
  have tips :
      (format config).tip config.genesisHash es = (format config).tip config.genesisHash fs := by
    have tip : ∀ es, (format config).tip config.genesisHash es =
        (es.getLast?.map (·.entryHash)).getD config.genesisHash := by
      intro es
      unfold HashChain.Format.tip
      cases es.getLast? <;> rfl
    rw [tip, tip, ht]
  have prev : ∀ e ∈ es, ∀ f ∈ fs, e.canonicalBytes = f.canonicalBytes →
      e.previousHash = f.previousHash := by
    intro e he f hf hb
    apply LedgerEntryRecord.previousHash_eq_of_canonicalBytes_eq hb
    rw [length_previousHash le he, length_previousHash lf hf]
  have heq := HashChain.Format.Linked.eq_of_tip_eq hc (.head _) prev
    (fun e he => ⟨canonicalBytes_mem_hashInputs <| List.mem_append_left _ he,
      canonicalBytes_ne_genesis hg le he⟩)
    (fun f hf => ⟨canonicalBytes_mem_hashInputs <| List.mem_append_right _ hf,
      canonicalBytes_ne_genesis hg lf hf⟩)
    le lf tips
  exact ⟨by simpa using congrArg List.length heq, heq⟩

end Commitment

section Sample

open scoped Sha256.Standard
open WriteEntry

def nextEntry : LedgerEntryRecord :=
  let entry :=
    { sampleEntry with entryId := 2, previousHash := sampleEntry.entryHash, chainPosition := 2 }
  { entry with entryHash := entry.recomputedHash }

def sampleChain : List LedgerEntryRecord :=
  [sampleEntry, nextEntry]

-- A chain of other entries whose encodings agree.
def movedChain : List LedgerEntryRecord :=
  sampleChain.map (·.moveEntryType)

theorem tip_commits_to_chain_movedChain :
    (∀ e ∈ sampleChain, e ∉ movedChain) ∧
    (sampleChain.map fun e => (e.entryHash, e.previousHash, e.canonicalBytes)) =
      (movedChain.map fun f => (f.entryHash, f.previousHash, f.canonicalBytes)) := by
  have collisionFree : ∀ b ∈ hashInputs sampleConfig sampleChain movedChain,
      ∀ b' ∈ hashInputs sampleConfig sampleChain movedChain,
        sha256Hex b = sha256Hex b' → b = b' := by decide +kernel
  have ⟨_, h⟩ := tip_commits_to_chain (by decide) (fun b hb b' hb' => collisionFree b hb b' hb')
    rfl rfl (by decide +kernel) (by decide +kernel) rfl
  exact ⟨by decide +kernel, h⟩

end Sample

end Ledger
