import AreFoundation.Library.Sha256
import AreFoundation.Ledger.Theorems.InMemory

open Interleaving

namespace Ledger.WriteEntry

open InMemoryLedgerRepository

theorem returned_of_rank_eq_zero (h : Pc.rank pc = 0) : ∃ result, pc = .returned result := by
  cases pc <;> simp [Pc.rank] at h ⊢

section Step

variable [Sha256] [LedgerRepository ρ] {config : AppConfig} {input : WriteEntryInput} {env : Env}
variable {svc : ImmutableLedgerService ρ}

theorem step_write_shared :
    (step config input env svc <| .writeEntryWithOutbox a h).1.repo =
      (LedgerRepository.writeEntryWithOutbox svc.repo
        (input.toEntryWriteInput env.eventId env.now h) env.newIds).2 :=
  rfl

theorem step_repo (hp : ∀ a h, pc ≠ .writeEntryWithOutbox a h) :
    (step config input env svc pc).1.repo = svc.repo := by
  cases pc
  case writeEntryWithOutbox a h => exact absurd rfl (hp a h)
  case getChainTip              => simp only [step]; split <;> rfl
  all_goals rfl

theorem step_chainHalted (hp : pc ≠ .haltChain) :
    (step config input env svc pc).1.chainHalted = svc.chainHalted := by
  cases pc
  case haltChain   => exact absurd rfl hp
  case getChainTip => simp only [step]; split <;> rfl
  all_goals rfl

-- A call attempts a write only with a previous hash that it has just read.
theorem step_reads_tip (h : (step config input env svc pc).2 = .writeEntryWithOutbox a prev) :
    (pc = .getChainTip a) ∧
    ((∃ tip, LedgerRepository.getChainTip svc.repo input.entryType = .ok tip ∧ tip.hash = prev) ∨
      (LedgerRepository.getChainTip svc.repo input.entryType = .error .notFound ∧
        config.genesisHash = prev)) := by
  cases pc <;> simp only [step, begin, idempotent, chainTip, written, violated] at h <;>
    repeat' split at h
  all_goals simp_all

theorem step_rank : (step config input env svc pc).2.rank ≤ pc.rank - 1 := by
  cases pc <;> simp only [step, begin, idempotent, chainTip, written, violated] <;> repeat' split
  all_goals simp only [Pc.rank]; omega

theorem run_returned [DecidableEq ι] {calls : ι → WriteEntryInput} {s : State ι ρ} {repo : ρ}
    {g : Guard ι (ImmutableLedgerService ρ) Pc Env}
    (r : Run (writers config calls) g (State.init ι repo) s)
    (h : 13 ≤ r.turns i) : ∃ result, s.locals i = .returned result := by
  have hr := r.rank_le Pc.rank step_rank i
  have hs : ((State.init ι repo).locals i).rank = 13 := rfl
  apply returned_of_rank_eq_zero
  omega

end Step

section Run

variable [Sha256] [DecidableEq ι] {config : AppConfig} {calls : ι → WriteEntryInput}
variable {g : Guard ι (ImmutableLedgerService InMemoryLedgerRepository) Pc Env}

section Refinement

variable {input : WriteEntryInput} {env : Env} {svc : ImmutableLedgerService InMemoryLedgerRepository}
variable {chains : String → Chain config}

-- The hash and the tip are read before the write, so they may be outdated by then. What remains true
-- of such a read is that a hash other than the genesis hash comes from a chain that is not empty.
def FollowsRead (config : AppConfig) (input : WriteEntryInput)
    (svc : ImmutableLedgerService InMemoryLedgerRepository) : Pc → Prop
  | .writeEntryWithOutbox _ prev =>
    prev = config.genesisHash ∨ svc.repo.chainTips.lookup input.entryType ≠ none
  | _ => True

theorem FollowsRead.extends (env : Env) (r : svc.repo.Represents chains)
    (hf : FollowsRead config input svc <| .writeEntryWithOutbox a prev)
    (h : Accepts (chains input.entryType) prev) :
    (chains input.entryType).Extends <| (input.toEntryWriteInput env.eventId env.now prev).toEntry
      env.newIds ((chains input.entryType).entries.length + 1) where
  position := rfl
  hash     := rfl
  previous := by
    simp only [FollowsRead, r.tips] at hf
    simp only [Accepts] at h
    split at h
    case _ ht   => exact (hf.resolve_right <| absurd ht).trans (Chain.lastHash_of_tip?_none ht).symm
    case _ _ ht => exact h.symm.trans (Chain.lastHash_of_tip?_some ht).symm

-- Every step either leaves the abstract chains as they are or appends one entry to one of them.
theorem step_refines (r : svc.repo.Represents chains) (hf : FollowsRead config input svc pc)
    (ha : Allows env svc pc) :
    ((step config input env svc pc).1.repo.Represents chains) ∨
    (∃ e h, (step config input env svc pc).1.repo.Represents <|
      Function.update chains input.entryType ((chains input.entryType).append e h)) := by
  cases pc
  case writeEntryWithOutbox a prev =>
    rw [step_write_shared]
    by_cases h : Accepts (chains input.entryType) prev
    case pos =>
      have he := hf.extends env r h
      have hw := r.writeEntryWithOutbox_ok
        (input.toEntryWriteInput env.eventId env.now prev) env.newIds h
      refine .inr ⟨_, he, ?_⟩
      simp only [LedgerRepository.writeEntryWithOutbox, hw]
      exact r.insertEntry (not_mem_entries_of_fresh ha) he
    case neg =>
      have hw := r.writeEntryWithOutbox_error
        (input.toEntryWriteInput env.eventId env.now prev) env.newIds h
      simp only [LedgerRepository.writeEntryWithOutbox, hw]
      exact .inl r
  all_goals
    rw [step_repo (by simp)]
    exact .inl r

theorem step_tips_mono (r : svc.repo.Represents chains) (hf : FollowsRead config input svc pc)
    (ha : Allows env svc pc) (h : svc.repo.chainTips.lookup t ≠ none) :
    (step config input env svc pc).1.repo.chainTips.lookup t ≠ none := by
  cases step_refines r hf ha
  case inl r' => rwa [r'.tips, ← r.tips]
  case inr h' =>
    have ⟨e, _, r'⟩ := h'
    rw [r'.tips]
    by_cases ht : t = input.entryType
    case pos => subst ht; simp
    case neg => simpa [ht, ← r.tips] using h

theorem step_followsRead (r : svc.repo.Represents chains) :
    FollowsRead config input (step config input env svc pc).1 (step config input env svc pc).2 := by
  cases h : (step config input env svc pc).2 <;> simp only [FollowsRead]
  case writeEntryWithOutbox a prev =>
    have ⟨hp, ht⟩ := step_reads_tip h
    rw [step_repo (by simp [hp])]
    simp only [LedgerRepository.getChainTip, r.getChainTip] at ht
    cases hc : (chains input.entryType).tip? <;> simp [hc] at ht
    case none => exact .inl ht.symm
    case some => exact .inr <| by simp [r.tips, hc]

end Refinement

def chainOutline (config : AppConfig) (calls : ι → WriteEntryInput)
    (g : Guard ι (ImmutableLedgerService InMemoryLedgerRepository) Pc Env) :
    Outline (writers config calls) g where
  inv svc := ∃ chains : String → Chain config, svc.repo.Represents chains
  asn i pc svc := FollowsRead config (calls i) svc pc
  keeps {s i e} := by
    intro ⟨chains, r⟩ hf ha _
    rw [State.next_locals_self]
    refine ⟨?inv, step_followsRead r⟩
    cases step_refines r hf ha
    case inl r' => exact ⟨_, r'⟩
    case inr h  => exact ⟨_, h.choose_spec.choose_spec⟩
  stable {s i j e} := by
    intro _ ⟨chains, r⟩ hi hj ha _
    cases hp : s.locals j <;> simp only [hp, FollowsRead] at hj ⊢
    case writeEntryWithOutbox => exact hj.imp_right <| step_tips_mono r hi ha

theorem chainOutline_init : (chainOutline config calls g).Holds <| State.init ι {} where
  inv   := ⟨_, Represents.init⟩
  asn _ := trivial

variable {s : State ι InMemoryLedgerRepository}

theorem run_represents (r : Run (writers config calls) g (State.init ι {}) s) :
    ∃ chains : String → Chain config, s.shared.repo.Represents chains :=
  chainOutline_init.run r |>.inv

theorem run_chain_wellFormed (r : Run (writers config calls) .any (State.init ι {}) s) (t : String) :
    (WellFormed config <| s.shared.repo.getEntriesByType t) ∧
    (s.shared.repo.getChainTip t =
      match (s.shared.repo.getEntriesByType t).getLast? with
      | none   => .error .notFound
      | some e => .ok ⟨e.entryId, e.entryHash, e.chainPosition, e.writtenTs⟩) := by
  have ⟨chains, hr⟩ := run_represents r
  refine ⟨hr.listed t ▸ (chains t).wellFormed, ?_⟩
  rw [hr.getChainTip, hr.listed, Chain.tip?]
  cases (chains t).entries.getLast? <;> rfl

end Run

section Sample

open scoped Sha256.Standard

-- Calls and environments for concrete runs.
def sampleConfig : AppConfig where
  maxContentSizeBytes := 1048576
  genesisHashInput    := "ARE_LEDGER_GENESIS"

def sampleCall (i : Fin n) : WriteEntryInput where
  entryType      := "ACTION_RECEIPT"
  agentId        := "agent-" ++ toString i.val
  content        := []
  contentType    := "application/json"
  sourceId       := "source"
  correlationId  := none
  idempotencyKey := some <| "key-" ++ toString i.val

def sampleEnv (n : Nat) : Env where
  now     := 1700000000000000000 + n
  eventId := .ofNat 128 n
  newIds  := ⟨.ofNat 128 (2 * n), .ofNat 128 (2 * n + 1)⟩

def turnsOf (i : Fin n) (count : Nat) : List (Fin n × Env) :=
  .replicate count (i, sampleEnv i.val)

def firstWriter : Fin 2 := 0

def secondWriter : Fin 2 := 1

-- Two calls, one after the other.
def sampleState : State (Fin 2) InMemoryLedgerRepository :=
  Transition.exec (writers sampleConfig sampleCall).interleaved (State.init _ {})
    (turnsOf firstWriter 4 ++ turnsOf secondWriter 4)

def sampleRun : Run (writers sampleConfig sampleCall) .any (State.init _ {}) sampleState :=
  .ofSchedule (turnsOf firstWriter 4 ++ turnsOf secondWriter 4) <| by decide +kernel

end Sample

end Ledger.WriteEntry
