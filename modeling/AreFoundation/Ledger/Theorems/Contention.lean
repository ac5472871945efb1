import AreFoundation.Ledger.Theorems.Writers

open Interleaving

namespace Ledger.WriteEntry

open InMemoryLedgerRepository

-- In its last attempt a call writes with a tip that no other call has replaced since it was read.
def LastTipCurrent (calls : ι → WriteEntryInput) :
    Guard ι (ImmutableLedgerService InMemoryLedgerRepository) Pc Env := fun s e =>
  match s.locals e.1 with
  | .writeEntryWithOutbox 4 prev =>
    ∀ tip ∈ s.shared.repo.chainTips.lookup (calls e.1).entryType, tip.hash = prev
  | _ => True

instance (calls : ι → WriteEntryInput) (s : State ι InMemoryLedgerRepository) (e : ι × Env) :
    Decidable (LastTipCurrent calls s e) := by
  unfold LastTipCurrent
  split <;> infer_instance

-- A call that still has an attempt left, or that has returned an error only for an invalid input.
def OnTrack (config : AppConfig) (input : WriteEntryInput) : Pc → Prop
  | .start | .findIdempotent _             => True
  | .getChainTip attempt                   => attempt < 5
  | .writeEntryWithOutbox attempt _        => attempt < 5
  | .haltChain                             => False
  | .returned result => ∀ err, result = .error err → input.validate config = .error err

section Step

variable [Sha256] {config : AppConfig} {input : WriteEntryInput} {env : Env}
variable {svc : ImmutableLedgerService InMemoryLedgerRepository}
variable {chains : String → Chain config}

theorem FollowsRead.accepts (r : svc.repo.Represents chains)
    (hf : FollowsRead config input svc <| .writeEntryWithOutbox a prev)
    (hc : ∀ tip ∈ svc.repo.chainTips.lookup input.entryType, tip.hash = prev) :
    Accepts (chains input.entryType) prev := by
  simp only [FollowsRead, r.tips] at hf hc
  unfold Accepts
  cases ht : (chains input.entryType).tip?
  case none => simp [hf.resolve_right <| absurd ht, AppConfig.genesisHash, sha256Hex_ne_empty]
  case some => exact hc _ ht

theorem step_write_ok
    (env : Env) (r : svc.repo.Represents chains) (h : Accepts (chains input.entryType) prev) :
    ∃ out, (step config input env svc <| .writeEntryWithOutbox a prev).2 = .returned (.ok out) := by
  have hw := r.writeEntryWithOutbox_ok
    (input.toEntryWriteInput env.eventId env.now prev) env.newIds h
  simp [step, written, LedgerRepository.writeEntryWithOutbox, hw]

theorem step_write_error
    (r : svc.repo.Represents chains) (h : ¬Accepts (chains input.entryType) prev) :
    (step config input env svc <| .writeEntryWithOutbox a prev).2 =
      if a < 4 then .getChainTip (a + 1) else .haltChain := by
  have hw := r.writeEntryWithOutbox_error
    (input.toEntryWriteInput env.eventId env.now prev) env.newIds h
  simp only [step, written, LedgerRepository.writeEntryWithOutbox, hw]

theorem step_onTrack (r : svc.repo.Represents chains) (hf : FollowsRead config input svc pc)
    (hh : svc.chainHalted = ∅) (ho : OnTrack config input pc)
    (hc : ∀ prev, pc = .writeEntryWithOutbox 4 prev →
      ∀ tip ∈ svc.repo.chainTips.lookup input.entryType, tip.hash = prev) :
    OnTrack config input (step config input env svc pc).2 := by
  cases pc
  case start =>
    simp only [step, begin, hh, Finset.notMem_empty, if_false]
    split
    case _ err h => exact fun _ he => Except.error.inj he ▸ h
    case _ h     => split <;> simp [OnTrack]
  case findIdempotent =>
    simp only [step, idempotent, LedgerRepository.findIdempotent]
    split <;> simp_all [OnTrack]
  case getChainTip =>
    simp only [OnTrack] at ho
    simp only [step, if_pos ho, LedgerRepository.getChainTip, r.getChainTip]
    cases (chains input.entryType).tip? <;> exact ho
  case writeEntryWithOutbox a prev =>
    by_cases h : Accepts (chains input.entryType) prev
    case pos =>
      obtain ⟨out, hs⟩ := step_write_ok (a := a) env r h
      simp [hs, OnTrack]
    case neg =>
      -- A write that is refused in the last attempt contradicts that its tip is current.
      have ha : a < 4 := by
        by_contra ha
        have : a = 4 := by simp only [OnTrack] at ho; omega
        subst this
        exact h <| hf.accepts r (hc prev rfl)
      simpa [step_write_error r h, ha, OnTrack] using Nat.succ_lt_succ ha
  case haltChain => exact ho.elim
  case returned  => exact ho

end Step

section Run

variable [Sha256] [DecidableEq ι] {config : AppConfig} {calls : ι → WriteEntryInput}
variable {s : State ι InMemoryLedgerRepository}

def contentionOutline (config : AppConfig) (calls : ι → WriteEntryInput) :
    Outline (writers config calls) (LastTipCurrent calls) :=
  (chainOutline config calls _).strengthen (·.chainHalted = ∅)
      (fun i => OnTrack config (calls i)) <| by
    intro s i _ ⟨chains, r⟩ hf hh ho _ hg
    rw [State.next_shared, State.next_locals_self]
    refine ⟨?halted, ?onTrack⟩
    case halted =>
      apply (step_chainHalted _).trans hh
      intro hp
      exact (hp ▸ ho : OnTrack config (calls i) .haltChain)
    case onTrack =>
      apply step_onTrack r hf hh ho
      intro prev hp
      simpa [LastTipCurrent, hp] using hg

theorem contentionOutline_init : (contentionOutline config calls).Holds <| State.init ι {} where
  inv   := ⟨chainOutline_init.inv, rfl⟩
  asn _ := ⟨trivial, trivial⟩

theorem run_not_halted_of_lastTipCurrent
    (r : Run (writers config calls) (LastTipCurrent calls) (State.init ι {}) s) :
    (s.shared.chainHalted = ∅) ∧
    (∀ i, (calls i).validate config = .ok () →
      (∀ result, s.locals i = .returned result → ∃ out, result = .ok out) ∧
      (13 ≤ r.turns i → ∃ out, s.locals i = .returned (.ok out))) := by
  have h := contentionOutline_init.run r
  refine ⟨h.inv.right, ?_⟩
  intro i hv
  have ok : ∀ result, s.locals i = .returned result → ∃ out, result = .ok out := by
    intro result hr
    have ho := (h.asn i).right
    simp only [hr, OnTrack] at ho
    cases result
    case error err => simp [hv] at ho
    case ok out    => exact ⟨out, rfl⟩
  refine ⟨ok, ?_⟩
  intro ht
  have ⟨result, hr⟩ := run_returned r ht
  have ⟨out, ho⟩ := ok result hr
  exact ⟨out, ho ▸ hr⟩

end Run

section Sample

open scoped Sha256.Standard

-- The first writer is overtaken once, before its first attempt to write.
def contendedSchedule : List (Fin 2 × Env) :=
  turnsOf firstWriter 3 ++ turnsOf secondWriter 13 ++ turnsOf firstWriter 10

theorem run_not_halted_contended :
    ∃ s : State (Fin 2) InMemoryLedgerRepository,
      s.shared.chainHalted = ∅ ∧ ∀ i, ∃ out, s.locals i = .returned (.ok out) := by
  have allowed : Transition.Admissible (writers sampleConfig sampleCall).interleaved
      (LastTipCurrent sampleCall) (State.init (Fin 2) {}) contendedSchedule := by decide +kernel
  have valid : ∀ i : Fin 2, (sampleCall i).validate sampleConfig = .ok () := by decide
  have turns : ∀ i : Fin 2, 13 ≤ contendedSchedule.countP (·.1 = i) := by decide
  have ⟨hh, hr⟩ := run_not_halted_of_lastTipCurrent (.ofSchedule _ allowed)
  exact ⟨_, hh, fun i => (hr i <| valid i).right <| Run.turns_ofSchedule allowed ▸ turns i⟩

-- Six writers of the same type. In each of the first one's five attempts another writer runs to its
-- end between the read of the tip and the write.
def overtakingSchedule : List (Fin 6 × Env) :=
  turnsOf 0 3 ++ ([1, 2, 3, 4, 5].flatMap fun i => turnsOf i 4 ++ turnsOf 0 2)

def overtaken : State (Fin 6) InMemoryLedgerRepository :=
  Transition.exec (writers sampleConfig sampleCall).interleaved (State.init _ {}) overtakingSchedule

theorem overtaken_writer_halts :
    (∀ i : Fin 6, (sampleCall i).validate sampleConfig = .ok ()) ∧
    (Function.Injective fun i : Fin 6 => (sampleCall i).idempotencyKey) ∧
    (∃ s : State (Fin 6) InMemoryLedgerRepository,
      Nonempty (Run (writers sampleConfig sampleCall) .any (State.init _ {}) s) ∧
      "ACTION_RECEIPT" ∈ s.shared.chainHalted ∧
      s.locals 0 = .returned (.error <| .internal "chain integrity violation")) := by
  have inj : ∀ i j : Fin 6,
      (sampleCall i).idempotencyKey = (sampleCall j).idempotencyKey → i = j := by
    decide
  have run : Transition.Admissible (writers sampleConfig sampleCall).interleaved .any
        (State.init (Fin 6) ({} : InMemoryLedgerRepository)) overtakingSchedule ∧
      "ACTION_RECEIPT" ∈ overtaken.shared.chainHalted ∧
      overtaken.locals 0 = .returned (.error <| .internal "chain integrity violation") := by
    decide +kernel
  exact ⟨by decide, inj, overtaken, ⟨.ofSchedule _ run.left⟩, run.right⟩

end Sample

end Ledger.WriteEntry
