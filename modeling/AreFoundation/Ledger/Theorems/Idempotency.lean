import Mathlib.Data.Fintype.Basic
import AreFoundation.Ledger.Postgres
import AreFoundation.Ledger.Theorems.Writers

open Interleaving

namespace Ledger

namespace PostgresLedgerRepository

variable {repo : PostgresLedgerRepository} {entry : LedgerEntryRecord} {input : EntryWriteInput}
variable {ids : NewIds} {t key : String}

-- The rows that the partial index on idempotency keys is about.
def rowsWithKey (repo : PostgresLedgerRepository) (t key : String) : List LedgerEntryRecord :=
  repo.ledgerEntries.filter fun e => e.entryType = t ∧ e.idempotencyKey = some key

theorem typeIdempotencyKey_eq_some :
    entry.typeIdempotencyKey = some (t, key) ↔
      entry.entryType = t ∧ entry.idempotencyKey = some key := by
  cases h : entry.idempotencyKey <;> simp [LedgerEntryRecord.typeIdempotencyKey, h]

theorem findIdempotent_eq_none :
    repo.findIdempotent t key = none ↔
      ∀ e ∈ repo.ledgerEntries, e.typeIdempotencyKey ≠ some (t, key) := by
  simp [Tables.findIdempotent, typeIdempotencyKey_eq_some]

theorem rowsWithKey_eq_singleton (h : repo.findIdempotent t key = some entry) :
    repo.rowsWithKey t key = [entry] := by
  have hm := List.mem_of_find?_eq_some h
  have hk : entry.typeIdempotencyKey = some (t, key) := by
    simpa [typeIdempotencyKey_eq_some] using List.find?_some h
  simpa [rowsWithKey, typeIdempotencyKey_eq_some] using repo.idempotency.filter_eq_singleton hm hk

theorem position_le_tipRow (h : repo.tipRow t = some tip)
    (he : entry ∈ repo.ledgerEntries) (ht : entry.entryType = t) :
    entry.chainPosition ≤ tip.chainPosition := by
  rw [← List.maxOn_eq_of_maxOn?_eq_some h]
  exact List.le_apply_maxOn_of_mem (by simp [he, ht])

-- The position that `write_entry_with_outbox` assigns to the next entry.
def nextPosition (repo : PostgresLedgerRepository) (t : String) : Int :=
  (repo.tipRow t).elim 1 (·.chainPosition + 1)

theorem position_ne_nextPosition (he : entry ∈ repo.ledgerEntries) (ht : entry.entryType = t) :
    entry.chainPosition ≠ repo.nextPosition t := by
  unfold nextPosition
  cases h : repo.tipRow t
  case none =>
    have hm : entry ∈ repo.ledgerEntries.filter (·.entryType = t) := by simp [he, ht]
    rw [Tables.tipRow, List.maxOn?_eq_some_maxOn (List.ne_nil_of_mem hm)] at h
    cases h
  case some =>
    have := position_le_tipRow h he ht
    simp only [Option.elim_some]
    omega

theorem insertable_next (hf : ids.Fresh repo)
    (hk : ∀ key ∈ input.idempotencyKey, repo.findIdempotent input.entryType key = none) :
    repo.Insertable <| input.toEntry ids (repo.nextPosition input.entryType) where
  primaryKey id hi hm := by
    have ⟨e, he, hid⟩ := List.mem_filterMap.mp hm
    have hid : e.entryId = ids.entryId := Option.some.inj <| hid.trans hi.symm
    apply hf.entryId
    simp only [LedgerRepository.idsInUse, Finset.mem_union, List.mem_toFinset]
    exact .inl <| List.mem_map.mpr ⟨e, he, hid⟩
  typePosition p hp hm := by
    have ⟨e, he, heq⟩ := List.mem_filterMap.mp hm
    have heq := Prod.ext_iff.mp <| Option.some.inj <| heq.trans hp.symm
    exact position_ne_nextPosition he heq.left heq.right
  idempotency k hkey hm := by
    have ⟨e, he, heq⟩ := List.mem_filterMap.mp hm
    have ⟨t, key⟩ := k
    have ⟨(ht : input.entryType = t), hi⟩ := typeIdempotencyKey_eq_some.mp hkey
    have hn := findIdempotent_eq_none.mp <| hk key hi
    exact hn e he (ht ▸ heq)

-- The hash that a call of `write_entry` uses if it reads the tip now.
def lastHash [Sha256] (repo : PostgresLedgerRepository) (config : AppConfig) (t : String) : String :=
  (repo.tipRow t).elim config.genesisHash (·.entryHash)

theorem writeEntryWithOutbox_of_checkTip (h : repo.checkTip input = .ok position) :
    repo.writeEntryWithOutbox input ids =
      repo.insertEntry (input.toEntry ids position) (input.toOutbox ids) := by
  rw [writeEntryWithOutbox, h]

theorem writeEntryWithOutbox_eq [Sha256] (input : EntryWriteInput) (ids : NewIds)
    (hp : input.previousHash = repo.lastHash config input.entryType) :
    repo.writeEntryWithOutbox input ids =
      repo.insertEntry (input.toEntry ids <| repo.nextPosition input.entryType)
        (input.toOutbox ids) := by
  apply writeEntryWithOutbox_of_checkTip
  unfold nextPosition Tables.checkTip
  unfold lastHash at hp
  cases h : repo.tipRow input.entryType <;> simp [h] at hp
  case none => simp [hp, AppConfig.genesisHash, sha256Hex_ne_empty]
  case some => simp [hp]

theorem insertEntry_ok
    (input : EntryWriteInput) (hf : ids.Fresh repo) (h : repo.Insertable entry) :
    ∃ repo', repo.insertEntry entry (input.toOutbox ids) = (.ok ⟨entry, input.toOutbox ids⟩, repo') ∧
      repo'.ledgerEntries = repo.ledgerEntries ++ [entry] ∧
      repo'.ledgerWriteOutbox = repo.ledgerWriteOutbox ++ [input.toOutbox ids] := by
  have ho : repo.AdmitsOutbox (input.toOutbox ids) := by
    intro id hi hm
    have ⟨o, ho, hid⟩ := List.mem_filterMap.mp hm
    have hid : o.outboxId = ids.outboxId := Option.some.inj <| hid.trans hi.symm
    apply hf.outboxId
    simp only [LedgerRepository.idsInUse, Finset.mem_union, List.mem_toFinset]
    exact .inr <| List.mem_map.mpr ⟨o, ho, hid⟩
  simp [insertEntry, h, ho]

theorem findIdempotent_append {repo' : PostgresLedgerRepository}
    (hn : repo.findIdempotent t key = none) (ha : repo'.ledgerEntries = repo.ledgerEntries ++ [entry])
    (ht : entry.entryType = t) (hk : entry.idempotencyKey = some key) :
    repo'.findIdempotent t key = some entry := by
  unfold Tables.findIdempotent at hn ⊢
  rw [ha, List.find?_append, hn]
  simp [ht, hk]

end PostgresLedgerRepository

namespace WriteEntry

open PostgresLedgerRepository

-- Calls that repeat one idempotent write.
structure Duplicates (config : AppConfig) (calls : ι → WriteEntryInput) (t key : String) : Prop where
  valid          : ∀ i, (calls i).validate config = .ok ()
  entryType      : ∀ i, (calls i).entryType = t
  idempotencyKey : ∀ i, (calls i).idempotencyKey = some key

-- The call has not found its key and has not returned yet.
def InFlight : Pc → Prop
  | .start | .findIdempotent _ | .returned _                   => False
  | .getChainTip _ | .writeEntryWithOutbox _ _ | .haltChain => True

instance : (pc : Pc) → Decidable (InFlight pc)
  | .start | .findIdempotent _ | .returned _                => .isFalse id
  | .getChainTip _ | .writeEntryWithOutbox _ _ | .haltChain => .isTrue trivial

-- No key is looked up while a call that has missed it is still in flight.
def LookupsApart : Guard ι (ImmutableLedgerService PostgresLedgerRepository) Pc Env := fun s e =>
  match s.locals e.1 with
  | .findIdempotent _ => ∀ j, ¬InFlight (s.locals j)
  | _                 => True

instance [Fintype ι] (s : State ι PostgresLedgerRepository) (e : ι × Env) :
    Decidable (LookupsApart s e) := by
  unfold LookupsApart
  split <;> infer_instance

section Step

variable [Sha256] {config : AppConfig} {input : WriteEntryInput} {env : Env} {t key : String}
variable {svc : ImmutableLedgerService PostgresLedgerRepository}

def OnCourse (config : AppConfig) (t key : String) (repo : PostgresLedgerRepository) : Pc → Prop
  | .start                       => True
  | .findIdempotent k            => k = key
  | .getChainTip attempt         => attempt = 0 ∧ repo.findIdempotent t key = none
  | .writeEntryWithOutbox _ prev => prev = repo.lastHash config t ∧ repo.findIdempotent t key = none
  | .haltChain                   => False
  | .returned result             => ∃ e, repo.findIdempotent t key = some e ∧ result = .ok e.toOutput

theorem step_inFlight (hk : input.idempotencyKey = some key)
    (h : InFlight (step config input env svc pc).2) : InFlight pc ∨ ∃ k, pc = .findIdempotent k := by
  cases pc <;> simp only [step, begin, hk] at h
  case start =>
    repeat' split at h
    all_goals exact h.elim
  case findIdempotent k => exact .inr ⟨k, rfl⟩
  case returned         => exact h.elim
  all_goals exact .inl trivial

theorem step_onCourse (hv : input.validate config = .ok ()) (ht : input.entryType = t)
    (hk : input.idempotencyKey = some key) (hh : t ∉ svc.chainHalted)
    (ho : OnCourse config t key svc.repo pc) (ha : Allows env svc pc) :
    OnCourse config t key (step config input env svc pc).1.repo (step config input env svc pc).2 := by
  subst ht
  cases pc
  case start => simp [step, begin, hv, hh, hk, OnCourse]
  case findIdempotent k =>
    cases (ho : k = key)
    simp only [step, idempotent, LedgerRepository.findIdempotent]
    split
    case _ h   => cases h
    case _ h   => exact ⟨_, Except.ok.inj h, rfl⟩
    case _ h   => exact ⟨rfl, Except.ok.inj h⟩
  case getChainTip a =>
    obtain ⟨ha, hn⟩ := ho
    simp only [step, ha, LedgerRepository.getChainTip, Tables.getChainTip]
    cases h : svc.repo.tipRow input.entryType
    all_goals exact ⟨by simp [lastHash, h, LedgerEntryRecord.toTip], hn⟩
  case writeEntryWithOutbox a prev =>
    obtain ⟨hp, hn⟩ := ho
    let write := input.toEntryWriteInput env.eventId env.now prev
    have hi : svc.repo.Insertable <|
        write.toEntry env.newIds (svc.repo.nextPosition write.entryType) := by
      apply insertable_next ha
      intro k hk'
      have : k = key := Option.some.inj <| hk'.symm.trans hk
      exact this ▸ hn
    obtain ⟨repo', hw, happ, _⟩ := insertEntry_ok write ha hi
    rw [← writeEntryWithOutbox_eq write env.newIds hp] at hw
    simp only [step, written, LedgerRepository.writeEntryWithOutbox, write, hw]
    exact ⟨_, findIdempotent_append hn happ rfl hk, rfl⟩
  case haltChain => exact ho.elim
  case returned  => exact ho

end Step

section Run

variable [Sha256] {config : AppConfig} {calls : ι → WriteEntryInput} {t key : String}
variable {repo : PostgresLedgerRepository} {s : State ι PostgresLedgerRepository}

-- At most one call is in flight, so nothing changes between what it reads and what it writes.
structure Coordinated (config : AppConfig) (t key : String) (s : State ι PostgresLedgerRepository) :
    Prop where
  notHalted : t ∉ s.shared.chainHalted
  exclusive : ∀ {i j}, InFlight (s.locals i) → InFlight (s.locals j) → i = j
  onCourse  : ∀ i, OnCourse config t key s.shared.repo (s.locals i)

namespace Coordinated

theorem init : Coordinated config t key (State.init ι repo) where
  notHalted   := Finset.notMem_empty t
  exclusive h := h.elim
  onCourse _  := trivial

variable [DecidableEq ι]

theorem next_exclusive (c : Coordinated config t key s) (hd : Duplicates config calls t key)
    (hg : LookupsApart s (i, env)) (hj : j ≠ i)
    (h : InFlight ((s.next (writers config calls) i env).locals i)) :
    ¬InFlight (s.locals j) := by
  rw [State.next_locals_self] at h
  cases step_inFlight (hd.idempotencyKey i) h
  case inl h => exact fun h' => hj <| c.exclusive h' h
  case inr h =>
    have ⟨k, hk⟩ := h
    simp only [LookupsApart, hk] at hg
    exact hg j

theorem next (c : Coordinated config t key s) (hd : Duplicates config calls t key)
    (ha : (writers config calls).allows i env s.shared <| s.locals i) (hg : LookupsApart s (i, env)) :
    Coordinated config t key (s.next (writers config calls) i env) where
  notHalted := by
    have hp : s.locals i ≠ .haltChain := by
      intro hp
      exact (hp ▸ c.onCourse i : OnCourse config t key s.shared.repo .haltChain)
    rw [State.next_shared, writers_step, step_chainHalted hp]
    exact c.notHalted
  exclusive {j k} hj hk := by
    by_cases hji : j = i <;> by_cases hki : k = i
    case pos => exact hji.trans hki.symm
    case neg =>
      rw [State.next_locals_of_ne _ _ hki] at hk
      exact absurd hk <| c.next_exclusive hd hg hki (hji ▸ hj)
    case pos =>
      rw [State.next_locals_of_ne _ _ hji] at hj
      exact absurd hj <| c.next_exclusive hd hg hji (hki ▸ hk)
    case neg =>
      rw [State.next_locals_of_ne _ _ hji] at hj
      rw [State.next_locals_of_ne _ _ hki] at hk
      exact c.exclusive hj hk
  onCourse := by
    have hi := c.onCourse i
    refine State.forall_next_locals (P := fun _ pc => OnCourse config t key _ pc) ?own ?others
    case own =>
      exact step_onCourse (hd.valid i) (hd.entryType i) (hd.idempotencyKey i) c.notHalted hi ha
    case others =>
      intro j hj
      by_cases hp : ∃ a prev, s.locals i = .writeEntryWithOutbox a prev
      case neg =>
        rw [State.next_shared, writers_step, step_repo fun a prev h => hp ⟨a, prev, h⟩]
        exact c.onCourse j
      case pos =>
        -- The writing call is the one in flight. No other call has returned, because none of them
        -- can have found the key.
        have ⟨a, prev, hp⟩ := hp
        have hn : ¬InFlight (s.locals j) := fun h => hj <| c.exclusive h (hp ▸ trivial)
        have hoj := c.onCourse j
        rw [hp] at hi
        cases hpj : s.locals j <;> simp only [hpj, OnCourse, InFlight, hi.right] at hoj hn ⊢
        case findIdempotent => exact hoj
        case returned       => simp at hoj
        all_goals exact (hn trivial).elim

end Coordinated

theorem run_duplicates_harmless [DecidableEq ι] (hd : Duplicates config calls t key)
    (r : Run (writers config calls) LookupsApart (State.init ι repo) s) :
    (t ∉ s.shared.chainHalted) ∧
    (∀ i result, s.locals i = .returned result →
      ∃ e, s.shared.repo.rowsWithKey t key = [e] ∧ result = .ok e.toOutput) ∧
    (∀ i, 13 ≤ r.turns i → ∃ result, s.locals i = .returned result) := by
  have c : Coordinated config t key s := r.invariant (fun c ha hg => c.next hd ha hg) .init
  refine ⟨c.notHalted, ?_, fun i => run_returned r⟩
  intro i result hr
  have ho := c.onCourse i
  rw [hr] at ho
  have ⟨e, he, ho⟩ := ho
  exact ⟨e, rowsWithKey_eq_singleton he, ho⟩

end Run

section Sample

open scoped Sha256.Standard

def duplicateCall : Fin 2 → WriteEntryInput := fun _ => sampleCall (0 : Fin 1)

theorem duplicateCall_duplicates :
    Duplicates sampleConfig duplicateCall "ACTION_RECEIPT" "key-0" where
  valid          := by decide
  entryType      := by decide
  idempotencyKey := by decide

def sequentialSchedule : List (Fin 2 × Env) :=
  turnsOf firstWriter 13 ++ turnsOf secondWriter 13

theorem run_duplicates_harmless_sequential :
    ∃ s : State (Fin 2) PostgresLedgerRepository,
      "ACTION_RECEIPT" ∉ s.shared.chainHalted ∧
      ∀ i, ∃ e, s.shared.repo.rowsWithKey "ACTION_RECEIPT" "key-0" = [e] ∧
        s.locals i = .returned (.ok e.toOutput) := by
  have allowed : Transition.Admissible (writers sampleConfig duplicateCall).interleaved
      LookupsApart (State.init (Fin 2) {}) sequentialSchedule := by decide +kernel
  have turns : ∀ i : Fin 2, 13 ≤ sequentialSchedule.countP (·.1 = i) := by decide
  have ⟨hh, hr, ht⟩ := run_duplicates_harmless duplicateCall_duplicates (.ofSchedule _ allowed)
  refine ⟨_, hh, ?_⟩
  intro i
  have ⟨result, h⟩ := ht i <| Run.turns_ofSchedule allowed ▸ turns i
  have ⟨e, he, ho⟩ := hr i result h
  exact ⟨e, he, ho ▸ h⟩

-- Both calls look up the key before either of them writes. The second one then violates the unique
-- index in each of its attempts.
def duplicateSchedule : List (Fin 2 × Env) :=
  turnsOf firstWriter 2 ++ turnsOf secondWriter 2 ++ turnsOf firstWriter 2 ++
    turnsOf secondWriter 11

theorem duplicate_write_halts :
    ∃ s : State (Fin 2) PostgresLedgerRepository,
      Nonempty (Run (writers sampleConfig duplicateCall) .any (State.init _ {}) s) ∧
      "ACTION_RECEIPT" ∈ s.shared.chainHalted ∧
      s.locals 1 = .returned (.error <| .internal "chain integrity violation") := by
  refine ⟨Transition.exec _ _ duplicateSchedule, ⟨.ofSchedule _ ?_⟩, ?_⟩ <;> decide +kernel

end Sample

end WriteEntry

end Ledger
