import AreFoundation.Ledger.Journal
import AreFoundation.Ledger.Theorems.Writers

open Interleaving

namespace Ledger

namespace WriteEntry

section Step

variable [Sha256] {config : AppConfig} {j : Journal}
variable {input : WriteEntryInput} {env : Env} {svc : ImmutableLedgerService InMemoryLedgerRepository}

def Succeeded : Pc → Prop
  | .returned (.ok _) => True
  | _                 => False

-- What the steps of a call do to the journal.
inductive Effect (input : WriteEntryInput) (ids : NewIds) (j : Journal)
    (repo : InMemoryLedgerRepository) : Pc → InMemoryLedgerRepository → Pc → Prop
  | writes (w : EntryWriteInput) : w.entryType = input.entryType →
      Effect input ids j repo (.writeEntryWithOutbox a h)
        (repo.insertEntry w ids ((j.chain w.entryType).length + 1))
        (.returned <| .ok (w.toEntry ids ((j.chain w.entryType).length + 1)).toOutput)
  | replays (e : LedgerEntryRecord) : e ∈ j.chain input.entryType →
      Effect input ids j repo (.findIdempotent key) repo (.returned <| .ok e.toOutput)
  | continues : ¬Succeeded pc → ¬Succeeded pc' → Effect input ids j repo pc repo pc'
  | done : Effect input ids j repo (.returned <| .ok out) repo (.returned <| .ok out)

theorem step_effect (config : AppConfig) (input : WriteEntryInput) (env : Env)
    (r : svc.repo.Records j) (pc : Pc) :
    Effect input env.newIds j svc.repo pc (step config input env svc pc).1.repo
      (step config input env svc pc).2 := by
  cases pc
  case start =>
    simp only [step, begin]
    repeat' split
    all_goals exact .continues id id
  case findIdempotent key =>
    simp only [step, idempotent, LedgerRepository.findIdempotent, r.findIdempotent]
    cases h : j.withKey input.entryType key
    case none   => exact .continues id id
    case some e => exact .replays e <| List.mem_reverse.mp <| List.mem_of_find?_eq_some h
  case getChainTip =>
    simp only [step, chainTip, violated]
    repeat' split
    all_goals exact .continues id id
  case writeEntryWithOutbox a prev =>
    have hr : svc.repo.Tracks (input.toEntryWriteInput env.eventId env.now prev).entryType
        (j.chain input.entryType) := r.tracks input.entryType
    simp only [step, written, LedgerRepository.writeEntryWithOutbox]
    by_cases h : j.Accepts input.entryType prev
    case pos =>
      rw [hr.writeEntryWithOutbox_ok env.newIds h]
      exact .writes (input.toEntryWriteInput env.eventId env.now prev) rfl
    case neg =>
      rw [hr.writeEntryWithOutbox_error env.newIds h]
      dsimp only
      split
      all_goals exact .continues id id
  case haltChain => exact .continues id id
  case returned result =>
    cases result
    case error => exact .continues id id
    case ok    => exact .done

end Step

end WriteEntry

namespace Server

open WriteEntry (Succeeded sampleConfig)

-- A step appends an entry, or marks a record, or leaves the journal as it is.
inductive JournalStep (j : Journal) : Thread → Journal → Prop
  | keeps : JournalStep j thread j
  | writes (w : EntryWriteInput) (ids : NewIds) (p : Int) :
      JournalStep j (.writeEntry input pc) (j.append (w.toEntry ids p) (w.toOutbox ids))
  | marks : JournalStep j (.outboxProcessor <| .markOutboxDelivered record rest)
      (j.deliver record.outboxId)

theorem JournalStep.chain_prefix {j j' : Journal} (h : JournalStep j thread j') (t : String) :
    j.chain t <+: j'.chain t := by
  cases h
  case keeps  => exact List.prefix_rfl
  case writes => exact Journal.chain_prefix_append t
  case marks  => exact List.prefix_rfl

section Step

variable [Sha256] {config : AppConfig} {j : Journal}
variable {env : Env} {svc : ImmutableLedgerService InMemoryLedgerRepository} {thread : Thread}

theorem step_records (config : AppConfig) (r : svc.repo.Records j) (ha : Allows env svc thread) :
    ∃ j', (step config env svc thread).1.repo.Records j' ∧ JournalStep j thread j' := by
  cases thread
  case writeEntry input pc =>
    have he := WriteEntry.step_effect config input env.write r pc
    simp only [step, Prod.map_fst, id]
    generalize (WriteEntry.step config input env.write svc pc).1.repo = repo',
      (WriteEntry.step config input env.write svc pc).2 = pc' at he
    cases he
    case writes w _ => exact ⟨_, r.insertEntry ha rfl, .writes w _ _⟩
    all_goals exact ⟨j, r, .keeps⟩
  case outboxProcessor pc =>
    cases pc
    case publish records              => cases records <;> exact ⟨j, r, .keeps⟩
    case pendingOutbox                => exact ⟨j, r, .keeps⟩
    case markOutboxDelivered record _ => exact ⟨_, r.markOutboxDelivered record.outboxId, .marks⟩
  case query => exact ⟨j, r, .keeps⟩

variable [DecidableEq ι] {g : Guard ι (ImmutableLedgerService InMemoryLedgerRepository) Thread Env}
variable {s s₁ s₂ : State ι} {i : ι}

def Recorded (s : State ι) : Prop :=
  ∃ j, s.shared.repo.Records j

theorem Recorded.next (h : Recorded s) (ha : (server ι config).allows i env s.shared (s.locals i)) :
    Recorded (s.next (server ι config) i env) := by
  obtain ⟨j, r⟩ := h
  obtain ⟨j', r', _⟩ := step_records config r ha
  exact ⟨j', r'⟩

theorem prefix_next (h : Recorded s) (ha : (server ι config).allows i env s.shared (s.locals i))
    (t : String) : s.shared.repo.getEntriesByType t <+:
      (s.next (server ι config) i env).shared.repo.getEntriesByType t := by
  obtain ⟨j, r⟩ := h
  obtain ⟨j', r', hj⟩ := step_records config r ha
  rw [r.getEntriesByType]
  exact (hj.chain_prefix t).trans (by rw [← r'.getEntriesByType]; exact List.prefix_rfl)

theorem run_extends (h : Recorded s₁) (run : Interleaving.Run (server ι config) g s₁ s₂) (t : String) :
    s₁.shared.repo.getEntriesByType t <+: s₂.shared.repo.getEntriesByType t := by
  let P (s : State ι) : Prop :=
    Recorded s ∧ s₁.shared.repo.getEntriesByType t <+: s.shared.repo.getEntriesByType t
  have hs : P s₂ := by
    refine run.invariant (P := P) ?_ ⟨h, List.prefix_rfl⟩
    exact fun ⟨hr, hp⟩ ha _ => ⟨hr.next ha, hp.trans <| prefix_next hr ha t⟩
  exact hs.right

-- The repositories that the steps of a thread have brought about.
def changes (config : AppConfig) (i : ι) (s : State ι) (e : ι × Env) : Set InMemoryLedgerRepository :=
  { repo | e.1 = i ∧ repo = (s.next (server ι config) e.1 e.2).shared.repo ∧ repo ≠ s.shared.repo }

-- The entries that the steps of a thread have contributed.
def added (config : AppConfig) (i : ι) (s : State ι) (e : ι × Env) : Set LedgerEntryRecord :=
  { entry | e.1 = i ∧ ∃ t,
      entry ∈ (s.next (server ι config) e.1 e.2).shared.repo.getEntriesByType t ∧
        entry ∉ s.shared.repo.getEntriesByType t }

-- What a step of a call makes of the journal, and of the thread itself.
theorem next_effect (config : AppConfig) (r : s.shared.repo.Records j) (env : Env)
    (hl : s.locals i = .writeEntry input pc) :
    ∃ pc', (s.next (server ι config) i env).locals i = .writeEntry input pc' ∧
      WriteEntry.Effect input env.write.newIds j s.shared.repo pc
        (s.next (server ι config) i env).shared.repo pc' := by
  refine ⟨(WriteEntry.step config input env.write s.shared pc).2, ?_, ?_⟩
  case refine_1 => simp [State.next_locals_self, server, step, hl]
  case refine_2 =>
    have he := WriteEntry.step_effect config input env.write r pc
    simpa [server, step, hl] using he

theorem locals_of_next (hl : (s.next (server ι config) i env).locals i = .writeEntry input pc') :
    ∃ pc, s.locals i = .writeEntry input pc := by
  simp only [State.next_locals_self, server] at hl
  cases h : s.locals i
  all_goals rw [h] at hl
  case writeEntry input pc => cases hl; exact ⟨pc, rfl⟩
  case outboxProcessor     => cases hl
  case query _ answer      => cases answer <;> cases hl

-- Contributions that only a call itself makes, by changing the repository, and one at a time.
structure Contributes (config : AppConfig) (i : ι) (f : State ι → ι × Env → Set α) : Prop where
  own    : ∀ {s e}, e.1 ≠ i → f s e = ∅
  change : ∀ {s e}, (s.next (server ι config) e.1 e.2).shared.repo = s.shared.repo → f s e = ∅
  single : ∀ {s e j input pc}, s.shared.repo.Records j → s.locals e.1 = .writeEntry input pc →
             (server ι config).allows e.1 e.2 s.shared (s.locals e.1) → (f s e).Subsingleton

-- A call that has not succeeded has contributed nothing.
def Once (i : ι) (A : Set α) (s : State ι) : Prop :=
  ∀ input pc, s.locals i = .writeEntry input pc → A.Subsingleton ∧ (¬Succeeded pc → A = ∅)

theorem Once.next {f : State ι → ι × Env → Set α} {A : Set α} (hc : Contributes config i f)
    (h : Once i A s) (hr : Recorded s)
    (ha : (server ι config).allows e.1 e.2 s.shared (s.locals e.1)) :
    Once i (A ∪ f s e) (s.next (server ι config) e.1 e.2) := by
  intro input pc' hl
  by_cases he : e.1 = i
  case neg =>
    rw [hc.own he, Set.union_empty]
    exact h input pc' <| State.next_locals_of_ne s e.2 (Ne.symm he) ▸ hl
  case pos =>
    subst he
    obtain ⟨j, r⟩ := hr
    obtain ⟨pc, hl₀⟩ := locals_of_next hl
    obtain ⟨hs, hn⟩ := h input pc hl₀
    obtain ⟨pc'', hl', he⟩ := next_effect config r e.2 hl₀
    cases hl'.symm.trans hl
    have hf := hc.single r hl₀ ha
    have hk := hc.change (s := s) (e := e)
    generalize (s.next (server ι config) e.1 e.2).shared.repo = repo' at he hk
    cases he
    case writes =>
      rw [hn id, Set.empty_union]
      exact ⟨hf, fun hn => absurd trivial hn⟩
    case replays =>
      rw [hk rfl, Set.union_empty]
      exact ⟨hs, fun hn => absurd trivial hn⟩
    case continues hn₀ _ =>
      rw [hk rfl, Set.union_empty]
      exact ⟨hs, fun _ => hn hn₀⟩
    case done =>
      rw [hk rfl, Set.union_empty]
      exact ⟨hs, hn⟩

theorem run_once {f : State ι → ι × Env → Set α} (hc : Contributes config i f) (hr : Recorded s₁)
    (run : Interleaving.Run (server ι config) g s₁ s₂) : Once i (run.collect f) s₂ := by
  let P (A : Set α) (s : State ι) : Prop := Recorded s ∧ Once i A s
  have hi : P ∅ s₁ := ⟨hr, fun _ _ _ => ⟨Set.subsingleton_empty, fun _ => rfl⟩⟩
  have hs : P (run.collect f) s₂ := by
    refine run.invariant_fold (P := P) ?_ hi
    exact fun ⟨hr, ho⟩ ha _ => ⟨hr.next ha, ho.next hc hr ha⟩
  exact hs.right

theorem changes_contributes (config : AppConfig) (i : ι) :
    Contributes config i (changes config i) where
  own he      := by simp [changes, he]
  change hc   := by simp [changes, hc, -State.next_shared]
  single _ _ _ := fun _ h _ h' => h.2.1.trans h'.2.1.symm

theorem added_contributes (config : AppConfig) (i : ι) : Contributes config i (added config i) where
  own he    := by simp [added, he]
  change hc := by simp [added, hc, -State.next_shared]
  single {s e j input pc} r hl ha := by
    obtain ⟨pc', -, he⟩ := next_effect config r e.2 hl
    have hf := hl ▸ ha
    intro entry h entry' h'
    obtain ⟨-, t, hm, hn⟩ := h
    obtain ⟨-, t', hm', hn'⟩ := h'
    rw [r.getEntriesByType] at hn hn'
    generalize (s.next (server ι config) e.1 e.2).shared.repo = repo' at he hm hm'
    cases he
    case writes w ht =>
      have r' : (s.shared.repo.insertEntry w e.2.write.newIds _).Records _ := r.insertEntry hf rfl
      rw [r'.getEntriesByType] at hm hm'
      exact (Journal.eq_of_mem_chain_append hm hn).trans
        (Journal.eq_of_mem_chain_append hm' hn').symm
    all_goals
      rw [r.getEntriesByType] at hm
      exact absurd hm hn

-- The output of a call is that of a stored entry.
def Stored (s : State ι) : Prop :=
  ∀ i input out, s.locals i = .writeEntry input (.returned <| .ok out) →
    ∃ e ∈ s.shared.repo.getEntriesByType input.entryType, e.toOutput = out

theorem Stored.next (h : Stored s) (hr : Recorded s)
    (ha : (server ι config).allows i env s.shared (s.locals i)) :
    Stored (s.next (server ι config) i env) := by
  intro k input out hl
  have keep : ∀ e ∈ s.shared.repo.getEntriesByType input.entryType,
      e ∈ (s.next (server ι config) i env).shared.repo.getEntriesByType input.entryType :=
    fun _ he => (prefix_next hr ha _).subset he
  by_cases hk : k = i
  case neg =>
    rw [State.next_locals_of_ne s env hk] at hl
    obtain ⟨e, he, ho⟩ := h k input out hl
    exact ⟨e, keep e he, ho⟩
  case pos =>
    subst hk
    obtain ⟨j, r⟩ := id hr
    obtain ⟨pc, hl₀⟩ := locals_of_next hl
    obtain ⟨pc', hl', heff⟩ := next_effect config r env hl₀
    cases hl'.symm.trans hl
    have hf := hl₀ ▸ ha
    generalize (s.next (server ι config) k env).shared.repo = repo' at heff keep ⊢
    cases heff
    case writes w ht =>
      have r' : (s.shared.repo.insertEntry w env.write.newIds _).Records _ := r.insertEntry hf rfl
      refine ⟨_, ?_, rfl⟩
      rw [r'.getEntriesByType, Journal.chain_append_of_eq ht]
      exact List.mem_append_right _ <| List.mem_singleton_self _
    case replays e he => exact ⟨e, keep e <| r.getEntriesByType _ ▸ he, rfl⟩
    case continues hn => exact absurd trivial hn
    case done =>
      obtain ⟨e, he, ho⟩ := h k input out hl₀
      exact ⟨e, keep e he, ho⟩

abbrev State.init (threads : ι → Thread) : State ι :=
  ⟨{ repo := {} }, threads⟩

variable {threads : ι → Thread}

theorem run_stored (hs : ∀ i, (threads i).Starts)
    (run : Interleaving.Run (server ι config) g (State.init threads) s) : Stored s := by
  let P (s : State ι) : Prop := Recorded s ∧ Stored s
  have hi : P (State.init threads) := by
    refine ⟨⟨_, .init⟩, fun i input out hl => ?_⟩
    have hi := (show threads i = _ from hl) ▸ hs i
    cases hi
  have hp : P s := run.invariant (P := P) (fun ⟨hr, h⟩ ha _ => ⟨hr.next ha, h.next hr ha⟩) hi
  exact hp.right

theorem run_appendOnly (hs : ∀ i, (threads i).Starts)
    (r₁ : Interleaving.Run (server ι config) g (State.init threads) s₁)
    (r₂ : Interleaving.Run (server ι config) g s₁ s₂) :
    (∀ t, s₁.shared.repo.getEntriesByType t <+: s₂.shared.repo.getEntriesByType t) ∧
    (∀ i input err, s₁.locals i = .writeEntry input (.returned <| .error err) →
      r₁.collect (changes config i) = ∅) ∧
    (∀ i input out, s₁.locals i = .writeEntry input (.returned <| .ok out) →
      (r₁.collect (added config i)).Subsingleton ∧
      ∃ e ∈ s₁.shared.repo.getEntriesByType input.entryType,
        e.entryId = out.entryId ∧ e.entryHash = out.entryHash ∧
        e.chainPosition = out.chainPosition ∧
        DateTime.timestampMillis e.writtenTs = out.writtenTsMs) := by
  have hr₁ : Recorded s₁ := r₁.invariant (fun hr ha _ => hr.next ha) ⟨_, .init⟩
  refine ⟨run_extends hr₁ r₂, fun i input err hl => ?_, fun i input out hl => ⟨?_, ?_⟩⟩
  case refine_1 =>
    exact (run_once (changes_contributes config i) ⟨_, .init⟩ r₁ _ _ hl).right id
  case refine_2 =>
    exact (run_once (added_contributes config i) ⟨_, .init⟩ r₁ _ _ hl).left
  case refine_3 =>
    obtain ⟨e, he, rfl⟩ := run_stored hs r₁ i input out hl
    exact ⟨e, he, rfl, rfl, rfl, rfl⟩

end Step

section Sample

open scoped Sha256.Standard

-- One call writes, the other one lacks the type of its entry.
def sampleThreads (valid : Bool) : Thread :=
  .writeEntry ⟨if valid then "ACTION_RECEIPT" else "", "agent-1", [], "application/json", "source",
    none, none⟩ .start

def sampleSchedule : List (Bool × Env) :=
  [true, false, true, true].map fun turn => (turn, ⟨⟨0, 1, ⟨2, 3⟩⟩, ⟨[], true⟩, []⟩)

theorem sampleThreads_appendOnly :
    ∃ s, ∃ r : Interleaving.Run (server Bool sampleConfig) .any (State.init sampleThreads) s,
      r.collect (changes sampleConfig false) = ∅ ∧
      ∃ e ∈ s.shared.repo.getEntriesByType "ACTION_RECEIPT", e.chainPosition = 1 := by
  have r : Interleaving.Run (server Bool sampleConfig) .any (State.init sampleThreads)
      (Transition.exec (server Bool sampleConfig).interleaved (State.init sampleThreads)
        sampleSchedule) :=
    .ofSchedule sampleSchedule (by decide +kernel)
  have hs i : (sampleThreads i).Starts := .writeEntry
  have ⟨_, he, ho⟩ := run_appendOnly hs r .refl
  obtain ⟨-, e, hm, -, -, hp, -⟩ := ho true _ _ rfl
  exact ⟨_, r, he false _ _ rfl, e, hm, hp⟩

end Sample

end Server

end Ledger
