import AreFoundation.Ledger.Theorems.AppendOnly

open Interleaving

namespace Ledger

-- The record as it was written.
def OutboxRecord.event (o : OutboxRecord) : OutboxRecord :=
  { o with status := .pending }

namespace Journal

variable {j : Journal} {e : LedgerEntryRecord} {o : OutboxRecord} {outboxId : Uuid}

-- Marking a record changes nothing that does not depend on the status.
theorem map_deliver {f : OutboxRecord → α} (h : ∀ o, f { o with status := .delivered } = f o) :
    (j.deliver outboxId).outbox.map f = j.outbox.map f := by
  simp only [deliver, List.map_map]
  refine List.map_congr_left fun o _ => ?_
  by_cases ho : o.outboxId = outboxId
  case pos => simpa [ho] using h o
  case neg => simp [ho]

def events (j : Journal) : List OutboxRecord :=
  j.outbox.map (·.event)

theorem events_append : (j.append e o).events = j.events ++ [o.event] := by
  simp [events, append]

theorem events_deliver : (j.deliver outboxId).events = j.events :=
  map_deliver fun _ => rfl

theorem mem_deliver (h : o ∈ (j.deliver outboxId).outbox) :
    o ∈ j.outbox ∨ (o.outboxId = outboxId ∧ o.status = .delivered) := by
  obtain ⟨o', ho', rfl⟩ := List.mem_map.mp h
  by_cases hi : o'.outboxId = outboxId
  case pos => simp [hi]
  case neg => simp [hi, ho']

-- The records and the entries belong together one by one, in the order in which they were written.
def Paired (j : Journal) : Prop :=
  j.outbox.map (fun o => (o.entryId, o.entryType)) = j.entries.map (fun e => (e.entryId, e.entryType))

theorem Paired.append (h : j.Paired) (hi : o.entryId = e.entryId) (ht : o.entryType = e.entryType) :
    (j.append e o).Paired := by
  have hp : j.outbox.map _ = j.entries.map _ := h
  simp [Paired, Journal.append, hp, hi, ht]

theorem Paired.deliver (h : j.Paired) : (j.deliver outboxId).Paired :=
  (map_deliver fun _ => rfl).trans h

end Journal

namespace InMemoryLedgerRepository

variable {repo : InMemoryLedgerRepository} {j : Journal} {e : LedgerEntryRecord} {o : OutboxRecord}

-- An outbox record tells about an entry.
def Announces (o : OutboxRecord) (e : LedgerEntryRecord) : Prop :=
  o.entryId = e.entryId ∧ o.entryType = e.entryType

theorem Records.existsUnique_outbox (r : Records repo j) (hp : j.Paired) {id : Uuid}
    (h : repo.entries.lookup id = some e) :
    ∃! outboxId, ∃ o, repo.outbox.lookup outboxId = some o ∧ Announces o e := by
  have hm : (e.entryId, e.entryType) ∈ j.outbox.map (fun o => (o.entryId, o.entryType)) :=
    hp ▸ List.mem_map_of_mem (r.entries.mem_of_lookup h).left
  obtain ⟨o, ho, he⟩ := List.mem_map.mp hm
  rw [Prod.mk.injEq] at he
  refine ⟨o.outboxId, ⟨o, r.outbox.lookup_of_mem ho, he⟩, ?_⟩
  rintro outboxId ⟨o', ho', ha⟩
  obtain ⟨hm', rfl⟩ := r.outbox.mem_of_lookup ho'
  -- Entries have different identifiers, and therefore so have the entries of the records.
  have hn : (j.outbox.map (·.entryId)).Nodup := by
    have hi := congrArg (List.map Prod.fst) hp
    simp only [List.map_map, Function.comp_def] at hi
    exact hi ▸ r.entries.nodup
  rw [List.inj_on_of_nodup_map hn hm' ho (ha.left.trans he.left.symm)]

theorem Records.existsUnique_entry (r : Records repo j) (hp : j.Paired) {outboxId : Uuid}
    (h : repo.outbox.lookup outboxId = some o) :
    ∃! id, ∃ e, repo.entries.lookup id = some e ∧ Announces o e := by
  have hm : (o.entryId, o.entryType) ∈ j.entries.map (fun e => (e.entryId, e.entryType)) :=
    hp ▸ List.mem_map_of_mem (f := fun o : OutboxRecord => (o.entryId, o.entryType))
      (r.outbox.mem_of_lookup h).left
  obtain ⟨e, he, ho⟩ := List.mem_map.mp hm
  rw [Prod.mk.injEq] at ho
  refine ⟨e.entryId, ⟨e, r.entries.lookup_of_mem he, ho.left.symm, ho.right.symm⟩, ?_⟩
  rintro id ⟨e', he', ha⟩
  obtain ⟨-, rfl⟩ := r.entries.mem_of_lookup he'
  exact (ho.left.trans ha.left).symm

end InMemoryLedgerRepository

namespace Server

open InMemoryLedgerRepository (Announces)

variable {j j' : Journal} {thread : Thread} {A A' : Set OutboxRecord}

-- The records whose events the publisher accepts in a step.
def published (s : State ι) (e : ι × Env) : Set OutboxRecord :=
  { o | e.2.outbox.published ∧ ∃ rest, s.locals e.1 = .outboxProcessor (.publish <| o :: rest) }

-- What the processors work with are copies of records that were written, and a record is only about
-- to be marked if its event has been published.
def Thread.Copies (j : Journal) (A : Set OutboxRecord) : Thread → Prop
  | .outboxProcessor (.publish records) => ∀ o ∈ records, o.event ∈ j.events
  | .outboxProcessor (.markOutboxDelivered record rest) =>
    record ∈ A ∧ ∀ o ∈ record :: rest, o.event ∈ j.events
  | _ => True

theorem Thread.Copies.mono (h : thread.Copies j A) (hj : j.events ⊆ j'.events) (hA : A ⊆ A') :
    thread.Copies j' A' := by
  unfold Copies at h ⊢
  split
  case _ => exact fun o ho => hj <| h o ho
  case _ => exact ⟨hA h.left, fun o ho => hj <| h.right o ho⟩
  case _ => trivial

-- A record is delivered only if its event has been published.
def Accounted (A : Set OutboxRecord) (j : Journal) : Prop :=
  ∀ o ∈ j.outbox, o.status = .pending ∨ (o.status = .delivered ∧ ∃ o' ∈ A, o'.event = o.event)

theorem Accounted.mono (h : Accounted A j) (hA : A ⊆ A') : Accounted A' j :=
  fun o ho => (h o ho).imp_right fun ⟨hd, o', ho', he⟩ => ⟨hd, o', hA ho', he⟩

namespace JournalStep

theorem events_subset (h : JournalStep j thread j') : j.events ⊆ j'.events := by
  cases h
  case keeps  => exact List.Subset.refl _
  case writes => rw [Journal.events_append]; exact List.subset_append_left ..
  case marks  => rw [Journal.events_deliver]; exact List.Subset.refl _

theorem paired (h : JournalStep j thread j') (hp : j.Paired) : j'.Paired := by
  cases h
  case keeps  => exact hp
  case writes => exact hp.append rfl rfl
  case marks  => exact hp.deliver

theorem accounted (h : JournalStep j thread j') (hn : (j.outbox.map (·.outboxId)).Nodup)
    (hc : thread.Copies j A) (ha : Accounted A j) : Accounted A j' := by
  cases h
  case keeps => exact ha
  case writes w ids p =>
    intro o ho
    rcases List.mem_append.mp ho with ho | ho
    case inl => exact ha o ho
    case inr => exact .inl <| List.mem_singleton.mp ho ▸ rfl
  case marks record rest =>
    intro o ho
    rcases Journal.mem_deliver ho with hm | ⟨hi, hd⟩
    case inl => exact ha o hm
    case inr =>
      -- The record that has been marked is the one whose copy the processor holds.
      have he : o.event ∈ j.events := Journal.events_deliver ▸ List.mem_map_of_mem ho
      have hr : record.event ∈ j.events := hc.right record <| List.mem_cons_self ..
      have hn : (j.events.map (·.outboxId)).Nodup := by
        simpa [Journal.events, OutboxRecord.event, Function.comp_def] using hn
      exact .inr ⟨hd, record, hc.left, List.inj_on_of_nodup_map hn hr he hi.symm⟩

-- A record that has been delivered stays delivered.
theorem delivered (h : JournalStep j thread j') (ho : o ∈ j.outbox) (hd : o.status = .delivered) :
    o ∈ j'.outbox := by
  cases h
  case keeps  => exact ho
  case writes => exact List.mem_append_left _ ho
  case marks record _ =>
    refine List.mem_map.mpr ⟨o, ho, ?_⟩
    split
    case isTrue  => rw [← hd]
    case isFalse => rfl

end JournalStep

-- What is known of a state after the events of `A` have been published.
structure Corresponds (A : Set OutboxRecord) (s : State ι) (j : Journal) : Prop where
  records   : s.shared.repo.Records j
  paired    : j.Paired
  accounted : Accounted A j
  copies    : ∀ i, (s.locals i).Copies j A

theorem Corresponds.init {threads : ι → Thread} (hs : ∀ i, (threads i).Starts) :
    Corresponds ∅ (State.init threads) {} where
  records     := .init
  paired      := rfl
  accounted o := by simp
  copies i    := by
    cases h : threads i
    all_goals have hi := h ▸ hs i
    case outboxProcessor pc => cases hi; simp [h, Thread.Copies]
    all_goals simp [h, Thread.Copies]

section Step

variable [Sha256] {config : AppConfig} {env : Env}
variable {svc : ImmutableLedgerService InMemoryLedgerRepository}

theorem step_copies (config : AppConfig) (r : svc.repo.Records j) (ha : Allows env svc thread)
    (hc : thread.Copies j A)
    (hA : ∀ o rest, env.outbox.published →
      thread = .outboxProcessor (.publish <| o :: rest) → o ∈ A) :
    (step config env svc thread).2.Copies j A := by
  cases thread
  case writeEntry => trivial
  case query q answer => cases answer <;> trivial
  case outboxProcessor pc =>
    cases pc
    case pendingOutbox =>
      intro o ho
      have hp : (env.outbox.pending : Multiset OutboxRecord) = svc.repo.pendingOutbox := ha
      rw [r.pendingOutbox, Multiset.coe_eq_coe] at hp
      exact List.mem_map_of_mem <| List.mem_of_mem_filter <| hp.mem_iff.mp ho
    case publish records =>
      cases records
      case nil => trivial
      case cons record rest =>
        cases hp : env.outbox.published
        case false =>
          simp only [step, OutboxProcessor.step, hp, cond_false]
          exact fun o ho => hc o <| List.mem_cons_of_mem record ho
        case true =>
          simp only [step, OutboxProcessor.step, hp, cond_true]
          exact ⟨hA record rest hp rfl, hc⟩
    case markOutboxDelivered record rest =>
      exact fun o ho => hc.right o <| List.mem_cons_of_mem record ho

variable [DecidableEq ι] {g : Guard ι (ImmutableLedgerService InMemoryLedgerRepository) Thread Env}
variable {s s₁ s₂ : State ι} {threads : ι → Thread}

theorem Corresponds.next {e : ι × Env} (h : Corresponds A s j)
    (ha : (server ι config).allows e.1 e.2 s.shared (s.locals e.1)) :
    ∃ j', Corresponds (A ∪ published s e) (s.next (server ι config) e.1 e.2) j' := by
  obtain ⟨j', r', hj⟩ := step_records config h.records ha
  have hA : A ⊆ A ∪ published s e := Set.subset_union_left
  have own := step_copies config (A := A ∪ published s e) h.records ha
    ((h.copies e.1).mono (List.Subset.refl _) hA) (fun o rest hp hl => .inr ⟨hp, rest, hl⟩)
  refine ⟨j', r', hj.paired h.paired, ?accounted, ?copies⟩
  case accounted => exact (hj.accounted h.records.outbox.nodup (h.copies e.1) h.accounted).mono hA
  case copies =>
    refine State.forall_next_locals (own.mono hj.events_subset (Set.Subset.refl _)) ?_
    exact fun i _ => (h.copies i).mono hj.events_subset hA

theorem run_corresponds (hs : ∀ i, (threads i).Starts)
    (r : Interleaving.Run (server ι config) g (State.init threads) s) :
    ∃ j, Corresponds (r.collect published) s j :=
  r.invariant_fold (P := fun A s => ∃ j, Corresponds A s j) (fun ⟨_, h⟩ ha _ => h.next ha)
    ⟨_, .init hs⟩

theorem run_delivered (h : s₁.shared.repo.Records j) (ho : o ∈ j.outbox) (hd : o.status = .delivered)
    (r : Interleaving.Run (server ι config) g s₁ s₂) :
    s₂.shared.repo.outbox.lookup o.outboxId = some o := by
  let P (s : State ι) : Prop := ∃ j, s.shared.repo.Records j ∧ o ∈ j.outbox
  have hp : P s₂ := by
    refine r.invariant (P := P) ?_ ⟨j, h, ho⟩
    rintro s e ⟨j, hr, ho⟩ ha -
    obtain ⟨j', hr', hj⟩ := step_records config hr ha
    exact ⟨j', hr', hj.delivered ho hd⟩
  obtain ⟨_, hr, ho⟩ := hp
  exact hr.outbox.lookup_of_mem ho

theorem run_outbox_corresponds (hs : ∀ i, (threads i).Starts)
    (r₁ : Interleaving.Run (server ι config) g (State.init threads) s₁)
    (r₂ : Interleaving.Run (server ι config) g s₁ s₂) :
    (∀ id e, s₁.shared.repo.entries.lookup id = some e →
      ∃! outboxId, ∃ o, s₁.shared.repo.outbox.lookup outboxId = some o ∧ Announces o e) ∧
    (∀ outboxId o, s₁.shared.repo.outbox.lookup outboxId = some o →
      ∃! id, ∃ e, s₁.shared.repo.entries.lookup id = some e ∧ Announces o e) ∧
    (∀ outboxId o, s₁.shared.repo.outbox.lookup outboxId = some o → o.status = .delivered →
      (∃ o' ∈ r₁.collect published,
        o'.outboxId = outboxId ∧ o'.entryType = o.entryType ∧ o'.payload = o.payload) ∧
      s₂.shared.repo.outbox.lookup outboxId = some o) ∧
    (∀ outboxId o, s₁.shared.repo.outbox.lookup outboxId = some o →
      (∀ o' ∈ r₁.collect published, o'.outboxId ≠ outboxId) → o ∈ s₁.shared.repo.pendingOutbox) := by
  obtain ⟨j, h⟩ := run_corresponds hs r₁
  refine ⟨?entry, ?record, ?delivered, ?pending⟩
  case entry  => exact fun id e he => h.records.existsUnique_outbox h.paired he
  case record => exact fun outboxId o ho => h.records.existsUnique_entry h.paired ho
  case delivered =>
    intro outboxId o ho hd
    obtain ⟨hm, rfl⟩ := h.records.outbox.mem_of_lookup ho
    refine ⟨?_, run_delivered h.records hm hd r₂⟩
    obtain hp | ⟨-, o', hA, he⟩ := h.accounted o hm
    case inl => simp [hd] at hp
    case inr =>
      exact ⟨o', hA, congrArg (·.outboxId) he, congrArg (·.entryType) he, congrArg (·.payload) he⟩
  case pending =>
    intro outboxId o ho hn
    obtain ⟨hm, rfl⟩ := h.records.outbox.mem_of_lookup ho
    obtain hp | ⟨-, o', hA, he⟩ := h.accounted o hm
    case inl => rw [h.records.pendingOutbox]; simp [hm, hp]
    case inr => exact absurd (congrArg (·.outboxId) he) (hn o' hA)

end Step

section Sample

open scoped Sha256.Standard
open WriteEntry (sampleConfig)

def deliveryInput : WriteEntryInput where
  entryType      := "ACTION_RECEIPT"
  agentId        := "agent-1"
  content        := []
  contentType    := "application/json"
  sourceId       := "source"
  correlationId  := none
  idempotencyKey := none

-- One call that writes, and the outbox processor.
def deliveryThreads (writes : Bool) : Thread :=
  bif writes then .writeEntry deliveryInput .start else .outboxProcessor .pendingOutbox

def deliveryRecord : OutboxRecord :=
  (deliveryInput.toEntryWriteInput 1 0 sampleConfig.genesisHash).toOutbox ⟨2, 3⟩

def deliverySchedule : List (Bool × Env) :=
  [true, true, true, false, false, false].map fun turn =>
    (turn, ⟨⟨0, 1, ⟨2, 3⟩⟩, ⟨[deliveryRecord], true⟩, []⟩)

theorem delivered_record_corresponds :
    ∃ s, ∃ r : Interleaving.Run (server Bool sampleConfig) .any (State.init deliveryThreads) s,
      (∃ o' ∈ r.collect published, o'.outboxId = 3 ∧ o'.payload = deliveryRecord.payload) ∧
      ∃! id, ∃ e, s.shared.repo.entries.lookup id = some e ∧
        Announces { deliveryRecord with status := .delivered } e := by
  obtain ⟨ha, ho⟩ : Transition.Admissible (server Bool sampleConfig).interleaved .any
        (State.init deliveryThreads) deliverySchedule ∧
      (Transition.exec (server Bool sampleConfig).interleaved (State.init deliveryThreads)
        deliverySchedule).shared.repo.outbox.lookup 3 =
          some { deliveryRecord with status := .delivered } := by
    decide +kernel
  have r := Transition.Run.ofSchedule deliverySchedule ha
  have hs i : (deliveryThreads i).Starts := by
    cases i
    case false => exact .outboxProcessor
    case true  => exact .writeEntry
  obtain ⟨-, hr, hd, -⟩ := run_outbox_corresponds hs r .refl
  obtain ⟨⟨o', hA, hi, -, hp⟩, -⟩ := hd 3 _ ho rfl
  exact ⟨_, r, ⟨o', hA, hi, hp⟩, hr 3 _ ho⟩

end Sample

end Server

end Ledger
