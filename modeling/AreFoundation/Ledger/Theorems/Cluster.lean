import AreFoundation.Library.Sha256
import AreFoundation.Ledger.Chain
import AreFoundation.Ledger.Cluster
import AreFoundation.Ledger.Theorems.Linearizable

open Interleaving ReadCommitted

namespace Ledger

-- The entries of one type in the order in which they have been committed.
def Tables.chain (t : Tables) (entryType : String) : List LedgerEntryRecord :=
  t.ledgerEntries.filter (·.entryType = entryType)

theorem Tables.chain_insertEntry {t : Tables} (entry : LedgerEntryRecord)
    (entryType : String) :
    (t.apply (.insertEntry entry)).chain entryType =
      if entry.entryType = entryType then t.chain entryType ++ [entry] else t.chain entryType := by
  unfold Tables.chain Tables.apply
  rw [List.filter_append]
  split
  case isTrue h  => rw [List.filter_singleton, decide_eq_true h]; rfl
  case isFalse h => rw [List.filter_singleton, decide_eq_false h]; exact List.append_nil _

namespace Cluster

open Transactions (Connections Call Stage Change storedAs text_eq_some
  varchar_of_length_le)

theorem tipRow_of_getChainTip (h : PostgresClient.getChainTip t entryType = .ok tip) :
    ∃ row, t.tipRow entryType = some row ∧ row.toTip = tip := by
  unfold PostgresClient.getChainTip at h
  split at h
  case h_1 => cases h
  case h_2 sent hs =>
    cases text_eq_some hs
    unfold Tables.getChainTip at h
    split at h
    case h_1        => cases h
    case h_2 row hr => exact ⟨row, hr, Except.ok.inj h⟩

theorem mem_of_findIdempotent (h : PostgresClient.findIdempotent t entryType key = .ok (some e)) :
    e ∈ t.ledgerEntries ∧ e.entryType = entryType ∧ e.idempotencyKey = some key := by
  unfold PostgresClient.findIdempotent at h
  split at h
  case h_2 => cases h
  case h_1 sent sentKey hs hk =>
    cases text_eq_some hs
    cases text_eq_some hk
    have hf := Except.ok.inj h
    have hd := List.find?_some hf
    exact ⟨List.mem_of_find?_eq_some hf, of_decide_eq_true hd⟩

-- The widths of the columns whose values are hashed.
structure Fits (input : WriteEntryInput) : Prop where
  entryType   : input.entryType.length ≤ 50
  agentId     : input.agentId.length ≤ 100
  contentType : input.contentType.length ≤ 100
  sourceId    : input.sourceId.length ≤ 100

-- The clock is past the epoch of the database, so that fractions of a microsecond are cut off
-- downwards.
def AfterEpoch : Guard ι (Shared ι π) Pc WriteEntry.Env :=
  fun _ e => Sql.epoch ≤ e.2.now

theorem timestampMillis_of_timestamptz (h : Sql.timestamptz now = some ts) (hn : Sql.epoch ≤ now) :
    DateTime.timestampMillis ts = DateTime.timestampMillis now := by
  unfold Sql.timestamptz at h
  dsimp only at h
  split at h
  case isFalse => cases h
  case isTrue  =>
    cases h
    have hn : (946684800000000000 : Int) ≤ now := hn
    unfold DateTime.timestampMillis Sql.epoch
    rw [Int.tdiv_eq_ediv_of_nonneg (by omega)]
    omega

variable [Sha256] {config : AppConfig} {input : WriteEntryInput}

-- A call has computed what it writes from the tip that it has read.
structure Honest (config : AppConfig) (input : WriteEntryInput) (t : Tables) (call : Call) : Prop where
  written : ∃ eventId now, call.input =
    input.toEntryWriteInput eventId now call.input.previousHash ∧ Sql.epoch ≤ now
  width   : call.input.previousHash.length ≤ 64
  follows : call.input.previousHash = config.genesisHash ∨ t.chain input.entryType ≠ []

namespace Honest

variable {t : Tables} {call : Call} {row : EntryWriteInput}

theorem entryType_eq (h : Honest config input t call) : call.input.entryType = input.entryType := by
  obtain ⟨_, _, he, _⟩ := h.written
  rw [he]
  rfl

theorem mono (h : Honest config input t call)
    (ht : t.chain input.entryType ⊆ t'.chain input.entryType) :
    Honest config input t' call where
  written := h.written
  width   := h.width
  follows := h.follows.imp_right fun hn he => hn <| List.subset_nil.mp (he ▸ ht)

variable (h : Honest config input t call) (hf : Fits input) (hs : call.input.stored = some row)

include h hf hs

-- The columns keep everything that the hash of an entry depends on.
theorem stored (ids : NewIds) (position : Int) :
    row.entryType = input.entryType ∧ row.previousHash = call.input.previousHash ∧
    (row.toEntry ids position).entryHash = (row.toEntry ids position).recomputedHash ∧
    (row.toEntry ids position).toOutput = (call.input.toEntry ids position).toOutput := by
  have hr := storedAs hs
  have hw := h.width
  obtain ⟨eventId, now, he, hn⟩ := h.written
  generalize call.input.previousHash = prev at he hw ⊢
  rw [he] at hr ⊢
  have ht : row.entryType = input.entryType := varchar_of_length_le hf.entryType hr.entryType
  have ha : row.agentId = input.agentId := varchar_of_length_le hf.agentId hr.agentId
  have hc : row.contentType = input.contentType := varchar_of_length_le hf.contentType hr.contentType
  have hi : row.sourceId = input.sourceId := varchar_of_length_le hf.sourceId hr.sourceId
  have hp : row.previousHash = prev := varchar_of_length_le hw hr.previousHash
  have hm : DateTime.timestampMillis row.writtenTs = DateTime.timestampMillis now :=
    timestampMillis_of_timestamptz hr.writtenTs hn
  have hh : row.entryHash = (input.toEntryWriteInput eventId now prev).entryHash :=
    varchar_of_length_le (length_sha256Hex _).le hr.entryHash
  refine ⟨ht, hp, ?_, ?_⟩
  case refine_1 =>
    simp only [EntryWriteInput.toEntry, LedgerEntryRecord.recomputedHash, ht, ha, hc, hi, hp, hm, hh,
      hr.content]
    rfl
  case refine_2 =>
    simp only [EntryWriteInput.toEntry, LedgerEntryRecord.toOutput, hm, hh]
    rfl

end Honest

section Chains

variable {t : Tables}

theorem tipRow_eq (hw : WellFormed config (t.chain entryType)) :
    t.tipRow entryType = (t.chain entryType).getLast? :=
  maxOn?_of_positions hw.positions

-- The entry of an honest call follows the tip that it has found under the lock.
theorem wellFormed_insert (hw : WellFormed config (t.chain input.entryType))
    (h : Honest config input t call) (hf : Fits input) (hs : call.input.stored = some row)
    (hn : t.checkTip call.input = .ok position) (ids : NewIds) :
    WellFormed config (t.chain input.entryType ++ [row.toEntry ids position]) := by
  obtain ⟨ht, hp, hh, _⟩ := h.stored hf hs ids position
  let c : Chain config := ⟨_, hw⟩
  have he : c.Extends (row.toEntry ids position) := by
    unfold Tables.checkTip at hn
    rw [h.entryType_eq, tipRow_eq hw] at hn
    cases hl : (t.chain input.entryType).getLast?
    case none =>
      have hc : c.entries = [] := List.getLast?_eq_none_iff.mp hl
      rw [hl] at hn
      dsimp only at hn
      split at hn
      case isTrue  => cases hn
      case isFalse =>
        cases hn
        refine ⟨by simp [hc, EntryWriteInput.toEntry], ?_, hh⟩
        rw [Chain.lastHash_of_tip?_none (Chain.tip?_eq_none_iff.mpr hc)]
        exact hp.trans <| h.follows.resolve_right fun hne => hne hc
    case some tip =>
      rw [hl] at hn
      dsimp only at hn
      split at hn
      case isTrue     => cases hn
      case isFalse he =>
        cases hn
        refine ⟨?_, ?_, hh⟩
        case refine_1 =>
          exact congrArg (· + 1) (position_getLast_of_positions hw.positions hl)
        case refine_2 =>
          have htip : c.tip? = some tip.toTip := by
            rw [Chain.tip?, show c.entries.getLast? = _ from hl]
            rfl
          rw [Chain.lastHash_of_tip?_some htip]
          exact hp.trans (not_not.mp he).symm
  exact (c.append _ he).wellFormed

end Chains

structure Inv (config : AppConfig) (sh : Shared ι π) : Prop where
  exclusive  : sh.db.Exclusive Change.key
  wellFormed : ∀ t, WellFormed config (sh.db.committed.chain t)

theorem honest_write {sh : Shared ι π} {env : WriteEntry.Env}
    (hw : WellFormed config (sh.db.committed.chain input.entryType))
    (hn : Sql.epoch ≤ env.now)
    (h : prev = config.genesisHash ∨
      ∃ tip, sh.db.committed.tipRow input.entryType = some tip ∧ tip.entryHash = prev) :
    Honest config input sh.db.committed (write input env prev) where
  written := ⟨env.eventId, env.now, rfl, hn⟩
  width   := by
    rcases h with rfl | ⟨tip, ht, rfl⟩
    case inl => exact (length_sha256Hex _).le
    case inr =>
      rw [tipRow_eq hw] at ht
      have he := hw.hashes tip (List.mem_of_getLast? ht)
      exact ((congrArg String.length he).trans <| length_sha256Hex _).le
  follows := by
    refine h.imp_right fun ⟨tip, ht, _⟩ => ?_
    rw [tipRow_eq hw] at ht
    exact List.ne_nil_of_mem (List.mem_of_getLast? ht)

variable [Database]

-- What is known about a call at each of its points. An entry that has been reported is committed.
def Asn (config : AppConfig) (calls : ι → WriteEntryInput) (i : ι) (pc : Pc) (sh : Shared ι π) : Prop :=
  match pc with
  | .writeEntryWithOutbox _ call pc =>
    Stage call i pc sh.db ∧ pc.result = none ∧ Honest config (calls i) sh.db.committed call
  | .returned (.ok out)             =>
    sh.db.pending i = [] ∧ ∃ e ∈ sh.db.committed.ledgerEntries, e.toOutput = out
  | _                               => sh.db.pending i = []

theorem Asn.congr {sh sh' : Shared ι π} (h : Asn config calls j pc sh) (hd : sh'.db = sh.db) :
    Asn config calls j pc sh' := by
  unfold Asn at h ⊢
  rw [hd]
  exact h

-- A call that has not written its entry goes on, tries again or fails.
theorem asn_resume {sh : Shared ι π} (hs : Stage call i tx sh.db)
    (hh : Honest config (calls i) sh.db.committed call)
    (ho : ∀ result, tx ≠ .returned (.ok result)) :
    Asn config calls i (resume input env attempt call tx) sh := by
  cases tx
  case returned result =>
    cases result
    case ok result => exact absurd rfl (ho result)
    case error err =>
      cases err
      case chainIntegrityViolation =>
        simp only [resume, WriteEntry.written]
        split <;> exact hs
      all_goals exact hs
  all_goals exact ⟨hs, rfl, hh⟩

section Step

variable [DecidableEq ι] [DecidableEq π] {calls : ι → WriteEntryInput} {process : ι → π}
variable {i : ι} {env : WriteEntry.Env} {sh : Shared ι π} {pc : Pc}

def Keeps (config : AppConfig) (calls : ι → WriteEntryInput) (i : ι) (r : Shared ι π × Pc) : Prop :=
  Inv config r.1 ∧ Asn config calls i r.2 r.1

theorem step_getChainTip (hi : Inv config sh) (ha : Asn config calls i (.getChainTip attempt) sh)
    (hn : Sql.epoch ≤ env.now) :
    Keeps config calls i
      (step config (calls i) (process i) i env sh (.getChainTip attempt)) := by
  have hw := hi.wellFormed (calls i).entryType
  simp only [step, WriteEntry.chainTip]
  split
  case isFalse => exact ⟨hi, ha⟩
  case isTrue  =>
    split
    case h_1 tip ht =>
      obtain ⟨row, hr, rfl⟩ := tipRow_of_getChainTip ht
      exact ⟨hi, ha, rfl, honest_write hw hn (.inr ⟨row, hr, rfl⟩)⟩
    case h_2 => exact ⟨hi, ha, rfl, honest_write hw hn (.inl rfl)⟩
    case h_3 => exact ⟨hi, ha⟩

theorem step_findIdempotent (hi : Inv config sh) (ha : Asn config calls i (.findIdempotent key) sh) :
    Keeps config calls i (step config (calls i) (process i) i env sh (.findIdempotent key)) := by
  simp only [step, WriteEntry.idempotent]
  split
  case h_1 => exact ⟨hi, ha⟩
  case h_3 => exact ⟨hi, ha⟩
  case h_2 existing he =>
    exact ⟨hi, ha, existing, (mem_of_findIdempotent he).left, rfl⟩

theorem step_committing (hf : Fits (calls i)) (hi : Inv config sh)
    (hs : Stage call i (.committing position) sh.db)
    (hh : Honest config (calls i) sh.db.committed call) :
    Keeps config calls i
      (step config (calls i) (process i) i env sh
        (.writeEntryWithOutbox attempt call (.committing position))) := by
  obtain ⟨_, hn, row, payload, hr, _, _, _, hp⟩ := hs
  obtain ⟨ht, _, _, hout⟩ := hh.stored hf hr call.ids position
  have hc : (sh.db.commit i Tables.apply).committed =
      (sh.db.committed.apply (.insertEntry (row.toEntry call.ids position))).apply
        (.insertOutbox (call.outboxRow row payload)) :=
    Transactions.Commits.committed ⟨hp, ht.trans hh.entryType_eq.symm⟩
  refine ⟨⟨hi.exclusive.commit, fun t => ?_⟩, Store.commit_pending_self, row.toEntry call.ids position,
    ?_, hout⟩
  case refine_1 =>
    have he := Tables.chain_insertEntry (t := sh.db.committed) (row.toEntry call.ids position) t
    change WellFormed config ((sh.db.commit i Tables.apply).committed.chain t)
    rw [hc]
    refine he.symm ▸ ?_
    split
    case isTrue htt =>
      cases ht.symm.trans htt
      exact wellFormed_insert (hi.wellFormed _) hh hf hr hn call.ids
    case isFalse => exact hi.wellFormed t
  case refine_2 =>
    change _ ∈ (sh.db.commit i Tables.apply).committed.ledgerEntries
    rw [hc]
    exact List.mem_append_right _ (List.mem_singleton_self _)

theorem step_writeEntryWithOutbox (hf : Fits (calls i)) (hi : Inv config sh)
    (ha : Asn config calls i (.writeEntryWithOutbox attempt call tx) sh)
    (hr : Transactions.Ready call i sh.db tx) :
    Keeps config calls i
      (step config (calls i) (process i) i env sh (.writeEntryWithOutbox attempt call tx)) := by
  obtain ⟨hs, hn, hh⟩ := ha
  have hadv := Transactions.step_advances hi.exclusive hs hr
  by_cases hp : ∃ position, tx = .committing position
  case pos =>
    obtain ⟨position, rfl⟩ := hp
    exact step_committing hf hi hs hh
  case neg =>
    push Not at hp
    have hc : (Transactions.step call i sh.db tx).1.committed = sh.db.committed :=
      Transactions.committed_step hp
    refine ⟨⟨hadv.exclusive, fun t => ?_⟩, asn_resume hadv.stage ?_ (Transactions.step_ne_ok hp hn)⟩
    case refine_1 => exact hc.symm ▸ hi.wellFormed t
    case refine_2 => exact hc.symm ▸ hh

theorem step_keeps (hf : Fits (calls i)) (hn : Sql.epoch ≤ env.now) (hi : Inv config sh)
    (ha : Asn config calls i pc sh) (hr : Ready i sh pc) :
    Keeps config calls i (step config (calls i) (process i) i env sh pc) := by
  cases pc
  case findIdempotent       => exact step_findIdempotent hi ha
  case getChainTip          => exact step_getChainTip hi ha hn
  case writeEntryWithOutbox => exact step_writeEntryWithOutbox hf hi ha hr
  case haltChain            => exact ⟨⟨hi.exclusive, hi.wellFormed⟩, ha⟩
  case returned             => exact ⟨hi, ha⟩
  case start                =>
    simp only [step, WriteEntry.begin]
    repeat' split
    all_goals exact ⟨hi, ha⟩

end Step

section Stable

variable [DecidableEq ι] [DecidableEq π] {calls : ι → WriteEntryInput} {process : ι → π}
variable {i j : ι} {env : WriteEntry.Env} {sh : Shared ι π} {pc pc' : Pc}

theorem step_db (hp : ∀ attempt call tx, pc ≠ .writeEntryWithOutbox attempt call tx) :
    (step config input p i env sh pc).1.db = sh.db := by
  cases pc <;> simp only [step]
  case writeEntryWithOutbox => exact absurd rfl (hp _ _ _)
  all_goals repeat' split
  all_goals rfl

theorem Asn.step (h : Asn config calls j pc' sh) (hf : Fits (calls i)) (hj : j ≠ i)
    (hi : Inv config sh) (ha : Asn config calls i pc sh) :
    Asn config calls j pc' (step config (calls i) (process i) i env sh pc).1 := by
  by_cases hp : ∃ attempt call tx, pc = .writeEntryWithOutbox attempt call tx
  case neg =>
    push Not at hp
    exact h.congr (step_db hp)
  case pos =>
    obtain ⟨attempt, call, tx, rfl⟩ := hp
    obtain ⟨hs, _, hh⟩ := ha
    have hl : call.input.entryType.length ≤ 50 := hh.entryType_eq ▸ hf.entryType
    have hp := Transactions.pending_step call sh.db tx hj
    have hc := Transactions.subset_step call i sh.db tx
    cases pc'
    case writeEntryWithOutbox =>
      obtain ⟨hs', hn', hh'⟩ := h
      exact ⟨hs'.step hs hl hi.exclusive hj, hn', hh'.mono (List.filter_subset _ hc)⟩
    case returned result =>
      cases result
      case error => exact hp.trans h
      case ok    =>
        obtain ⟨hq, e, he, ho⟩ := h
        exact ⟨hp.trans hq, e, hc he, ho⟩
    all_goals exact hp.trans h

end Stable

section Run

variable [DecidableEq ι] [DecidableEq π] {calls : ι → WriteEntryInput} {process : ι → π}
variable {s : State ι (Shared ι π) Pc} {t : Tables}

def outline (config : AppConfig) (process : ι → π) (hf : ∀ i, Fits (calls i)) :
    Outline (system config calls process) AfterEpoch where
  inv                    := Inv config
  asn                    := Asn config calls
  stable hj hi ha hb _ _ := hb.step (hf _) hj hi ha
  keeps hi ha hr hn      := by
    rw [State.next_locals_self]
    exact step_keeps (hf _) hn hi ha hr

theorem outline_opened (hf : ∀ i, Fits (calls i)) : (outline config process hf).Holds (opened ι π {}) :=
  ⟨⟨⟨nofun⟩, fun _ => .nil⟩, fun _ => rfl⟩

-- However many processes write to the ledger, every chain is well-formed at all times, and an entry that
-- has been reported to a caller is part of it.
theorem run_cluster_wellFormed (hf : ∀ i, Fits (calls i))
    (r : Run (system config calls process) AfterEpoch (opened ι π {}) s) :
    (∀ entryType, WellFormed config (s.shared.db.committed.chain entryType)) ∧
    ∀ i out, s.locals i = .returned (.ok out) →
      ∃ e ∈ s.shared.db.committed.ledgerEntries, e.toOutput = out := by
  have h := (outline_opened hf).run r
  refine ⟨h.inv.wellFormed, fun i out hl => ?_⟩
  have ha := h.asn i
  rw [hl] at ha
  exact ha.right

end Run

end Cluster

namespace Cluster.Sample

open scoped Sha256.Standard Transactions.Sample

instance (s : State ι (Shared ι π) Pc) (e : ι × WriteEntry.Env) : Decidable (AfterEpoch s e) :=
  inferInstanceAs <| Decidable (Sql.epoch ≤ e.2.now)

def writers (second : Bool) : WriteEntryInput where
  entryType      := "ACTION_RECEIPT"
  agentId        := "agent"
  content        := if second then [2] else [1]
  contentType    := "application/json"
  sourceId       := "source"
  correlationId  := none
  idempotencyKey := none

def turn (second : Bool) (n : Nat) : Bool × WriteEntry.Env where
  fst := second
  snd :=
    { now     := 1700000000000000000
      eventId := .ofNat 128 (3 * n)
      newIds  := ⟨.ofNat 128 (3 * n + 1), .ofNat 128 (3 * n + 2)⟩ }

-- Both processes read the tip before one of them writes. The other one finds out and tries again.
def schedule : List (Bool × WriteEntry.Env) :=
  (List.range 4).map (fun n => turn (n % 2 = 1) n) ++ (List.range 6).map (turn false <| · + 4) ++
    (List.range 11).map (turn true <| · + 10)

def config : AppConfig where
  maxContentSizeBytes := 1048576
  genesisHashInput    := "genesis"

def written : State Bool (Shared Bool Bool) Pc :=
  Transition.exec (system config writers id).interleaved (opened Bool Bool {}) schedule

def writtenRun : Run (system config writers id) AfterEpoch (opened Bool Bool {}) written :=
  .ofSchedule schedule (by decide +kernel)

theorem written_wellFormed :
    (written.shared.db.committed.chain "ACTION_RECEIPT").length = 2 ∧
    WellFormed config (written.shared.db.committed.chain "ACTION_RECEIPT") := by
  have hf : ∀ i, Fits (writers i) := by
    intro i
    cases i <;> exact ⟨by decide, by decide, by decide, by decide⟩
  exact ⟨by decide +kernel, (run_cluster_wellFormed hf writtenRun).left _⟩

end Cluster.Sample

end Ledger
